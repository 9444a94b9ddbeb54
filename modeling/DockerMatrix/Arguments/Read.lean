/-
# Reading the command line

Arguments are read from left to right, and the first thing that is wrong stops the reading.

| argument | read as |
| --- | --- |
| `--` | the end of the options; an argument after it is unexpected |
| `--NAME`, `--NAME=VALUE` | an option, with the value attached to it |
| `-LETTER`, `-LETTERVALUE`, `-LETTER=VALUE` | an option, with the value attached to it |
| anything else, `-` too | the value of the setting before it, if that has none yet |

A setting whose value is not attached is *pending*: it is settled, and its value checked, when the
next option or the end is reached. An unexpected argument and a value that a switch does not take
stop the reading before the pending setting is settled.

A setting is settled in this order: there has to be a value; it may not have been given before; the
value has to be right. At the end the settings that have a variable and are not given are settled
with the variable's value, and then the required settings have to be there.
-/

import DockerMatrix.Arguments.Stop
import DockerMatrix.FileTree.Resolve

namespace DockerMatrix

open Text (Bytes)

/-- What the command line asks for. -/
structure Arguments where
  os : OperatingSystem
  hardware : Hardware
  osVersion : Option String
  outputDirectory : Option Path
  dryRun : Bool
  logFilter : Option String
  deriving DecidableEq, Repr

namespace Arguments

/-- The form of an argument. -/
inductive Token
  | terminator
  | named (name : Bytes) (attached : Option Bytes)
  | lettered (letters : Bytes)
  | plain (text : Bytes)
  deriving DecidableEq, Repr

/-- The byte `-`. -/
def dash : UInt8 := 45

/-- The byte `=`. -/
def equals : UInt8 := 61

/-- The bytes before the first `=`, and those after it if there is one. -/
def splitAtEquals : Bytes → Bytes × Option Bytes
  | [] => ([], none)
  | b :: rest =>
    if b = equals then ([], some rest)
    else
      let r := splitAtEquals rest
      (b :: r.1, r.2)

/-- The form of an argument. -/
def Token.ofBytes (argument : Bytes) : Token :=
  match argument with
  | b :: c :: rest =>
    if b = dash then
      if c = dash then
        if rest.isEmpty then .terminator
        else
          let r := splitAtEquals rest
          .named r.1 r.2
      else .lettered (c :: rest)
    else .plain argument
  | _ => .plain argument

/-- What is settled so far. -/
structure Gathered where
  os : Option OperatingSystem
  hardware : Option Hardware
  osVersion : Option String
  outputDirectory : Option Path
  dryRun : Bool
  logFilter : Option String
  deriving DecidableEq, Repr

namespace Gathered

/-- Nothing is settled. -/
def empty : Gathered := ⟨none, none, none, none, false, none⟩

/-- Whether a setting is settled. -/
def has (g : Gathered) : Setting → Bool
  | .os => g.os.isSome
  | .hardware => g.hardware.isSome
  | .osVersion => g.osVersion.isSome
  | .outputDirectory => g.outputDirectory.isSome
  | .logFilter => g.logFilter.isSome

/-- Settles a setting with a value that is not empty, if the value is right for it. `kindOf` says
what stands at a path. -/
def assign (kindOf : Path → PathKind) (g : Gathered) (s : Setting) (value : Bytes) :
    Except Stop Gathered :=
  match s with
  | .os =>
    match (Text.decode? value).bind (OperatingSystem.ofName? false) with
    | some os => .ok { g with os := some os }
    | none => .error (.noChoice s value)
  | .hardware =>
    match (Text.decode? value).bind (Hardware.ofName? false) with
    | some hardware => .ok { g with hardware := some hardware }
    | none => .error (.noChoice s value)
  | .osVersion =>
    match Text.decode? value with
    | some text => .ok { g with osVersion := some text }
    | none => .error .notText
  | .outputDirectory =>
    match kindOf value with
    | .directory => .ok { g with outputDirectory := some value }
    | .other => .error (.noDirectory value .notDirectory)
    | .absent => .error (.noDirectory value .absent)
  | .logFilter =>
    match Text.decode? value with
    | some text => .ok { g with logFilter := some text }
    | none => .error .notText

/-- Settles a setting. -/
def settle (kindOf : Path → PathKind) (g : Gathered) (s : Setting) (value : Option Bytes) :
    Except Stop Gathered :=
  match value with
  | none => .error (.valueMissing s)
  | some value =>
    if g.has s then .error (.repeated (.setting s))
    else if value.isEmpty then .error (.valueMissing s)
    else g.assign kindOf s value

end Gathered

/-- What is settled, and the pending setting with its value if it has one yet. -/
structure Progress where
  gathered : Gathered
  pending : Option (Setting × Option Bytes)
  deriving DecidableEq, Repr

namespace Progress

/-- Before the first argument. -/
def start : Progress := ⟨Gathered.empty, none⟩

/-- What is settled once the pending setting is. -/
def settled (kindOf : Path → PathKind) (p : Progress) : Except Stop Gathered :=
  match p.pending with
  | none => .ok p.gathered
  | some (s, value) => p.gathered.settle kindOf s value

/-- Goes on with a setting and the value attached to it, if there is one. -/
def setting (kindOf : Path → PathKind) (p : Progress) (s : Setting) (attached : Option Bytes) :
    Except Stop Progress :=
  match p.settled kindOf with
  | .error e => .error e
  | .ok g =>
    match attached with
    | none => .ok ⟨g, some (s, none)⟩
    | some value => (g.settle kindOf s (some value)).map fun g' => ⟨g', none⟩

/-- Goes on with a switch. Help is the long one if it is asked for by name. -/
def switch (kindOf : Path → PathKind) (p : Progress) (w : Switch) (extent : Extent) :
    Except Stop Progress :=
  match p.settled kindOf with
  | .error e => .error e
  | .ok g =>
    match w with
    | .dryRun =>
      if g.dryRun then .error (.repeated (.switch .dryRun))
      else .ok ⟨{ g with dryRun := true }, none⟩
    | .help => .error (.help extent)
    | .version => .error .version

/-- Goes on with an option by its name. -/
def named (kindOf : Path → PathKind) (p : Progress) (name : Bytes) (attached : Option Bytes) :
    Except Stop Progress :=
  match (Text.decode? name).bind Item.ofName?, attached with
  | none, _ => .error (.unexpected ("--" ++ Text.lossy name))
  | some (.setting s), _ => p.setting kindOf s attached
  | some (.switch w), some value => .error (.valueNotTaken w value)
  | some (.switch w), none => p.switch kindOf w .long

/-- The first character of bytes, or all that is shown of them if they do not begin with one. -/
def firstShown (letters : Bytes) : String :=
  match Text.units none letters with
  | some c :: _ => String.singleton c
  | _ => Text.lossy letters

/-- Goes on with an option by its letter, which the value may follow, with an `=` or without. -/
def lettered (kindOf : Path → PathKind) (p : Progress) (letters : Bytes) : Except Stop Progress :=
  match letters with
  | [] => .error (.unexpected "-")
  | letter :: rest =>
    match Item.ofLetter? (Char.ofNat letter.toNat) with
    | none => .error (.unexpected ("-" ++ firstShown letters))
    | some (.setting s) =>
      match rest with
      | [] => p.setting kindOf s none
      | b :: value => p.setting kindOf s (some (if b = equals then value else rest))
    | some (.switch w) => p.switch kindOf w .short

/-- Goes on with an argument that is no option. -/
def plain (p : Progress) (text : Bytes) : Except Stop Progress :=
  match p.pending with
  | some (s, none) => .ok ⟨p.gathered, some (s, some text)⟩
  | _ => .error (.unexpected (Text.lossy text))

/-- Goes on with arguments, to the last one or to the end of the options. -/
def read (kindOf : Path → PathKind) (p : Progress) : List Bytes → Except Stop Progress
  | [] => .ok p
  | argument :: rest =>
    match Token.ofBytes argument with
    | .terminator =>
      match rest with
      | [] => .ok p
      | after :: _ => .error (.unexpected (Text.lossy after))
    | .named name attached =>
      match p.named kindOf name attached with
      | .error e => .error e
      | .ok p' => p'.read kindOf rest
    | .lettered letters =>
      match p.lettered kindOf letters with
      | .error e => .error e
      | .ok p' => p'.read kindOf rest
    | .plain text =>
      match p.plain text with
      | .error e => .error e
      | .ok p' => p'.read kindOf rest

end Progress

namespace Gathered

/-- Settles a setting with its variable, if it has one that is set and is not settled yet. -/
def fallBack (kindOf : Path → PathKind) (env : Environment) (g : Gathered) (s : Setting) :
    Except Stop Gathered :=
  if g.has s then .ok g
  else match s.fallback?.bind env.get? with
    | none => .ok g
    | some value => g.settle kindOf s (some value)

/-- The required settings that are not settled. -/
def missing (g : Gathered) : List Setting :=
  [Setting.os, Setting.hardware].filter fun s => !g.has s

/-- What is asked for, once all that is required is there. -/
def complete (g : Gathered) : Except Stop Arguments :=
  if g = empty then .error .nothingGiven
  else match g.os, g.hardware with
    | some os, some hardware =>
      .ok ⟨os, hardware, g.osVersion, g.outputDirectory, g.dryRun, g.logFilter⟩
    | _, _ => .error (.required g.missing)

end Gathered

/-- Reads the command line. `kindOf` says what stands at a path. -/
def read (kindOf : Path → PathKind) (env : Environment) (arguments : List Bytes) :
    Except Stop Arguments := do
  let progress ← Progress.start.read kindOf arguments
  let given ← progress.settled kindOf
  let given ← given.fallBack kindOf env .outputDirectory
  let given ← given.fallBack kindOf env .logFilter
  given.complete

end Arguments
end DockerMatrix
