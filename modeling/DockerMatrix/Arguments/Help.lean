/-
# Help and version

The help comes in two forms. The short one has a line per option; the long one has paragraphs. Both
show the values that a setting can have, or the variable that it is otherwise taken from, with the
value that the variable has. The help is written with styles, and the value as it is: a value that
ends inside an escape sequence takes with it what follows up to the next style.
-/

import DockerMatrix.Arguments.Option
import DockerMatrix.Arguments.Style
import DockerMatrix.Environment

namespace DockerMatrix
namespace Arguments

/-- The two forms of the help. -/
inductive Extent
  | short
  | long
  deriving DecidableEq, Repr

/-- The name of the program. -/
def programName : String := "dockergen"

/-- The name and the version of the program, on a line. -/
def versionText : String := programName ++ " 0.1.0\n"

/-- A setting in the help: its name and what stands for its value. -/
def Setting.shown (s : Setting) : String :=
  Style.literal.apply ("--" ++ s.name) ++ " <" ++ s.placeholder ++ ">"

/-- How the program is called. -/
def usage : String :=
  Style.heading.apply "Usage:" ++ " " ++ Style.literal.apply programName ++ " [OPTIONS] " ++
    Setting.os.shown ++ " " ++ Setting.hardware.shown

/-- What the program does. -/
def about : Extent → String
  | .short => "Generate CI Dockerfiles for every operating system and hardware combination"
  | .long =>
    "Generate the CI Dockerfiles for every registered version of an operating system\n\n" ++
      "Example usage:\n    " ++ programName ++ " -o ubuntu -t cpu"

namespace Item

/-- What an option is for. -/
def summary (extent : Extent) : Item → String
  | setting .os => "The target os of the Dockerfile"
  | setting .hardware => "The target hardware of the Dockerfile"
  | setting .osVersion => "Only generate the Dockerfile for this version of the operating system"
  | setting .outputDirectory => "Where to store the generated Dockerfiles"
  | setting .logFilter => "The filter for diagnostic logs, in \x60tracing\x60 env-filter syntax"
  | switch .dryRun => "Print the generated Dockerfiles instead of storing them"
  | switch .help =>
    match extent with
    | .short => "Print help (see more with '--help')"
    | .long => "Print help (see a summary with '-h')"
  | switch .version => "Print version"

/-- What the long help adds. -/
def details : Item → List String
  | setting .outputDirectory => ["Defaults to the directory containing this executable."]
  | _ => []

/-- The choices of an option, or its variable, in brackets. -/
def remarks (env : Environment) : Item → List String
  | setting s =>
    let choices :=
      if s.choices.isEmpty then []
      else ["[possible values: " ++ ", ".intercalate s.choices ++ "]"]
    let fallback :=
      match s.fallback? with
      | none => []
      | some name =>
        ["[env: " ++ name ++ "=" ++ Text.lossy ((env.get? name).getD []) ++ "]"]
    choices ++ fallback
  | switch _ => []

/-- The letter and the name of an option, with room for a letter where it has none. -/
def heading (item : Item) : String :=
  let name :=
    match item with
    | setting s => s.shown
    | switch w => Style.literal.apply w.label
  match item.letter? with
  | some letter => "  " ++ Style.literal.apply ("-" ++ String.singleton letter) ++ ", " ++ name
  | none => "      " ++ name

/-- The number of columns that the heading of an option takes. -/
def headingWidth (item : Item) : Nat :=
  6 + item.label.length

end Item

/-- Spaces. -/
def spaces (n : Nat) : String :=
  String.ofList (List.replicate n ' ')

/-- A text whose lines after the first one are indented. -/
def indented (n : Nat) (s : String) : String :=
  String.ofList (s.toList.flatMap fun c => if c = '\n' then '\n' :: List.replicate n ' ' else [c])

/-- The column where the short help begins to say what an option is for. -/
def shortColumn : Nat := 33

/-- The column where the long help does. -/
def longColumn : Nat := 10

/-- An option in the short help. -/
def shortEntry (env : Environment) (item : Item) : String :=
  item.heading ++ spaces (shortColumn - item.headingWidth) ++
    indented shortColumn (" ".intercalate (item.summary .short :: item.remarks env)) ++ "\n"

/-- An option in the long help. -/
def longEntry (env : Environment) (item : Item) : String :=
  let paragraphs := item.summary .long :: item.details ++ item.remarks env
  item.heading ++ "\n" ++ spaces longColumn ++
    indented longColumn ("\n\n".intercalate paragraphs) ++ "\n"

/-- The help. -/
def help (env : Environment) (extent : Extent) : String :=
  let options :=
    match extent with
    | .short => String.join (Item.all.map (shortEntry env))
    | .long => "\n".intercalate (Item.all.map (longEntry env))
  about extent ++ "\n\n" ++ usage ++ "\n\n" ++ Style.heading.apply "Options:" ++ "\n" ++ options

end Arguments
end DockerMatrix
