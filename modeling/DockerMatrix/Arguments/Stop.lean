/-
# Why reading the command line stops

Reading stops where an argument is wrong, where required options are missing, and where help or the
version is asked for. Each reason has its text, the stream that the text goes to, and the exit
status of the program.

The text is written with styles. Where none are shown, it is printed without escape sequences and
control characters, those in values included.
-/

import DockerMatrix.Arguments.Help
import DockerMatrix.FileTree.Path
import DockerMatrix.Status.Message

namespace DockerMatrix
namespace Arguments

open Text (Bytes)

/-- Why a path is not accepted as a directory. -/
inductive DirectoryProblem
  | notDirectory
  | absent
  deriving DecidableEq, Repr

/-- Why reading stops. -/
inductive Stop
  /-- Help is asked for. -/
  | help (extent : Extent)
  /-- The version is asked for. -/
  | version
  /-- Nothing is given at all. -/
  | nothingGiven
  /-- An argument that is no option and no value of one; of an option, only the name. -/
  | unexpected (shown : String)
  /-- A switch with a value. -/
  | valueNotTaken (switch : Switch) (value : Bytes)
  /-- A setting without a value, or with an empty one. -/
  | valueMissing (setting : Setting)
  /-- A value that is none of the choices. -/
  | noChoice (setting : Setting) (value : Bytes)
  /-- A value that has to be text and is not. -/
  | notText
  /-- A value that has to be a directory and is not. -/
  | noDirectory (value : Path) (problem : DirectoryProblem)
  /-- An option that is given twice. -/
  | repeated (item : Item)
  /-- Required settings that are not given. -/
  | required (missing : List Setting)
  deriving DecidableEq, Repr

namespace Stop

/-- The text of a usage error, after the word that it begins with. -/
def usageError (text : String) : String :=
  Style.alarm.apply "error:" ++ " " ++ text

/-- A value that is wrong, as messages show it. -/
def quotedValue (value : String) : String :=
  "'" ++ Style.invalid.apply value ++ "'"

/-- An option, as messages name it. -/
def quotedOption (label : String) : String :=
  "'" ++ Style.literal.apply label ++ "'"

/-- The choices of a setting, on a line of their own. -/
def choicesLine (s : Setting) : String :=
  if s.choices.isEmpty then ""
  else "\n  [possible values: " ++ ", ".intercalate (s.choices.map Style.valid.apply) ++ "]"

/-- The text about a usage error, or the help or version asked for, with styles. -/
def styledText (env : Environment) : Stop → String
  | help extent => Arguments.help env extent
  | version => versionText
  | nothingGiven => Arguments.help env .short
  | unexpected argument => usageError ("unexpected argument " ++ quotedValue argument ++ " found")
  | valueNotTaken switch value =>
    usageError ("unexpected value " ++ quotedValue (Text.lossy value) ++ " for " ++
      quotedOption switch.label ++ " found; no more were expected")
  | valueMissing setting =>
    usageError ("a value is required for " ++ quotedValue setting.label ++
      " but none was supplied" ++ choicesLine setting)
  | noChoice setting value =>
    usageError ("invalid value " ++ quotedValue (Text.lossy value) ++ " for " ++
      quotedOption setting.label ++ choicesLine setting)
  | notText => usageError "invalid UTF-8 was detected in one or more arguments"
  | noDirectory value problem =>
    let reason :=
      match problem with
      | .notDirectory => "not a directory"
      | .absent => "directory does not exist"
    usageError ("invalid value " ++ quotedValue (Text.lossy value) ++ " for " ++
      quotedOption Setting.outputDirectory.label ++ "\n\n  reason: " ++ reason)
  | repeated item =>
    usageError ("the argument " ++ quotedValue item.label ++ " cannot be used multiple times")
  | required missing =>
    usageError ("the following required arguments were not provided:" ++
      String.join (missing.map fun setting => "\n  " ++ Style.valid.apply setting.label))

/-- The text without styles. -/
def text (env : Environment) (s : Stop) : String :=
  Text.printable (s.styledText env)

/-- The text as it is printed, on streams that show styles or on others. -/
def printedText (env : Environment) (styles : Bool) (s : Stop) : String :=
  if styles then s.styledText env else Text.printed (s.styledText env)

/-- Whether the text is one that was asked for. -/
def isAnswer : Stop → Bool
  | help _ => true
  | version => true
  | _ => false

/-- The stream that the text goes to. -/
def stream (s : Stop) : Status.Stream :=
  if s.isAnswer then .output else .error

/-- The exit status of the program. -/
def exitCode (s : Stop) : Nat :=
  if s.isAnswer then 0 else 2

end Stop
end Arguments
end DockerMatrix
