/-
# The options of the command line

A setting takes a value, a switch does not.

| option | value | otherwise taken from |
| --- | --- | --- |
| `-o`, `--os` | an operating system | |
| `-t`, `--target` | a hardware | |
| `--os-version` | a text | |
| `--output-dir` | a directory | the variable `OUTPUT_DIR` |
| `--log-level` | a text | the variable `LOG_LEVEL` |
| `--dry-run` | | |
| `-h`, `--help` | | |
| `-V`, `--version` | | |
-/

import DockerMatrix.Target

namespace DockerMatrix
namespace Arguments

/-- An option that takes a value. -/
inductive Setting
  | os
  | hardware
  | osVersion
  | outputDirectory
  | logFilter
  deriving DecidableEq, Repr

/-- An option that takes no value. -/
inductive Switch
  | dryRun
  | help
  | version
  deriving DecidableEq, Repr

namespace Setting

/-- Every setting. -/
def all : List Setting := [os, hardware, osVersion, outputDirectory, logFilter]

/-- The name of a setting, without the dashes. -/
def name : Setting → String
  | os => "os"
  | hardware => "target"
  | osVersion => "os-version"
  | outputDirectory => "output-dir"
  | logFilter => "log-level"

/-- The letter of a setting, if it has one. -/
def letter? : Setting → Option Char
  | os => some 'o'
  | hardware => some 't'
  | _ => none

/-- What stands for the value of a setting in messages. -/
def placeholder : Setting → String
  | os => "OS"
  | hardware => "HARDWARE"
  | osVersion => "OS_VERSION"
  | outputDirectory => "OUTPUT_DIR"
  | logFilter => "LOG_LEVEL"

/-- How messages name a setting. -/
def label (s : Setting) : String :=
  "--" ++ s.name ++ " <" ++ s.placeholder ++ ">"

/-- The values that a setting has to be one of, if there are such. -/
def choices : Setting → List String
  | os => OperatingSystem.all.map OperatingSystem.name
  | hardware => Hardware.all.map Hardware.name
  | _ => []

/-- The variable that a setting is taken from if it is not given. -/
def fallback? : Setting → Option String
  | outputDirectory => some "OUTPUT_DIR"
  | logFilter => some "LOG_LEVEL"
  | _ => none

end Setting

namespace Switch

/-- Every switch. -/
def all : List Switch := [dryRun, help, version]

/-- The name of a switch, without the dashes. -/
def name : Switch → String
  | dryRun => "dry-run"
  | help => "help"
  | version => "version"

/-- The letter of a switch, if it has one. -/
def letter? : Switch → Option Char
  | dryRun => none
  | help => some 'h'
  | version => some 'V'

/-- How messages name a switch. -/
def label (w : Switch) : String :=
  "--" ++ w.name

end Switch

/-- An option of either kind. -/
inductive Item
  | setting (s : Setting)
  | switch (w : Switch)
  deriving DecidableEq, Repr

namespace Item

/-- Every option, in the order in which the help shows them. -/
def all : List Item :=
  [.setting .os, .setting .hardware, .setting .osVersion, .setting .outputDirectory,
   .switch .dryRun, .setting .logFilter, .switch .help, .switch .version]

/-- The name of an option, without the dashes. -/
def name : Item → String
  | setting s => s.name
  | switch w => w.name

/-- The letter of an option, if it has one. -/
def letter? : Item → Option Char
  | setting s => s.letter?
  | switch w => w.letter?

/-- How messages name an option. -/
def label : Item → String
  | setting s => s.label
  | switch w => w.label

/-- The option of a name. -/
def ofName? (name : String) : Option Item :=
  all.find? fun item => item.name = name

/-- The option of a letter. -/
def ofLetter? (letter : Char) : Option Item :=
  all.find? fun item => item.letter? = some letter

end Item
end Arguments
end DockerMatrix
