/-
# The command line

The outer layer of the program. It looks at the files that a run can depend on, which gives a file
tree, runs the program on that tree, prints what the run prints, and writes the files that the run
has stored.

A run can depend on the environment files of the working directory and the directories above it, and
on the directories that may be meant as the output directory: arguments, what follows the first `=`
in an argument, the variable for the output directory, and the directory of the program.
-/

import DockerMatrix.FileTree.Edit
import DockerMatrix.Program

namespace DockerMatrix
namespace CommandLine

open Text (Bytes)

/-- The location of a path that starts at the root. -/
def locationOf (p : Path) : Location :=
  ((Path.names p).filter fun name => !name.isEmpty).reverse

/-- The pieces of bytes that end in NUL. -/
def splitAtNul (begun : Bytes) : Bytes → List Bytes
  | [] => if begun.isEmpty then [] else [begun.reverse]
  | b :: rest => if b = 0 then begun.reverse :: splitAtNul [] rest else splitAtNul (b :: begun) rest

/-- What is at a location, and where it really is once links are followed. -/
def observe (l : Location) : IO (Option (Location × Entry)) := do
  try
    let real ← IO.FS.realPath (Path.display (Path.ofLocation l))
    let data ← real.metadata
    let entry ←
      match data.type with
      | .dir => pure Entry.directory
      | .file => (fun contents => Entry.file contents.toList) <$> IO.FS.readBinFile real
      | _ => pure (Entry.device (if real.toString = "/dev/full" then .full else .sink))
    return some (locationOf (Text.encode real.toString), entry)
  catch _ => return none

/-- A tree with what names lead to from a location. -/
def lookThrough (t : FileTree) (here : Location) : List Name → IO FileTree
  | [] => return t
  | name :: rest => do
    if name = [] ∨ name = Path.dot then lookThrough t here rest
    else if name = Path.dotDot then lookThrough t here.tail rest
    else
      match ← observe (name :: here) with
      | none => return t
      | some (real, entry) =>
        let t := (t.makeDirectories [] (Path.ofLocation real.tail)).place real entry
        let t :=
          if real = name :: here then t
          else t.place (name :: here) (.link (Path.ofLocation real))
        lookThrough t real rest

/-- A tree with what a path leads to. -/
def look (here : Location) (t : FileTree) (p : Path) : IO FileTree :=
  lookThrough t (if Path.isAbsolute p then [] else here) (Path.names p)

/-- The paths of the environment files that may count in a directory. -/
def environmentFiles : Location → List Path
  | [] => [Path.join [Path.slash] Environment.fileName]
  | name :: parent =>
    Path.join (Path.ofLocation (name :: parent)) Environment.fileName :: environmentFiles parent

/-- A directory and the places of all Dockerfiles in it. -/
def destinations (directory : Path) : List Path :=
  let targets := OperatingSystem.all.flatMap fun os => Hardware.all.flatMap os.targets
  directory :: targets.map fun t => t.artifact.destination directory

/-- The paths that arguments may mean as directories. -/
def candidates (arguments : List Bytes) : List Path :=
  arguments.flatMap fun a => a :: (Arguments.splitAtEquals a).2.toList

/-- The environment that a list of settings gives. -/
def environmentOf (settings : List Bytes) : Environment :=
  settings.foldl (fun env s =>
    match Arguments.splitAtEquals s with
    | (name, some value) => env.set (Text.lossy name) value
    | (_, none) => env) Environment.empty

/-- Writes the files of a tree that another tree does not have. -/
def writeNew (before after : FileTree) : IO Unit :=
  after.entries.forM fun (l, entry) =>
    match entry with
    | .file contents =>
      if before.get? l = some entry then return
      else IO.FS.writeBinFile (Path.display (Path.ofLocation l)) ⟨contents.toArray⟩
    | _ => return

/-- Runs the program for a process. -/
def run (settings arguments : List Bytes) (here : Location) (programDirectory : Path) :
    IO UInt32 := do
  let tree ← (environmentFiles here).foldlM (look here) (FileTree.empty.makeDirectories []
    (Path.ofLocation here))
  let env := environmentOf settings
  let extended :=
    match env.inDirectory tree here with
    | .ok extended => extended
    | .error _ => env
  let directories :=
    programDirectory :: (extended.get? "OUTPUT_DIR").toList ++ candidates arguments
  let tree ← (directories.flatMap destinations).foldlM (look here) tree
  let ending := Program.run ⟨tree, here, programDirectory⟩ env arguments
  writeNew tree (ending.tree tree)
  (← IO.getStdout).putStr ending.output
  (← IO.getStderr).putStr ending.errorOutput
  return UInt32.ofNat ending.exit.code

end CommandLine
end DockerMatrix

/-- The program, as the system starts it. -/
def main (arguments : List String) : IO UInt32 := do
  let settings ← IO.FS.readBinFile "/proc/self/environ"
  let here ← IO.currentDir
  let home ← IO.appDir
  DockerMatrix.CommandLine.run (DockerMatrix.CommandLine.splitAtNul [] settings.toList)
    (arguments.map DockerMatrix.Text.encode)
    (DockerMatrix.CommandLine.locationOf (DockerMatrix.Text.encode here.toString))
    (DockerMatrix.Text.encode home.toString)
