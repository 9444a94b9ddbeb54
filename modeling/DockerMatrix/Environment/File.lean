/-
# Environment files

A file named `.env` adds to the environment. It is looked for in the working directory and then in
each directory above it; the first regular file of that name is used, and anything else of that name
is passed over. A variable that is set is kept, so that of several assignments to one name the first
one counts. A file that cannot be used is an error, and where there is no file nothing is added.
No variable can hold a NUL character, so a value with one is an error where it would be set, and the
program does not survive it.
-/

import DockerMatrix.Environment.Line
import DockerMatrix.FileTree.Resolve

namespace DockerMatrix

open Text (Bytes)

namespace Environment

/-- The assignments on logical lines, each made where those before it have been carried out. -/
def assignmentsIn (env : Environment) :
    List (Except FileError (List Char)) → Except FileError (List Assignment)
  | [] => .ok []
  | .error e :: _ => .error e
  | .ok line :: rest =>
    match env.assignment? line with
    | .error e => .error e
    | .ok none => env.assignmentsIn rest
    | .ok (some a) =>
      if env.canAdopt a then ((env.adopt a).assignmentsIn rest).map (a :: ·)
      else .error (.nulCharacter a)

/-- The assignments in a file. -/
def assignments (env : Environment) (contents : Bytes) : Except FileError (List Assignment) :=
  env.assignmentsIn (logicalLines contents)

/-- The environment with a file's assignments carried out. -/
def extend (env : Environment) (contents : Bytes) : Except FileError Environment :=
  (env.assignments contents).map fun found => found.foldl adopt env

/-- The name of environment files. -/
def fileName : Path := Text.encode ".env"

end Environment

/-- The contents of the environment file that is in force in a directory. -/
def FileTree.environmentFile? (t : FileTree) (here : Location) :
    Except AccessError (Option Bytes) :=
  match t.find here Environment.fileName with
  | .ok (.file contents) => .ok (some contents)
  | .error .notFound | .ok _ =>
    match here with
    | [] => .ok none
    | _ :: parent => t.environmentFile? parent
  | .error e => .error e

/-- The environment of a program that is started in a directory. -/
def Environment.inDirectory (env : Environment) (t : FileTree) (here : Location) :
    Except Environment.FileError Environment :=
  match t.environmentFile? here with
  | .error e => .error (.access e)
  | .ok none => .ok env
  | .ok (some contents) => env.extend contents

end DockerMatrix
