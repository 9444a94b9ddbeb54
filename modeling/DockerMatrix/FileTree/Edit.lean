/-
# Preparing a file tree

The operations by which a tree is set up before a program meets it: directories with their parents,
files, links, and the removal of whatever stands at a path. An operation that the tree does not
admit leaves it as it was.
-/

import DockerMatrix.FileTree.Write

namespace DockerMatrix
namespace FileTree

open Text (Bytes)

/-- The location of a path's last name, which is not followed if it is a link. -/
def slot? (t : FileTree) (here : Location) (p : Path) : Option Location :=
  let start := if Path.isAbsolute p then [] else here
  let names := (Path.names p).filter fun name => !name.isEmpty
  match names.getLast? with
  | none => none
  | some name =>
    match t.walk .read linkLimit start names.dropLast with
    | .ok parent => if t.get? parent = some .directory then some (name :: parent) else none
    | .error _ => none

/-- The tree with directories at all the names, from a location on; links are followed. -/
def makeNames (t : FileTree) (here : Location) : List Name → FileTree
  | [] => t
  | name :: rest =>
    match t.walk .read linkLimit here [name] with
    | .ok l => t.makeNames l rest
    | .error .notFound =>
      if t.get? (name :: here) = none then
        (t.place (name :: here) .directory).makeNames (name :: here) rest
      else t
    | .error _ => t

/-- The tree with a directory at a path, and its parents. -/
def makeDirectories (t : FileTree) (here : Location) (p : Path) : FileTree :=
  t.makeNames (if Path.isAbsolute p then [] else here) (Path.names p)

/-- The tree with a file at a path. -/
def putFile (t : FileTree) (here : Location) (p : Path) (contents : Bytes) : FileTree :=
  match t.write here p contents with
  | .ok t' => t'
  | .error _ => t

/-- The tree with a link at a path where nothing stands. -/
def putLink (t : FileTree) (here : Location) (p : Path) (target : Bytes) : FileTree :=
  match t.slot? here p with
  | some l => if t.get? l = none then t.place l (.link target) else t
  | none => t

/-- The tree without what stands at a path, a link itself and not what it leads to. -/
def removeAt (t : FileTree) (here : Location) (p : Path) : FileTree :=
  match t.slot? here p with
  | some l => t.remove l
  | none => t

end FileTree
end DockerMatrix
