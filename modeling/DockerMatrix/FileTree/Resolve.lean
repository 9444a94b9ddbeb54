/-
# Where a path leads

A path leads through directories, from the root or from the working directory, and a link on the way
is followed: its target is walked in place of its name. What stops the walk, in this order at each
name: the place is no directory; the name is longer than 255 bytes; nothing stands there; a link is
met after 40 others.

A path is walked to read what is there or to create a file. A file may be missing, as long as its
directory is there; so a link at the end may dangle. A file's name cannot be followed by a slash.
-/

import DockerMatrix.FileTree.Path

namespace DockerMatrix

open Text (Bytes)

/-- What a path is walked for. -/
inductive Purpose
  | read
  | create
  deriving DecidableEq, Repr

/-- What stands at the end of a path, as a check of the path sees it. -/
inductive PathKind
  | directory
  | other
  | absent
  deriving DecidableEq, Repr

namespace FileTree

/-- The longest name of an entry, in bytes. -/
def nameLimit : Nat := 255

/-- The bytes that a path and its end have room in. -/
def pathLimit : Nat := 4096

/-- The number of links that are followed on one walk. -/
def linkLimit : Nat := 40

/-- Walks through names, from a location on, to the location that they lead to; `follow` goes on
from a link. -/
def walkNames (t : FileTree) (purpose : Purpose)
    (follow : Location → List Name → Except AccessError Location) :
    Location → List Name → Except AccessError Location
  | here, [] => .ok here
  | here, name :: rest =>
    if t.get? here ≠ some .directory then .error .notDirectory
    else if name = [] ∨ name = Path.dot then t.walkNames purpose follow here rest
    else if name = Path.dotDot then t.walkNames purpose follow here.tail rest
    else if purpose = .create ∧ rest = [[]] then .error .isDirectory
    else if nameLimit < name.length then .error .nameTooLong
    else match t.get? (name :: here) with
      | none =>
        if purpose = .create ∧ rest = [] then .ok (name :: here) else .error .notFound
      | some (.link target) =>
        follow (if Path.isAbsolute target then [] else here) (Path.names target ++ rest)
      | some _ => t.walkNames purpose follow (name :: here) rest

/-- Walks through names and follows at most a number of links. -/
def walk (t : FileTree) (purpose : Purpose) : Nat → Location → List Name →
    Except AccessError Location
  | 0 => t.walkNames purpose fun _ _ => .error .tooManyLinks
  | n + 1 => t.walkNames purpose (t.walk purpose n)

/-- The location that a path leads to from the working directory. -/
def locate (t : FileTree) (purpose : Purpose) (here : Location) (p : Path) :
    Except AccessError Location :=
  if 0 ∈ p then .error .nulByte
  else if p.isEmpty then .error .notFound
  else if pathLimit ≤ p.length then .error .nameTooLong
  else t.walk purpose linkLimit (if Path.isAbsolute p then [] else here) (Path.names p)

/-- What a path leads to. -/
def find (t : FileTree) (here : Location) (p : Path) : Except AccessError Entry :=
  match t.locate .read here p with
  | .error e => .error e
  | .ok l =>
    match t.get? l with
    | none => .error .notFound
    | some e => .ok e

/-- What a check of a path sees: a path that cannot be walked to its end counts as absent. -/
def kindOf (t : FileTree) (here : Location) (p : Path) : PathKind :=
  match t.find here p with
  | .error _ => .absent
  | .ok .directory => .directory
  | .ok _ => .other

end FileTree
end DockerMatrix
