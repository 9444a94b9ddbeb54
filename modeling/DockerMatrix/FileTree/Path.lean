/-
# Paths

A path is a string of bytes: names with slashes between them. It starts at the root if its first
byte is a slash, at the working directory otherwise. The name `.` stays in a directory, `..` leads
to its parent, and a slash at the end asks for a directory.
-/

import DockerMatrix.FileTree.Basic

namespace DockerMatrix

open Text (Bytes)

/-- A path, as it is written. -/
abbrev Path := Bytes

namespace Path

/-- The byte between names. -/
def slash : UInt8 := 47

/-- The name of a directory in itself. -/
def dot : Name := [46]

/-- The name of a directory's parent in it. -/
def dotDot : Name := [46, 46]

/-- A name in a directory: a slash comes between them, unless the directory's path is empty or ends
in one. -/
def join (directory : Path) (name : Name) : Path :=
  if directory.isEmpty ∨ directory.getLast? = some slash then directory ++ name
  else directory ++ slash :: name

/-- Whether a path starts at the root. -/
def isAbsolute (p : Path) : Bool :=
  p.head? == some slash

/-- The pieces of a path between its slashes, given the piece that has been begun, the last byte
first. -/
def piecesFrom (begun : Name) : Path → List Name
  | [] => [begun.reverse]
  | b :: rest =>
    if b = slash then begun.reverse :: piecesFrom [] rest else piecesFrom (b :: begun) rest

/-- The names that a path leads through. Empty pieces count for nothing, but for the one behind a
slash at the end. -/
def names (p : Path) : List Name :=
  let pieces := piecesFrom [] p
  pieces.dropLast.filter (fun name => !name.isEmpty) ++ pieces.getLast?.toList

/-- How messages show a path. -/
def display (p : Path) : String :=
  Text.lossy p

/-- The path of a location. -/
def ofLocation (l : Location) : Path :=
  if l.isEmpty then [slash] else l.reverse.flatMap fun name => slash :: name

end Path
end DockerMatrix
