/-
# Storing a file

A file is stored in two stages, each of which can fail: it is created, or emptied if it is there,
and then its contents are written. Either the file then holds exactly the contents, or the tree is
as it was: an entry that is no file cannot be emptied, and what refuses contents keeps none.
-/

import DockerMatrix.FileTree.Resolve

namespace DockerMatrix

open Text (Bytes)

/-- A stage of storing a file. -/
inductive Stage
  | create
  | write
  deriving DecidableEq, Repr

/-- Why a file could not be stored: the stage, the path and the cause. -/
structure StorageError where
  stage : Stage
  path : Path
  cause : AccessError
  deriving DecidableEq, Repr

/-- The messages about a file that could not be stored, the outermost first. -/
def StorageError.chain (e : StorageError) : List String :=
  let stage :=
    match e.stage with
    | .create => "could not create "
    | .write => "could not write "
  [stage ++ Path.display e.path, e.cause.message]

namespace FileTree

/-- Stores contents at a path. -/
def write (t : FileTree) (here : Location) (p : Path) (contents : Bytes) :
    Except StorageError FileTree :=
  match t.locate .create here p with
  | .error e => .error ⟨.create, p, e⟩
  | .ok l =>
    match t.get? l with
    | none => .ok (t.place l (.file contents))
    | some (.file _) => .ok (t.place l (.file contents))
    | some (.device .sink) => .ok t
    | some (.device .full) => if contents.isEmpty then .ok t else .error ⟨.write, p, .noSpace⟩
    | some .directory => .error ⟨.create, p, .isDirectory⟩
    | some (.link _) => .error ⟨.create, p, .tooManyLinks⟩

end FileTree
end DockerMatrix
