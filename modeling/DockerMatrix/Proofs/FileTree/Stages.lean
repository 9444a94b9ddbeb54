/-
# Storing a file in stages

A file is not stored at one stroke.  The path is opened, which empties the file there or puts an empty
one where nothing is, and then the contents are written, piece after piece.  Each stage can fail, and
the tree is left as it then is.

| stage | what it can fail for | what it changes |
| --- | --- | --- |
| opening | the path, or a directory at its end | the file at the end of the path is empty |
| a piece | a device that is full | the file has the piece behind what it had |

All that can fail fails before anything has changed: opening checks the path and the entry first, and
a device that refuses a piece is left alone by opening and by all other pieces.  So the stages together
come to the same as storing the contents at once, with the tree of the beginning where that fails
(`writeInStages_eq`), and it makes no difference how the contents are cut into pieces.
-/

import DockerMatrix.Proofs.FileTree.Placing

namespace DockerMatrix
namespace FileTree

open Text (Bytes)

variable {t : FileTree} {here l : Location} {p : Path}

/-- Opens a path in order to write a file from its beginning: the entry that is written to, and the
tree with that entry empty if it is a file. -/
def openAt (t : FileTree) (here : Location) (p : Path) : Except AccessError (Location × FileTree) :=
  match t.locate .create here p with
  | .error e => .error e
  | .ok l =>
    match t.get? l with
    | none => .ok (l, t.place l (.file []))
    | some (.file _) => .ok (l, t.place l (.file []))
    | some (.device _) => .ok (l, t)
    | some .directory => .error .isDirectory
    | some (.link _) => .error .tooManyLinks

/-- Writes a piece to an entry that has been opened, behind what has been written to it. -/
def append (t : FileTree) (l : Location) (piece : Bytes) : Except AccessError FileTree :=
  match t.get? l with
  | some (.file written) => .ok (t.place l (.file (written ++ piece)))
  | some (.device .full) => if piece.isEmpty then .ok t else .error .noSpace
  | _ => .ok t

/-- Writes pieces one after the other, up to the first one that cannot be written: why it cannot, and
the tree as it is then. -/
def appendAll (t : FileTree) (l : Location) : List Bytes → Option AccessError × FileTree
  | [] => (none, t)
  | piece :: rest =>
    match t.append l piece with
    | .error e => (some e, t)
    | .ok t' => t'.appendAll l rest

/-- Stores contents at a path, given the pieces in which they are written: the path, or why it fails,
and the tree that the stages leave. -/
def writeInStages (t : FileTree) (here : Location) (p : Path) (pieces : List Bytes) :
    Except StorageError Path × FileTree :=
  match t.openAt here p with
  | .error e => (.error ⟨.create, p, e⟩, t)
  | .ok (l, opened) =>
    match opened.appendAll l pieces with
    | (some e, left) => (.error ⟨.write, p, e⟩, left)
    | (none, left) => (.ok p, left)

/-! ## Pieces -/

/-- Of two entries that are placed at one location the second one stays. -/
theorem place_place (t : FileTree) (l : Location) (old new : Entry) :
    (t.place l old).place l new = t.place l new :=
  congrArg FileTree.mk (Table.put_put_self ..)

/-- **A file holds the pieces one behind the other.** -/
theorem appendAll_file (hl : l ≠ []) (written : Bytes) (pieces : List Bytes) :
    (t.place l (.file written)).appendAll l pieces =
      (none, t.place l (.file (written ++ pieces.flatten))) := by
  induction pieces generalizing written with
  | nil => rw [List.flatten_nil, List.append_nil, appendAll]
  | cons piece rest ih =>
    have hpiece : (t.place l (.file written)).append l piece =
        .ok (t.place l (.file (written ++ piece))) := by
      rw [append, get?_place t hl, if_pos rfl]
      dsimp only
      rw [place_place]
    rw [appendAll, hpiece, List.flatten_cons, ← List.append_assoc]
    exact ih (written ++ piece)

/-- A device that is full refuses the first piece that is not empty, and nothing has changed. -/
theorem appendAll_full (hl : t.get? l = some (.device .full)) (pieces : List Bytes) :
    t.appendAll l pieces = (if pieces.flatten.isEmpty then none else some .noSpace, t) := by
  induction pieces with
  | nil => rfl
  | cons piece rest ih =>
    cases piece with
    | nil =>
      rw [appendAll, append, hl]
      exact ih
    | cons b piece =>
      rw [appendAll, append, hl]
      rfl

/-- A device that takes everything takes all pieces, and nothing changes. -/
theorem appendAll_sink (hl : t.get? l = some (.device .sink)) (pieces : List Bytes) :
    t.appendAll l pieces = (none, t) := by
  induction pieces with
  | nil => rfl
  | cons piece rest ih =>
    rw [appendAll, append, hl]
    exact ih

/-! ## The stages together -/

/-- **The stages come to storing the contents at once**, and where that fails nothing has changed. -/
theorem writeInStages_eq (t : FileTree) (here : Location) (p : Path) (pieces : List Bytes) :
    t.writeInStages here p pieces =
      match t.write here p pieces.flatten with
      | .ok t' => (.ok p, t')
      | .error e => (.error e, t) := by
  unfold writeInStages openAt write
  cases hlocate : t.locate .create here p with
  | error e => rfl
  | ok l =>
    dsimp only
    cases he : t.get? l with
    | none =>
      have hl : l ≠ [] := (show t.TakesFile l from Or.inl he).ne_nil
      dsimp only
      rw [appendAll_file hl]
      rfl
    | some entry =>
      rcases entry with _ | contents | _ | (_ | _)
      · rfl
      · have hl : l ≠ [] := (show t.TakesFile l from Or.inr ⟨contents, he⟩).ne_nil
        dsimp only
        rw [appendAll_file hl]
        rfl
      · rfl
      · dsimp only
        rw [appendAll_sink he]
      · dsimp only
        rw [appendAll_full he]
        cases pieces.flatten <;> rfl

end FileTree
end DockerMatrix
