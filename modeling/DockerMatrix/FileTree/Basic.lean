/-
# File trees

A file tree says what stands at each location: a directory, a file with its contents, a symbolic
link with its target, or a device. A location is the list of names that lead to an entry from the
root, the innermost name first, so that the parent of a location is its tail.
-/

import DockerMatrix.Table
import DockerMatrix.Text.Utf8

namespace DockerMatrix

open Text (Bytes)

/-- The name of an entry in its directory. -/
abbrev Name := Bytes

/-- The names that lead to an entry from the root, the innermost first. -/
abbrev Location := List Name

/-- A device that takes what is written to it, or refuses all of it as it is always full. -/
inductive Device
  | sink
  | full
  deriving DecidableEq, Repr

/-- What stands at a location. -/
inductive Entry
  | directory
  | file (contents : Bytes)
  | link (target : Bytes)
  | device (kind : Device)
  deriving DecidableEq, Repr

/-- Directories, files, links and devices by their locations. -/
structure FileTree where
  entries : Table Location Entry
  deriving DecidableEq, Repr

namespace FileTree

/-- A tree with nothing but the root. -/
def empty : FileTree := ⟨[]⟩

/-- What stands at a location, if anything. The root is a directory. -/
def get? (t : FileTree) (l : Location) : Option Entry :=
  if l = [] then some .directory else t.entries.get? l

/-- The tree with an entry placed at a location. -/
def place (t : FileTree) (l : Location) (e : Entry) : FileTree :=
  ⟨t.entries.put l e⟩

/-- **A placed entry stands at its location, and nothing else changes.** -/
theorem get?_place (t : FileTree) {l : Location} (hl : l ≠ []) (e : Entry) (l' : Location) :
    (t.place l e).get? l' = if l = l' then some e else t.get? l' := by
  unfold get? place
  rw [Table.get?_put]
  by_cases h : l' = []
  · subst h; simp [hl]
  · simp [h]

/-- **Placing what stands at a location changes nothing.** -/
theorem place_of_get? {t : FileTree} {l : Location} (hl : l ≠ []) {e : Entry}
    (h : t.get? l = some e) : t.place l e = t := by
  have h' : t.entries.get? l = some e := by simpa [get?, hl] using h
  simp [place, Table.put_of_get? h']

/-- The tree without the entries at a location and below it. -/
def remove (t : FileTree) (l : Location) : FileTree :=
  ⟨t.entries.filter fun old => !l.isSuffixOf old.1⟩

end FileTree

/-- Why a path cannot be read or written. -/
inductive AccessError
  | notFound
  | notDirectory
  | isDirectory
  | noSpace
  | nameTooLong
  | tooManyLinks
  | nulByte
  deriving DecidableEq, Repr

/-- The system's own message. -/
def AccessError.message : AccessError → String
  | notFound => "No such file or directory (os error 2)"
  | notDirectory => "Not a directory (os error 20)"
  | isDirectory => "Is a directory (os error 21)"
  | noSpace => "No space left on device (os error 28)"
  | nameTooLong => "File name too long (os error 36)"
  | tooManyLinks => "Too many levels of symbolic links (os error 40)"
  | nulByte => "file name contained an unexpected NUL byte"

end DockerMatrix
