/-
# What storing files leaves of a tree

Storing a file replaces the contents of a file, or puts a file where nothing was.  So from one tree
to the next nothing is removed, and every directory, link and device stays as it is
(`OnlyStores`).  Two trees that differ only where both take a file have the same frame
(`SameFrame`): what leads through the one leads through the other.

`write_eq_ok_iff` and `write_eq_error_iff` say all that storing can do: it places the file at the
end of its path, or a device takes the contents, or the error names the path and the tree is left
alone.
-/

import DockerMatrix.FileTree.Write
import Mathlib.Tactic.Common

namespace DockerMatrix
namespace FileTree

variable {t t' t'' : FileTree} {l : Location}

/-- A file can be stored at a location: a file stands there, or nothing does. -/
def TakesFile (t : FileTree) (l : Location) : Prop :=
  t.get? l = none ∨ ∃ contents, t.get? l = some (.file contents)

/-- Two trees of the same frame: they differ only where both take a file. -/
def SameFrame (t t' : FileTree) : Prop :=
  ∀ l, t.get? l = t'.get? l ∨ t.TakesFile l ∧ t'.TakesFile l

/-- What leads from one tree to the other is that files are stored: a location is as it was, or it
took a file and holds one now. -/
def OnlyStores (t t' : FileTree) : Prop :=
  ∀ l, t.get? l = t'.get? l ∨ t.TakesFile l ∧ ∃ contents, t'.get? l = some (.file contents)

namespace TakesFile

/-- A file cannot stand at the root. -/
theorem ne_nil (h : t.TakesFile l) : l ≠ [] := by
  rintro rfl
  rcases h with h | ⟨_, h⟩ <;> simp [get?] at h

/-- Where a file can be stored stands nothing but a file. -/
theorem ne_some (h : t.TakesFile l) {e : Entry} (he : ∀ c, e ≠ .file c) : t.get? l ≠ some e := by
  rcases h with h | ⟨c, h⟩
  · simp [h]
  · rw [h]
    exact fun hc => he c (Option.some.inj hc).symm

/-- A file cannot replace a directory. -/
theorem ne_directory (h : t.TakesFile l) : t.get? l ≠ some .directory :=
  h.ne_some fun _ => Entry.noConfusion

/-- A file cannot replace a link. -/
theorem ne_link (h : t.TakesFile l) (target : Text.Bytes) : t.get? l ≠ some (.link target) :=
  h.ne_some fun _ => Entry.noConfusion

/-- Placing a file where one can be stored only stores. -/
theorem onlyStores_place (h : t.TakesFile l) (contents : Text.Bytes) :
    t.OnlyStores (t.place l (.file contents)) := by
  intro l'
  rw [get?_place t h.ne_nil]
  by_cases hl : l = l'
  · subst hl
    exact Or.inr ⟨h, contents, if_pos rfl⟩
  · exact Or.inl (if_neg hl).symm

end TakesFile

namespace SameFrame

/-- A tree has its own frame. -/
theorem refl (t : FileTree) : t.SameFrame t := fun _ => Or.inl rfl

/-- Having the same frame goes both ways. -/
theorem symm (h : t.SameFrame t') : t'.SameFrame t := fun l => (h l).imp Eq.symm And.symm

/-- Directories are part of the frame. -/
theorem directory (h : t.SameFrame t') (hd : t.get? l = some .directory) :
    t'.get? l = some .directory := by
  rcases h l with he | ⟨ht, _⟩
  · rwa [← he]
  · exact absurd hd ht.ne_directory

/-- The same locations take a file. -/
theorem takesFile (h : t.SameFrame t') (ht : t.TakesFile l) : t'.TakesFile l := by
  rcases h l with he | ⟨_, ht'⟩
  · rwa [TakesFile, ← he]
  · exact ht'

/-- A frame that is kept twice is kept. -/
theorem trans (h : t.SameFrame t') (h' : t'.SameFrame t'') : t.SameFrame t'' := by
  intro l
  rcases h' l with he | ⟨ht', ht''⟩
  · rw [TakesFile, TakesFile, ← he]
    exact h l
  · exact Or.inr ⟨h.symm.takesFile ht', ht''⟩

/-- **Directories, links and devices are the same.** -/
theorem get?_eq_some_iff (h : t.SameFrame t') {e : Entry} (he : ∀ c, e ≠ .file c) :
    t'.get? l = some e ↔ t.get? l = some e := by
  rcases h l with heq | ⟨ht, ht'⟩
  · rw [heq]
  · exact ⟨fun h => absurd h (ht'.ne_some he), fun h => absurd h (ht.ne_some he)⟩

end SameFrame

namespace OnlyStores

/-- Storing nothing only stores. -/
theorem refl (t : FileTree) : t.OnlyStores t := fun _ => Or.inl rfl

/-- Storing keeps the frame. -/
theorem sameFrame (h : t.OnlyStores t') : t.SameFrame t' := fun l =>
  (h l).imp_right fun ⟨ht, hc⟩ => ⟨ht, Or.inr hc⟩

/-- Storing twice only stores. -/
theorem trans (h : t.OnlyStores t') (h' : t'.OnlyStores t'') : t.OnlyStores t'' := by
  intro l
  rcases h' l with he | ⟨ht, hc⟩
  · rw [← he]
    exact h l
  · exact Or.inr ⟨h.sameFrame.symm.takesFile ht, hc⟩

/-- Nothing is removed. -/
theorem isSome (h : t.OnlyStores t') (hl : (t.get? l).isSome) : (t'.get? l).isSome := by
  rcases h l with he | ⟨_, _, hc⟩
  · rwa [← he]
  · rw [hc]
    rfl

end OnlyStores

/-! ## Storing -/

section Write

variable {here : Location} {p : Path} {contents : Text.Bytes}

/-- **What storing does if it succeeds**: the file stands at the end of the path, or the device
there has taken the contents. -/
theorem write_eq_ok_iff :
    t.write here p contents = .ok t' ↔
      ∃ l, t.locate .create here p = .ok l ∧
        (t.TakesFile l ∧ t' = t.place l (.file contents) ∨
          t' = t ∧ (t.get? l = some (.device .sink) ∨
            t.get? l = some (.device .full) ∧ contents = [])) := by
  unfold write
  cases hl : t.locate .create here p with
  | error e => simp
  | ok l =>
    simp only [Except.ok.injEq, exists_eq_left']
    cases he : t.get? l with
    | none => simp [TakesFile, he, eq_comm]
    | some e =>
      rcases e with _ | _ | _ | (_ | _)
      · simp [TakesFile, he]
      · simp [TakesFile, he, eq_comm]
      · simp [TakesFile, he]
      · simp [TakesFile, he, eq_comm]
      · cases contents <;> simp [TakesFile, he, eq_comm]

/-- **What storing does if it fails**: the file cannot be created at the path, or a device that is
full stands there and refuses the contents. -/
theorem write_eq_error_iff {e : StorageError} :
    t.write here p contents = .error e ↔
      (∃ cause, e = ⟨.create, p, cause⟩ ∧
        (t.locate .create here p = .error cause ∨
          ∃ l, t.locate .create here p = .ok l ∧
            (t.get? l = some .directory ∧ cause = .isDirectory ∨
              (∃ target, t.get? l = some (.link target)) ∧ cause = .tooManyLinks))) ∨
        e = ⟨.write, p, .noSpace⟩ ∧ contents ≠ [] ∧
          ∃ l, t.locate .create here p = .ok l ∧ t.get? l = some (.device .full) := by
  unfold write
  cases hl : t.locate .create here p with
  | error cause => simp [eq_comm]
  | ok l =>
    simp only [Except.ok.injEq, exists_eq_left', reduceCtorEq, false_or]
    cases he : t.get? l with
    | none => simp
    | some entry =>
      rcases entry with _ | _ | _ | (_ | _)
      · simp [eq_comm]
      · simp
      · simp [eq_comm]
      · simp
      · cases contents <;> simp [eq_comm]

end Write

end FileTree
end DockerMatrix
