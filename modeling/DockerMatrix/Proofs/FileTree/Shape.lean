/-
# Trees that differ in the contents of files

Two trees of the same shape differ in what their files hold, and in nothing else.  No path tells them
apart: it leads to the same location in both, or fails for the same reason in both (`locate_eq`), and
a check of it sees the same (`kindOf_eq`).  So storing a file does the same to both trees, or nothing
to either (`write_agrees`).
-/

import DockerMatrix.Proofs.FileTree.Frame

namespace DockerMatrix
namespace FileTree

variable {t t' u u' v v' : FileTree} {here l : Location} {p : Path}

/-- Two trees of the same shape: what stands at a location is the same, or it is a file in both. -/
def SameShape (t t' : FileTree) : Prop :=
  ∀ l, t.get? l = t'.get? l ∨
    ∃ contents contents', t.get? l = some (.file contents) ∧ t'.get? l = some (.file contents')

/-- The same has been done to two trees: at each location both are as they were, or what stands there
now is the same. -/
def SameChanges (t t' u u' : FileTree) : Prop :=
  ∀ l, u.get? l = t.get? l ∧ u'.get? l = t'.get? l ∨ u.get? l = u'.get? l

namespace SameChanges

/-- Two trees in which nothing changes have the same changes. -/
theorem refl (t t' : FileTree) : SameChanges t t' t t' := fun _ => Or.inl ⟨rfl, rfl⟩

/-- Trees that have the same changes twice have the same changes altogether. -/
theorem trans (h : SameChanges t t' u u') (h' : SameChanges u u' v v') :
    SameChanges t t' v v' := by
  intro l
  rcases h' l with ⟨hv, hv'⟩ | he
  · rw [hv, hv']
    exact h l
  · exact Or.inr he

/-- What is the same at a location stays the same. -/
theorem get?_eq (h : SameChanges t t' u u') (hl : t.get? l = t'.get? l) : u.get? l = u'.get? l := by
  rcases h l with ⟨hu, hu'⟩ | he
  · rw [hu, hu', hl]
  · exact he

/-- What is placed at one location is the same in both trees then. -/
theorem place (hl : l ≠ []) (e : Entry) : SameChanges t t' (t.place l e) (t'.place l e) := by
  intro l'
  rw [get?_place t hl, get?_place t' hl]
  by_cases h : l = l'
  · rw [if_pos h, if_pos h]
    exact Or.inr rfl
  · rw [if_neg h, if_neg h]
    exact Or.inl ⟨rfl, rfl⟩

end SameChanges

namespace SameShape

/-- Trees of the same shape still are after the same has been done to both. -/
theorem of_changes (h : t.SameShape t') (hc : SameChanges t t' u u') : u.SameShape u' := by
  intro l
  rcases hc l with ⟨hu, hu'⟩ | he
  · rw [hu, hu']
    exact h l
  · exact Or.inl he

/-- A file with other contents leaves the shape as it was. -/
theorem place {contents : Text.Bytes} (h : t.get? l = some (.file contents))
    (contents' : Text.Bytes) : t.SameShape (t.place l (.file contents')) := by
  have hl : l ≠ [] := TakesFile.ne_nil (Or.inr ⟨contents, h⟩)
  intro l'
  rw [get?_place t hl]
  by_cases he : l = l'
  · subst he
    exact Or.inr ⟨contents, contents', h, if_pos rfl⟩
  · exact Or.inl (if_neg he).symm

/-- Trees of the same shape have the same frame. -/
theorem sameFrame (h : t.SameShape t') : t.SameFrame t' := fun l =>
  (h l).imp_right fun ⟨c, c', hc, hc'⟩ => ⟨Or.inr ⟨c, hc⟩, Or.inr ⟨c', hc'⟩⟩

/-! ## Paths -/

/-- Names are walked alike in trees of the same shape, if links are followed alike. -/
theorem walkNames_eq (h : t.SameShape t') (purpose : Purpose)
    (follow : Location → List Name → Except AccessError Location) (here : Location)
    (names : List Name) :
    t.walkNames purpose follow here names = t'.walkNames purpose follow here names := by
  induction names generalizing here with
  | nil => rfl
  | cons name rest ih =>
    have hd : t'.get? here = some .directory ↔ t.get? here = some .directory :=
      h.sameFrame.get?_eq_some_iff fun _ => Entry.noConfusion
    rw [walkNames, walkNames, ih here, ih here.tail, ih (name :: here)]
    simp only [ne_eq, hd]
    rcases h (name :: here) with he | ⟨c, c', hc, hc'⟩
    · rw [he]
    · rw [hc, hc']

/-- Paths are walked alike in trees of the same shape. -/
theorem walk_eq (h : t.SameShape t') (purpose : Purpose) (n : Nat) :
    t.walk purpose n = t'.walk purpose n := by
  induction n with
  | zero => exact funext₂ fun here names => h.walkNames_eq purpose _ here names
  | succ n ih =>
    refine funext₂ fun here names => ?_
    rw [walk, walk, ih]
    exact h.walkNames_eq purpose _ here names

/-- **A path leads to the same location in both trees**, or fails for the same reason. -/
theorem locate_eq (h : t.SameShape t') (purpose : Purpose) (here : Location) (p : Path) :
    t.locate purpose here p = t'.locate purpose here p := by
  rw [locate, locate, h.walk_eq]

/-- **A check of a path sees the same in both trees.** -/
theorem kindOf_eq (h : t.SameShape t') (here : Location) : t.kindOf here = t'.kindOf here := by
  funext p
  unfold kindOf find
  rw [h.locate_eq]
  cases t'.locate .read here p with
  | error e => rfl
  | ok l =>
    rcases h l with he | ⟨c, c', hc, hc'⟩
    · simp only [he]
    · simp only [hc, hc']

/-! ## Storing -/

/-- **Storing a file does the same to both trees**, or fails in both for the same reason. -/
theorem write_agrees (h : t.SameShape t') (here : Location) (p : Path) (contents : Text.Bytes) :
    (∃ e, t.write here p contents = .error e ∧ t'.write here p contents = .error e) ∨
      ∃ u u', t.write here p contents = .ok u ∧ t'.write here p contents = .ok u' ∧
        SameChanges t t' u u' := by
  unfold write
  rw [h.locate_eq]
  cases t'.locate .create here p with
  | error e => exact Or.inl ⟨_, rfl, rfl⟩
  | ok l =>
    dsimp only
    have hplaced : t.TakesFile l → SameChanges t t' (t.place l (.file contents))
        (t'.place l (.file contents)) := fun ht => SameChanges.place ht.ne_nil _
    rcases h l with he | ⟨c, c', hc, hc'⟩
    · rw [← he]
      rcases hl : t.get? l with _ | (_ | c | target | (_ | _))
      · exact Or.inr ⟨_, _, rfl, rfl, hplaced (Or.inl hl)⟩
      · exact Or.inl ⟨_, rfl, rfl⟩
      · exact Or.inr ⟨_, _, rfl, rfl, hplaced (Or.inr ⟨c, hl⟩)⟩
      · exact Or.inl ⟨_, rfl, rfl⟩
      · exact Or.inr ⟨_, _, rfl, rfl, SameChanges.refl t t'⟩
      · cases contents with
        | nil => exact Or.inr ⟨_, _, rfl, rfl, SameChanges.refl t t'⟩
        | cons b rest => exact Or.inl ⟨_, rfl, rfl⟩
    · rw [hc, hc']
      exact Or.inr ⟨_, _, rfl, rfl, hplaced (Or.inr ⟨c, hc⟩)⟩

end SameShape
end FileTree
end DockerMatrix
