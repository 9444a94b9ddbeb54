/-
# Storing the Dockerfiles of several targets

A run that is not dry stores the Dockerfiles of its targets one after the other, each in the tree
that the one before has left (`storeAll`).  As storing keeps the frame of a tree, a destination is
the same location from the first tree to the last, whichever files have been stored in between
(`destinationIn_iff`).  So at every location stands the Dockerfile of the last target whose
destination it is (`storeAll_last`), and what is no destination is as it was (`storeAll_untouched`).
-/

import DockerMatrix.Generation.Request
import DockerMatrix.Proofs.FileTree.Walk
import DockerMatrix.Proofs.Text.Utf8

namespace DockerMatrix

open FileTree

/-! ## Dockerfiles as bytes -/

/-- Every Dockerfile begins with the comment at its head. -/
theorem Target.exists_dockerfile_eq (t : Target) :
    ∃ rest, t.dockerfile = Dockerfile.Block.header ++ rest := by
  unfold Target.dockerfile Recipe.text Recipe.blocks
  split <;>
    simp only [String.join_cons, Dockerfile.Block.cpuBase, Dockerfile.Block.gpuBase,
      Dockerfile.ofLines, String.append_assoc] <;>
    exact ⟨_, rfl⟩

/-- No Dockerfile is empty. -/
theorem Target.bytes_ne_nil (t : Target) : t.artifact.bytes ≠ [] := by
  obtain ⟨rest, h⟩ := t.exists_dockerfile_eq
  refine Text.encode_ne_nil ?_
  show t.dockerfile.toList ≠ []
  rw [h, String.toList_append, Dockerfile.Block.header]
  simp

namespace Generation

variable {here : Location} {directory : Path} {t t' t'' : FileTree} {target : Target}
  {targets : List Target} {l : Location}

/-! ## One target -/

/-- Where the Dockerfile of a target is stored in a tree, if the path leads anywhere. -/
def destinationIn (here : Location) (directory : Path) (t : FileTree) (target : Target) :
    Except AccessError Location :=
  t.locate .create here (target.artifact.destination directory)

/-- No destination is a device that takes what is written to it and keeps nothing. -/
def Keeps (here : Location) (directory : Path) (t : FileTree) : Prop :=
  ∀ target l, destinationIn here directory t target = .ok l → t.get? l ≠ some (.device .sink)

/-- A tree without such devices keeps what is stored in it. -/
theorem keeps_of_forall_entries (h : ∀ p ∈ t.entries, p.2 ≠ .device .sink) :
    Keeps here directory t := by
  intro _ l _ hd
  unfold FileTree.get? at hd
  by_cases hl : l = []
  · simp [hl] at hd
  · rw [if_neg hl] at hd
    exact h _ (Table.mem_of_get? hd) rfl

/-- Trees of one frame have the same destinations. -/
theorem destinationIn_iff (h : t.SameFrame t') :
    destinationIn here directory t' target = .ok l ↔ destinationIn here directory t target = .ok l :=
  h.locate_create_iff

/-- Whether the destinations keep what is written there is part of the frame. -/
theorem Keeps.of_sameFrame (hk : Keeps here directory t) (h : t.SameFrame t') :
    Keeps here directory t' := by
  intro target l hl hd
  rw [destinationIn_iff h] at hl
  exact hk target l hl ((h.get?_eq_some_iff fun _ => Entry.noConfusion).1 hd)

/-- **What storing a Dockerfile does**: it places the file at the destination, or a device there
takes it. -/
theorem store_spec (h : target.artifact.store t here directory = .ok t') :
    ∃ l, destinationIn here directory t target = .ok l ∧
      (t' = t ∨ t.TakesFile l ∧ t' = t.place l (.file target.artifact.bytes)) := by
  obtain ⟨l, hl, hw⟩ := write_eq_ok_iff.1 h
  exact ⟨l, hl, hw.symm.imp_left And.left⟩

/-- Storing a Dockerfile stores a file and does nothing else. -/
theorem store_onlyStores (h : target.artifact.store t here directory = .ok t') :
    t.OnlyStores t' := by
  obtain ⟨l, -, rfl | ⟨ht, rfl⟩⟩ := store_spec h
  · exact OnlyStores.refl t'
  · exact ht.onlyStores_place _

/-- Where no device takes it, a Dockerfile that is stored stands at its destination. -/
theorem store_eq_ok_iff (hk : Keeps here directory t) :
    target.artifact.store t here directory = .ok t' ↔
      ∃ l, destinationIn here directory t target = .ok l ∧ t.TakesFile l ∧
        t' = t.place l (.file target.artifact.bytes) := by
  unfold Artifact.store
  rw [write_eq_ok_iff]
  constructor
  · rintro ⟨l, hl, ⟨ht, rfl⟩ | ⟨rfl, hd | ⟨_, hn⟩⟩⟩
    · exact ⟨l, hl, ht, rfl⟩
    · exact absurd hd (hk target l hl)
    · exact absurd hn target.bytes_ne_nil
  · rintro ⟨l, hl, ht, rfl⟩
    exact ⟨l, hl, Or.inl ⟨ht, rfl⟩⟩

/-! ## Several targets -/

/-- The tree after the Dockerfiles of targets have been stored in a directory, in order. -/
def storeAll (here : Location) (directory : Path) :
    FileTree → List Target → Except StorageError FileTree
  | t, [] => .ok t
  | t, target :: rest =>
    match target.artifact.store t here directory with
    | .error e => .error e
    | .ok t' => storeAll here directory t' rest

/-- Targets are stored in order, the first one first. -/
theorem storeAll_cons_eq_ok_iff :
    storeAll here directory t (target :: targets) = .ok t'' ↔
      ∃ t', target.artifact.store t here directory = .ok t' ∧
        storeAll here directory t' targets = .ok t'' := by
  rw [storeAll]
  cases target.artifact.store t here directory <;> simp

/-- The earlier ones are stored before the later ones. -/
theorem storeAll_append_eq_ok_iff {before after : List Target} :
    storeAll here directory t (before ++ after) = .ok t'' ↔
      ∃ t', storeAll here directory t before = .ok t' ∧
        storeAll here directory t' after = .ok t'' := by
  induction before generalizing t with
  | nil => simp [storeAll]
  | cons target before ih =>
    simp only [List.cons_append, storeAll_cons_eq_ok_iff, ih]
    constructor
    · rintro ⟨t₁, h₁, t₂, h₂, h⟩
      exact ⟨t₂, ⟨t₁, h₁, h₂⟩, h⟩
    · rintro ⟨t₂, ⟨t₁, h₁, h₂⟩, h⟩
      exact ⟨t₁, h₁, t₂, h₂, h⟩

/-- **Where storing stops**: every Dockerfile is stored, or those of some first targets are and the
next one is not. -/
theorem storeAll_stops (here : Location) (directory : Path) (t : FileTree)
    (targets : List Target) :
    (∃ t', storeAll here directory t targets = .ok t') ∨
      ∃ before target after t' e, targets = before ++ target :: after ∧
        storeAll here directory t before = .ok t' ∧
        target.artifact.store t' here directory = .error e := by
  induction targets generalizing t with
  | nil => exact Or.inl ⟨t, rfl⟩
  | cons target rest ih =>
    cases hs : target.artifact.store t here directory with
    | error e => exact Or.inr ⟨[], target, rest, t, e, rfl, rfl, hs⟩
    | ok t₁ =>
      rcases ih t₁ with ⟨t', h⟩ | ⟨before, target', after, t', e, rfl, h, he⟩
      · exact Or.inl ⟨t', storeAll_cons_eq_ok_iff.2 ⟨t₁, hs, h⟩⟩
      · exact Or.inr ⟨target :: before, target', after, t', e, rfl,
          storeAll_cons_eq_ok_iff.2 ⟨t₁, hs, h⟩, he⟩

/-- Storing the Dockerfiles of targets only stores. -/
theorem storeAll_onlyStores (h : storeAll here directory t targets = .ok t') :
    t.OnlyStores t' := by
  induction targets generalizing t with
  | nil =>
    rw [storeAll, Except.ok.injEq] at h
    exact h ▸ OnlyStores.refl t
  | cons target rest ih =>
    obtain ⟨t₁, hs, h⟩ := storeAll_cons_eq_ok_iff.1 h
    exact (store_onlyStores hs).trans (ih h)

/-- What is the destination of no target is left as it was. -/
theorem storeAll_untouched (hk : Keeps here directory t)
    (h : storeAll here directory t targets = .ok t')
    (hl : ∀ target ∈ targets, destinationIn here directory t target ≠ .ok l) :
    t'.get? l = t.get? l := by
  induction targets generalizing t with
  | nil =>
    rw [storeAll, Except.ok.injEq] at h
    rw [h]
  | cons target rest ih =>
    obtain ⟨t₁, hs, h⟩ := storeAll_cons_eq_ok_iff.1 h
    obtain ⟨l₁, hl₁, ht, rfl⟩ := (store_eq_ok_iff hk).1 hs
    have hf := (ht.onlyStores_place target.artifact.bytes).sameFrame
    rw [ih (hk.of_sameFrame hf) h, get?_place t ht.ne_nil, if_neg]
    · rintro rfl
      exact hl target (List.mem_cons_self ..) hl₁
    · intro target' hm hl'
      exact hl target' (List.mem_cons_of_mem _ hm) ((destinationIn_iff hf).1 hl')

/-- The Dockerfile of a target is at its destination, if no later target has the same one. -/
theorem storeAll_last {before after : List Target} (hk : Keeps here directory t)
    (h : storeAll here directory t (before ++ target :: after) = .ok t')
    (hl : destinationIn here directory t target = .ok l)
    (hafter : ∀ later ∈ after, destinationIn here directory t later ≠ .ok l) :
    t'.get? l = some (.file target.artifact.bytes) := by
  obtain ⟨t₁, h₁, h⟩ := storeAll_append_eq_ok_iff.1 h
  obtain ⟨t₂, hs, h⟩ := storeAll_cons_eq_ok_iff.1 h
  have hf₁ := (storeAll_onlyStores h₁).sameFrame
  have hk₁ := hk.of_sameFrame hf₁
  obtain ⟨l', hl', ht, rfl⟩ := (store_eq_ok_iff hk₁).1 hs
  have hf₂ := (ht.onlyStores_place target.artifact.bytes).sameFrame
  obtain rfl : l' = l := by
    rw [destinationIn_iff hf₁, hl] at hl'
    exact (Except.ok.inj hl').symm
  rw [storeAll_untouched (hk₁.of_sameFrame hf₂) h, get?_place t₁ ht.ne_nil, if_pos rfl]
  intro later hm hl'
  exact hafter later hm ((destinationIn_iff hf₁).1 ((destinationIn_iff hf₂).1 hl'))

/-- Every target whose Dockerfile is stored has a destination. -/
theorem storeAll_exists_destination (h : storeAll here directory t targets = .ok t')
    (hm : target ∈ targets) :
    ∃ l, destinationIn here directory t target = .ok l := by
  obtain ⟨before, after, rfl⟩ := List.append_of_mem hm
  obtain ⟨t₁, h₁, h⟩ := storeAll_append_eq_ok_iff.1 h
  obtain ⟨t₂, hs, -⟩ := storeAll_cons_eq_ok_iff.1 h
  obtain ⟨l, hl, -⟩ := store_spec hs
  exact ⟨l, (destinationIn_iff (storeAll_onlyStores h₁).sameFrame).1 hl⟩

/-- Of the members of a list with a property there is a last one. -/
theorem exists_last {α : Type} {p : α → Prop} {xs : List α} {x : α} (hx : x ∈ xs) (hp : p x) :
    ∃ before last after, xs = before ++ last :: after ∧ p last ∧ ∀ y ∈ after, ¬p y := by
  induction xs generalizing x with
  | nil => cases hx
  | cons first rest ih =>
    by_cases hr : ∃ y ∈ rest, p y
    · obtain ⟨y, hy, hpy⟩ := hr
      obtain ⟨before, last, after, rfl, hlast⟩ := ih hy hpy
      exact ⟨first :: before, last, after, rfl, hlast⟩
    · rcases List.mem_cons.1 hx with rfl | hx
      · exact ⟨[], x, rest, rfl, hp, fun y hy hpy => hr ⟨y, hy, hpy⟩⟩
      · exact absurd ⟨x, hx, hp⟩ hr

end Generation
end DockerMatrix
