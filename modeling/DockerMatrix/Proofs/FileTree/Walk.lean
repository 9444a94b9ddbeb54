/-
# Where paths lead while files are stored

A walk that creates a file looks at directories and links, and at nothing else except at its end,
where a file and a vacant place are both welcome.  Hence it ends at the same location in two trees
of the same frame (`SameFrame.locate_create_iff`): a file that is stored now neither opens nor
closes nor redirects a way to another file.  Where a file stands, a path that creates it and a path
that reads it are the same (`locate_read_iff_create`).

Both rest on one description of what a walk does at a name (`walkNames_cons_ok_iff`).
-/

import DockerMatrix.Proofs.FileTree.Frame

namespace DockerMatrix
namespace FileTree

variable {t t' : FileTree} {l : Location}

/-! ## Steps of a walk -/

section Walk

variable {purpose : Purpose} {follow follow' : Location → List Name → Except AccessError Location}
  {here : Location} {name : Name} {rest names : List Name}

/-- A name is that of an entry, and the entry may be looked up for the purpose. -/
def NamesEntry (purpose : Purpose) (name : Name) (rest : List Name) : Prop :=
  name ≠ [] ∧ name ≠ Path.dot ∧ name ≠ Path.dotDot ∧ ¬(purpose = .create ∧ rest = [[]]) ∧
    name.length ≤ nameLimit

/-- How a walk that meets the entry of a name gets to a location: it ends in the vacant place, it
follows a link, or it goes on from any other entry. -/
inductive Passes (t : FileTree) (purpose : Purpose)
    (follow : Location → List Name → Except AccessError Location) (here : Location) (name : Name)
    (rest : List Name) (l : Location) : Prop
  | vacant (h : t.get? (name :: here) = none) (hp : purpose = .create) (hr : rest = [])
      (hl : name :: here = l)
  | link (target : Text.Bytes) (h : t.get? (name :: here) = some (.link target))
      (hf : follow (if Path.isAbsolute target then [] else here) (Path.names target ++ rest) =
        .ok l)
  | entry (e : Entry) (h : t.get? (name :: here) = some e) (he : ∀ target, e ≠ .link target)
      (hw : t.walkNames purpose follow (name :: here) rest = .ok l)

/-- **What a walk does at a name**, if it gets to a location. -/
theorem walkNames_cons_ok_iff :
    t.walkNames purpose follow here (name :: rest) = .ok l ↔
      t.get? here = some .directory ∧
        ((name = [] ∨ name = Path.dot) ∧ t.walkNames purpose follow here rest = .ok l ∨
          name = Path.dotDot ∧ t.walkNames purpose follow here.tail rest = .ok l ∨
          NamesEntry purpose name rest ∧ t.Passes purpose follow here name rest l) := by
  have hdot : Path.dot ≠ Path.dotDot := by decide
  have hnil : Path.dotDot ≠ [] := by decide
  rw [walkNames]
  by_cases hd : t.get? here = some .directory
  swap
  · simp [hd]
  by_cases h₁ : name = [] ∨ name = Path.dot
  · rw [if_neg (not_not.2 hd), if_pos h₁]
    refine ⟨fun h => ⟨hd, Or.inl ⟨h₁, h⟩⟩, ?_⟩
    rintro ⟨-, ⟨-, h⟩ | ⟨h, -⟩ | ⟨h, -⟩⟩
    · exact h
    · rcases h₁ with rfl | rfl <;> contradiction
    · exact absurd h₁ (not_or.2 ⟨h.1, h.2.1⟩)
  by_cases h₂ : name = Path.dotDot
  · rw [if_neg (not_not.2 hd), if_neg h₁, if_pos h₂]
    refine ⟨fun h => ⟨hd, Or.inr (Or.inl ⟨h₂, h⟩)⟩, ?_⟩
    rintro ⟨-, ⟨h, -⟩ | ⟨-, h⟩ | ⟨h, -⟩⟩
    · exact absurd h h₁
    · exact h
    · exact absurd h₂ h.2.2.1
  by_cases h₃ : purpose = .create ∧ rest = [[]]
  · simp [hd, h₁, h₂, h₃, NamesEntry]
  by_cases h₄ : nameLimit < name.length
  · simp [hd, h₁, h₂, h₃, h₄, NamesEntry, Nat.not_le.2 h₄]
  rw [if_neg (not_not.2 hd), if_neg h₁, if_neg h₂, if_neg h₃, if_neg h₄]
  have hn : NamesEntry purpose name rest :=
    ⟨(not_or.1 h₁).1, (not_or.1 h₁).2, h₂, h₃, Nat.le_of_not_lt h₄⟩
  simp only [hd, h₁, h₂, hn, true_and, false_and, false_or]
  constructor
  · intro h
    cases he : t.get? (name :: here) with
    | none =>
      rw [he] at h
      by_cases hc : purpose = .create ∧ rest = []
      · simp only [if_pos hc, Except.ok.injEq] at h
        exact .vacant he hc.1 hc.2 h
      · simp [hc] at h
    | some e =>
      rw [he] at h
      cases e with
      | link target => exact .link target he h
      | directory => exact .entry _ he (fun _ => Entry.noConfusion) h
      | file _ => exact .entry _ he (fun _ => Entry.noConfusion) h
      | device _ => exact .entry _ he (fun _ => Entry.noConfusion) h
  · rintro (⟨he, hp, hr, hl⟩ | ⟨target, he, hf⟩ | ⟨e, he, hne, hw⟩)
    · simp only [he, hp, hr, and_self, if_true]
      rw [hl]
    · simpa only [he] using hf
    · rw [he]
      cases e with
      | link target => exact absurd rfl (hne target)
      | directory => exact hw
      | file _ => exact hw
      | device _ => exact hw

/-- A walk that goes on from what is no directory has come to its end. -/
theorem eq_of_walkNames_ok (hd : t.get? here ≠ some .directory)
    (h : t.walkNames purpose follow here names = .ok l) : names = [] ∧ here = l := by
  cases names with
  | nil =>
    rw [walkNames, Except.ok.injEq] at h
    exact ⟨rfl, h⟩
  | cons name rest => exact absurd (walkNames_cons_ok_iff.1 h).1 hd

/-- **Where a path leads**: it has no NUL byte, it is not empty and not too long, and its names are
walked through from where it starts. -/
theorem locate_ok_iff {p : Path} :
    t.locate purpose here p = .ok l ↔ 0 ∉ p ∧ p ≠ [] ∧ p.length < pathLimit ∧
      t.walk purpose linkLimit (if Path.isAbsolute p then [] else here) (Path.names p) = .ok l := by
  unfold locate
  by_cases h₁ : 0 ∈ p
  · simp [h₁]
  by_cases h₂ : p = []
  · simp [h₂]
  by_cases h₃ : pathLimit ≤ p.length
  · simp [h₁, h₂, h₃, Nat.not_lt.2 h₃]
  · simp [h₁, h₂, h₃, Nat.not_le.1 h₃]

/-! ## Walks that create -/

/-- One of two ways to go on from links gets wherever the other one gets. -/
def Within (follow follow' : Location → List Name → Except AccessError Location) : Prop :=
  ∀ here names l, follow here names = .ok l → follow' here names = .ok l

/-- In trees of one frame, names lead to the same place for a file. -/
theorem SameFrame.walkNames_create (h : t.SameFrame t') (hf : Within follow follow')
    (hw : t.walkNames .create follow here names = .ok l) :
    t'.walkNames .create follow' here names = .ok l := by
  induction names generalizing here with
  | nil => exact hw
  | cons name rest ih =>
    rw [walkNames_cons_ok_iff] at hw ⊢
    obtain ⟨hd, hw⟩ := hw
    refine ⟨h.directory hd, ?_⟩
    rcases hw with ⟨hn, hw⟩ | ⟨hn, hw⟩ | ⟨hn, hp⟩
    · exact Or.inl ⟨hn, ih hw⟩
    · exact Or.inr (Or.inl ⟨hn, ih hw⟩)
    refine Or.inr (Or.inr ⟨hn, ?_⟩)
    rcases h (name :: here) with he | ⟨ht, ht'⟩
    · rcases hp with ⟨hv, hc, hr, hl⟩ | ⟨target, hv, hw⟩ | ⟨e, hv, hne, hw⟩
      · exact .vacant (he ▸ hv) hc hr hl
      · exact .link target (he ▸ hv) (hf _ _ _ hw)
      · exact .entry e (he ▸ hv) hne (ih hw)
    -- A file may stand here in one tree and nothing in the other, and then the walk is at its end.
    · obtain ⟨rfl, hl⟩ : rest = [] ∧ name :: here = l := by
        rcases hp with ⟨_, _, hr, hl⟩ | ⟨target, hv, _⟩ | ⟨_, _, _, hw⟩
        · exact ⟨hr, hl⟩
        · exact absurd hv (ht.ne_link target)
        · exact eq_of_walkNames_ok ht.ne_directory hw
      rcases ht' with hv | ⟨c, hv⟩
      · exact .vacant hv rfl rfl hl
      · exact .entry _ hv (fun _ => Entry.noConfusion) (by rw [walkNames, hl])

/-- What can be walked to in one tree can be in another one of the same frame. -/
theorem SameFrame.walk_create (h : t.SameFrame t') (n : Nat) :
    Within (t.walk .create n) (t'.walk .create n) := by
  induction n with
  | zero => exact fun _ _ _ => h.walkNames_create fun _ _ _ hw => hw
  | succ n ih => exact fun _ _ _ => h.walkNames_create ih

/-- **The frame alone decides where a path leads to a place for a file.** -/
theorem SameFrame.locate_create_iff (h : t.SameFrame t') {p : Path} :
    t'.locate .create here p = .ok l ↔ t.locate .create here p = .ok l := by
  simp only [locate_ok_iff]
  refine and_congr_right fun _ => and_congr_right fun _ => and_congr_right fun _ => ?_
  exact ⟨h.symm.walk_create linkLimit _ _ l, h.walk_create linkLimit _ _ l⟩

/-! ## Walks that read -/

/-- A walk whose last name is empty ends in a directory, if it does so behind links. -/
theorem walkNames_read_slash
    (hf : ∀ here names l, follow here (names ++ [[]]) = .ok l → t.get? l = some .directory)
    (hw : t.walkNames .read follow here (names ++ [[]]) = .ok l) :
    t.get? l = some .directory := by
  induction names generalizing here with
  | nil =>
    obtain ⟨hd, ⟨_, hw⟩ | ⟨hn, _⟩ | ⟨hn, _⟩⟩ := walkNames_cons_ok_iff.1 hw
    · rw [walkNames, Except.ok.injEq] at hw
      exact hw ▸ hd
    · cases hn
    · exact absurd rfl hn.1
  | cons name rest ih =>
    obtain ⟨_, ⟨_, hw⟩ | ⟨_, hw⟩ | ⟨_, hp⟩⟩ := walkNames_cons_ok_iff.1 hw
    · exact ih hw
    · exact ih hw
    rcases hp with ⟨_, hc, _, _⟩ | ⟨target, _, hw⟩ | ⟨_, _, _, hw⟩
    · cases hc
    · exact hf _ (Path.names target ++ rest) l (by rw [List.append_assoc]; exact hw)
    · exact ih hw

/-- A path that ends in a slash leads to directories only. -/
theorem walk_read_slash (n : Nat) (here : Location) (names : List Name) (l : Location)
    (hw : t.walk .read n here (names ++ [[]]) = .ok l) : t.get? l = some .directory := by
  induction n generalizing here names l with
  | zero => exact walkNames_read_slash (fun _ _ _ h => by cases h) hw
  | succ n ih => exact walkNames_read_slash ih hw

/-- Names that lead to a place for a file lead there to read what stands there. -/
theorem walkNames_read_of_create (hl : t.get? l ≠ none)
    (hf : ∀ here names, follow here names = .ok l → follow' here names = .ok l)
    (hw : t.walkNames .create follow here names = .ok l) :
    t.walkNames .read follow' here names = .ok l := by
  induction names generalizing here with
  | nil => exact hw
  | cons name rest ih =>
    rw [walkNames_cons_ok_iff] at hw ⊢
    obtain ⟨hd, hw⟩ := hw
    refine ⟨hd, ?_⟩
    rcases hw with ⟨hn, hw⟩ | ⟨hn, hw⟩ | ⟨hn, hp⟩
    · exact Or.inl ⟨hn, ih hw⟩
    · exact Or.inr (Or.inl ⟨hn, ih hw⟩)
    refine Or.inr (Or.inr ⟨⟨hn.1, hn.2.1, hn.2.2.1, by simp, hn.2.2.2.2⟩, ?_⟩)
    rcases hp with ⟨hv, _, _, rfl⟩ | ⟨target, hv, hw⟩ | ⟨e, hv, hne, hw⟩
    · exact absurd hv hl
    · exact .link target hv (hf _ _ hw)
    · exact .entry e hv hne (ih hw)

/-- Where something stands, a walk that may create leads to it like one that may not. -/
theorem walk_read_of_create (hl : t.get? l ≠ none) (n : Nat) (here : Location) (names : List Name)
    (hw : t.walk .create n here names = .ok l) : t.walk .read n here names = .ok l := by
  induction n generalizing here names with
  | zero => exact walkNames_read_of_create hl (fun _ _ h => h) hw
  | succ n ih => exact walkNames_read_of_create hl ih hw

/-- Names that lead to what is no directory lead there to create a file as well. -/
theorem walkNames_create_of_read (hl : t.get? l ≠ some .directory)
    (hs : ∀ here names l, follow here (names ++ [[]]) = .ok l → t.get? l = some .directory)
    (hf : ∀ here names, follow here names = .ok l → follow' here names = .ok l)
    (hw : t.walkNames .read follow here names = .ok l) :
    t.walkNames .create follow' here names = .ok l := by
  induction names generalizing here with
  | nil => exact hw
  | cons name rest ih =>
    have hrest : rest ≠ [[]] := by
      rintro rfl
      exact hl (walkNames_read_slash hs (show t.walkNames .read follow here ([name] ++ [[]]) = _ from hw))
    rw [walkNames_cons_ok_iff] at hw ⊢
    obtain ⟨hd, hw⟩ := hw
    refine ⟨hd, ?_⟩
    rcases hw with ⟨hn, hw⟩ | ⟨hn, hw⟩ | ⟨hn, hp⟩
    · exact Or.inl ⟨hn, ih hw⟩
    · exact Or.inr (Or.inl ⟨hn, ih hw⟩)
    refine Or.inr (Or.inr ⟨⟨hn.1, hn.2.1, hn.2.2.1, fun hc => hrest hc.2, hn.2.2.2.2⟩, ?_⟩)
    rcases hp with ⟨_, hc, _, _⟩ | ⟨target, hv, hw⟩ | ⟨e, hv, hne, hw⟩
    · cases hc
    · exact .link target hv (hf _ _ hw)
    · exact .entry e hv hne (ih hw)

/-- A walk that may create leads to what stands there, unless it is a directory. -/
theorem walk_create_of_read (hl : t.get? l ≠ some .directory) (n : Nat) (here : Location)
    (names : List Name) (hw : t.walk .read n here names = .ok l) :
    t.walk .create n here names = .ok l := by
  induction n generalizing here names with
  | zero => exact walkNames_create_of_read hl (fun _ _ _ h => by cases h) (fun _ _ h => h) hw
  | succ n ih => exact walkNames_create_of_read hl (walk_read_slash n) ih hw

end Walk

/-- **Reading and creating agree on files**: a path leads to a file that is there, whatever it is
walked for. -/
theorem locate_read_iff_create {here : Location} {p : Path} {contents : Text.Bytes}
    (hl : t.get? l = some (.file contents)) :
    t.locate .read here p = .ok l ↔ t.locate .create here p = .ok l := by
  simp only [locate_ok_iff]
  refine and_congr_right fun _ => and_congr_right fun _ => and_congr_right fun _ => ?_
  exact ⟨walk_create_of_read (by simp [hl]) linkLimit _ _,
    walk_read_of_create (by simp [hl]) linkLimit _ _⟩

end FileTree
end DockerMatrix
