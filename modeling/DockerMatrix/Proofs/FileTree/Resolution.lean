/-
# What a path resolves to

A path resolves to a location if its names lead there one after the other, and links on the way are
followed (`Resolves`).  The relation says what a name does and nothing of how a walk is carried out:
it counts the links that are followed and has no limit to them.  A walk ends at a location if and only
if its names resolve to the location with no more links than the walk may follow (`walk_read_ok_iff`).
So a loop of links, a link that dangles and a way through a file come to the same: they resolve to
nothing.

What a check of a path sees is the kind of the entry that the path resolves to
(`kindOf_directory_iff`, `kindOf_other_iff`, `kindOf_absent_iff`).
-/

import DockerMatrix.Proofs.FileTree.Walk

namespace DockerMatrix
namespace FileTree

variable {t : FileTree} {here l : Location} {name : Name} {rest names : List Name} {p : Path}
  {limit n : Nat}

/-! ## Names -/

/-- Names lead from a location to another one, and a number of links is followed on the way.

Each name is looked up in a directory.  An empty name and `.` stay there, `..` leads to the parent, a
link leads through the names of its target, from the root or from the directory that the link is in,
and any other entry leads to itself. -/
inductive Resolves (t : FileTree) : Location → List Name → Nat → Location → Prop
  | arrived (here : Location) : Resolves t here [] 0 here
  | stay {here : Location} {name : Name} {rest : List Name} {n : Nat} {l : Location}
      (hd : t.get? here = some .directory) (hn : name = [] ∨ name = Path.dot)
      (h : Resolves t here rest n l) : Resolves t here (name :: rest) n l
  | up {here : Location} {rest : List Name} {n : Nat} {l : Location}
      (hd : t.get? here = some .directory) (h : Resolves t here.tail rest n l) :
      Resolves t here (Path.dotDot :: rest) n l
  | entry {here : Location} {name : Name} {rest : List Name} {n : Nat} {l : Location}
      (hd : t.get? here = some .directory) (hn : NamesEntry .read name rest) (e : Entry)
      (he : t.get? (name :: here) = some e) (hne : ∀ target, e ≠ .link target)
      (h : Resolves t (name :: here) rest n l) : Resolves t here (name :: rest) n l
  | link {here : Location} {name : Name} {rest : List Name} {n : Nat} {l : Location}
      (hd : t.get? here = some .directory) (hn : NamesEntry .read name rest)
      (target : Text.Bytes) (he : t.get? (name :: here) = some (.link target))
      (h : Resolves t (if Path.isAbsolute target then [] else here) (Path.names target ++ rest) n l) :
      Resolves t here (name :: rest) (n + 1) l

/-- A walk ends where its names resolve to with at most a number of links, if behind each link it ends
where the names resolve to with fewer. -/
theorem walkNames_read_ok_iff {follow : Location → List Name → Except AccessError Location}
    (hf : ∀ here names, follow here names = .ok l ↔ ∃ n < limit, t.Resolves here names n l) :
    t.walkNames .read follow here names = .ok l ↔ ∃ n ≤ limit, t.Resolves here names n l := by
  induction names generalizing here with
  | nil =>
    rw [walkNames, Except.ok.injEq]
    constructor
    · rintro rfl
      exact ⟨0, Nat.zero_le _, .arrived here⟩
    · rintro ⟨_, -, ⟨⟩⟩
      rfl
  | cons name rest ih =>
    rw [walkNames_cons_ok_iff]
    constructor
    · rintro ⟨hd, ⟨hn, hw⟩ | ⟨rfl, hw⟩ | ⟨hn, hp⟩⟩
      · obtain ⟨n, hle, h⟩ := ih.1 hw
        exact ⟨n, hle, .stay hd hn h⟩
      · obtain ⟨n, hle, h⟩ := ih.1 hw
        exact ⟨n, hle, .up hd h⟩
      rcases hp with ⟨_, hc, _, _⟩ | ⟨target, he, hw⟩ | ⟨e, he, hne, hw⟩
      · cases hc
      · obtain ⟨n, hlt, h⟩ := (hf _ _).1 hw
        exact ⟨n + 1, hlt, .link hd hn target he h⟩
      · obtain ⟨n, hle, h⟩ := ih.1 hw
        exact ⟨n, hle, .entry hd hn e he hne h⟩
    · rintro ⟨n, hle, h⟩
      cases h with
      | stay hd hn h => exact ⟨hd, Or.inl ⟨hn, ih.2 ⟨n, hle, h⟩⟩⟩
      | up hd h => exact ⟨hd, Or.inr (Or.inl ⟨rfl, ih.2 ⟨n, hle, h⟩⟩)⟩
      | entry hd hn e he hne h =>
        exact ⟨hd, Or.inr (Or.inr ⟨hn, .entry e he hne (ih.2 ⟨n, hle, h⟩)⟩)⟩
      | link hd hn target he h =>
        exact ⟨hd, Or.inr (Or.inr ⟨hn, .link target he ((hf _ _).2 ⟨_, hle, h⟩)⟩)⟩

/-- **A walk ends where its names resolve to**, if no more links are followed than it may follow. -/
theorem walk_read_ok_iff :
    t.walk .read limit here names = .ok l ↔ ∃ n ≤ limit, t.Resolves here names n l := by
  induction limit generalizing here names with
  | zero => exact walkNames_read_ok_iff fun _ _ => by simp
  | succ limit ih => exact walkNames_read_ok_iff fun _ _ => by rw [ih]; simp only [Nat.lt_succ_iff]

/-! ## Paths -/

/-- A path resolves to a location.  It is a path that the system takes: it has no NUL byte, it is not
empty and not too long, and no more links are followed than the system allows. -/
structure ResolvesTo (t : FileTree) (here : Location) (p : Path) (l : Location) : Prop where
  noNul : 0 ∉ p
  ne_nil : p ≠ []
  fits : p.length < pathLimit
  resolves : ∃ n ≤ linkLimit,
    t.Resolves (if Path.isAbsolute p then [] else here) (Path.names p) n l

/-- **A path is located where it resolves to.** -/
theorem locate_read_ok_iff : t.locate .read here p = .ok l ↔ t.ResolvesTo here p l := by
  rw [locate_ok_iff, walk_read_ok_iff]
  exact ⟨fun ⟨h₁, h₂, h₃, h₄⟩ => ⟨h₁, h₂, h₃, h₄⟩, fun ⟨h₁, h₂, h₃, h₄⟩ => ⟨h₁, h₂, h₃, h₄⟩⟩

/-- An entry stands where a path resolves to. -/
def StandsAt (t : FileTree) (here : Location) (p : Path) (e : Entry) : Prop :=
  ∃ l, t.ResolvesTo here p l ∧ t.get? l = some e

/-- An entry is found where it stands. -/
theorem find_ok_iff {e : Entry} : t.find here p = .ok e ↔ t.StandsAt here p e := by
  simp only [StandsAt, ← locate_read_ok_iff, find]
  cases t.locate .read here p with
  | error cause => simp
  | ok l => cases hl : t.get? l <;> simp [hl]

/-- A path is taken for a directory if one stands there. -/
theorem kindOf_directory_iff :
    t.kindOf here p = .directory ↔ t.StandsAt here p .directory := by
  rw [← find_ok_iff, kindOf]
  rcases t.find here p with cause | (_ | _ | _ | _) <;> simp

/-- A path is taken for something else than a directory if that stands there. -/
theorem kindOf_other_iff :
    t.kindOf here p = .other ↔ ∃ e, t.StandsAt here p e ∧ e ≠ .directory := by
  simp only [← find_ok_iff, kindOf]
  rcases t.find here p with cause | (_ | _ | _ | _) <;> simp

/-- A path is taken for nothing if nothing stands there. -/
theorem kindOf_absent_iff :
    t.kindOf here p = .absent ↔ ∀ e, ¬t.StandsAt here p e := by
  simp only [← find_ok_iff, kindOf]
  rcases t.find here p with cause | (_ | _ | _ | _) <;> simp

end FileTree
end DockerMatrix
