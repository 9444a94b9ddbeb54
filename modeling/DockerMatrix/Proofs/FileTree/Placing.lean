/-
# Entries that are placed one after the other

What storing files does to a tree is a list of entries, each placed at its location in the tree that
the one before has left (`placeAll`).  Placing the same list again changes nothing, not even the order
in which the entries are kept (`placeAll_placeAll`): an entry that is replaced stays where it is, and
the last one of a location is the one that stays.  If two lists agree wherever both place an entry, it
makes no difference which of them comes first (`get?_placeAll_comm`).

Storing a file that succeeds places the same list in every tree of a frame
(`exists_placeAll_of_write`): it does not matter what has been stored before.
-/

import DockerMatrix.Proofs.FileTree.Walk
import Mathlib.Data.List.Induction

namespace DockerMatrix

/-! ## Tables -/

namespace Table

variable {κ α : Type} [DecidableEq κ] {key key' : κ} {t : Table κ α}
  {placed first second : List (κ × α)}

/-- Of two values that are put under one key the second one stays. -/
theorem put_put_self (key : κ) (old new : α) (t : Table κ α) :
    put key new (put key old t) = put key new t := by
  induction t with
  | nil => simp [put]
  | cons entry rest ih =>
    by_cases h : entry.1 = key
    · simp [put, h]
    · rw [put, if_neg h, put, if_neg h, ih, put, if_neg h]

/-- Values are put under two keys in either order, if one of the keys has a value before. -/
theorem put_comm (h : key ≠ key') (hk : (get? key t).isSome) (value value' : α) :
    put key value (put key' value' t) = put key' value' (put key value t) := by
  induction t with
  | nil => cases hk
  | cons entry rest ih =>
    by_cases h₁ : entry.1 = key
    · have h₂ : entry.1 ≠ key' := fun he => h (h₁.symm.trans he)
      simp [put, h₁, h]
    by_cases h₂ : entry.1 = key'
    · have h₃ : key' ≠ key := Ne.symm h
      simp [put, h₂, h₃]
    · rw [get?, if_neg h₁] at hk
      simp [put, h₁, h₂, ih hk]

/-- Puts values under their keys, in order. -/
def putAll (t : Table κ α) (placed : List (κ × α)) : Table κ α :=
  placed.foldl (fun t p => put p.1 p.2 t) t

/-- The first pair is put first. -/
theorem putAll_cons (t : Table κ α) (p : κ × α) (rest : List (κ × α)) :
    putAll t (p :: rest) = putAll (put p.1 p.2 t) rest := rfl

/-- Pairs are put one after the other. -/
theorem putAll_append (t : Table κ α) (first second : List (κ × α)) :
    putAll t (first ++ second) = putAll (putAll t first) second :=
  List.foldl_append

/-- A key that has a value keeps one. -/
theorem isSome_get?_put (hk : (get? key t).isSome) (key' : κ) (value : α) :
    (get? key (put key' value t)).isSome := by
  rw [get?_put]
  split_ifs
  · rfl
  · exact hk

/-- Putting values under other keys leaves the value of a key. -/
theorem get?_putAll_of_forall_ne (h : ∀ p ∈ placed, p.1 ≠ key) (t : Table κ α) :
    get? key (putAll t placed) = get? key t := by
  induction placed generalizing t with
  | nil => rfl
  | cons p rest ih =>
    rw [putAll_cons, ih (fun q hq => h q (List.mem_cons_of_mem _ hq)), get?_put,
      if_neg (h p (List.mem_cons_self ..))]

/-- **What is put under a key stands there**, if all that is put there is the same. -/
theorem get?_putAll_of_mem {p : κ × α} (hp : p ∈ placed)
    (hsame : ∀ q ∈ placed, q.1 = p.1 → q.2 = p.2) (t : Table κ α) :
    get? p.1 (putAll t placed) = some p.2 := by
  induction placed generalizing t with
  | nil => cases hp
  | cons q rest ih =>
    rw [putAll_cons]
    by_cases hlater : ∃ r ∈ rest, r.1 = p.1
    · obtain ⟨r, hr, hkey⟩ := hlater
      have hrp : r = p := Prod.ext hkey (hsame r (List.mem_cons_of_mem _ hr) hkey)
      exact ih (hrp ▸ hr) (fun r hr => hsame r (List.mem_cons_of_mem _ hr)) _
    · have hlast : ∀ r ∈ rest, r.1 ≠ p.1 := fun r hr he => hlater ⟨r, hr, he⟩
      obtain rfl := (List.mem_cons.1 hp).resolve_right fun hr => hlast p hr rfl
      rw [get?_putAll_of_forall_ne hlast, get?_put, if_pos rfl]

/-- A key has a value afterwards if it had one or got one. -/
theorem isSome_get?_putAll (hk : (get? key t).isSome ∨ key ∈ placed.map Prod.fst) :
    (get? key (putAll t placed)).isSome := by
  induction placed generalizing t with
  | nil => exact hk.resolve_right List.not_mem_nil
  | cons p rest ih =>
    rw [putAll_cons]
    refine ih ?_
    rw [List.map_cons, List.mem_cons] at hk
    rcases hk with hk | rfl | hk
    · exact Or.inl (isSome_get?_put hk _ _)
    · exact Or.inl (by rw [get?_put, if_pos rfl]; rfl)
    · exact Or.inr hk

/-- A value is lost without a trace if another one is put under its key later, and the keys of what
is put in between have values already. -/
theorem put_putAll_put (hk : ∀ p ∈ placed, (get? p.1 t).isSome) (key : κ) (old new : α) :
    put key new (putAll (put key old t) placed) = put key new (putAll t placed) := by
  induction placed generalizing t with
  | nil => exact put_put_self key old new t
  | cons p rest ih =>
    have hrest : ∀ q ∈ rest, (get? q.1 (put p.1 p.2 t)).isSome := fun q hq =>
      isSome_get?_put (hk q (List.mem_cons_of_mem _ hq)) _ _
    rw [putAll_cons, putAll_cons]
    by_cases hkey : p.1 = key
    · rw [hkey, put_put_self]
    · rw [put_comm hkey (hk p (List.mem_cons_self ..)), ih hrest]

/-- **Putting the same values again changes nothing.** -/
theorem putAll_putAll (t : Table κ α) (placed : List (κ × α)) :
    putAll (putAll t placed) placed = putAll t placed := by
  induction placed using List.reverseRecOn with
  | nil => rfl
  | append_singleton first last ih =>
    have hkeys : ∀ p ∈ first, (get? p.1 (putAll t first)).isSome := fun p hp =>
      isSome_get?_putAll (Or.inr (List.mem_map_of_mem hp))
    calc putAll (putAll t (first ++ [last])) (first ++ [last])
        = put last.1 last.2 (putAll (put last.1 last.2 (putAll t first)) first) := by
          rw [putAll_append, putAll_append]
          rfl
      _ = put last.1 last.2 (putAll (putAll t first) first) := put_putAll_put hkeys ..
      _ = put last.1 last.2 (putAll t first) := by rw [ih]
      _ = putAll t (first ++ [last]) := by
          rw [putAll_append]
          rfl

/-- **Values are put in either order** if two of them under one key are the same. -/
theorem get?_putAll_comm (h : ∀ p ∈ first ++ second, ∀ q ∈ first ++ second, p.1 = q.1 → p.2 = q.2)
    (t : Table κ α) (key : κ) :
    get? key (putAll (putAll t first) second) = get? key (putAll (putAll t second) first) := by
  rw [← putAll_append, ← putAll_append]
  have hmem : ∀ p, p ∈ second ++ first ↔ p ∈ first ++ second := by
    intro p
    rw [List.mem_append, List.mem_append, or_comm]
  by_cases hkey : ∃ p ∈ first ++ second, p.1 = key
  · obtain ⟨p, hp, rfl⟩ := hkey
    rw [get?_putAll_of_mem hp fun q hq => h q hq p hp,
      get?_putAll_of_mem ((hmem p).2 hp) fun q hq => h q ((hmem q).1 hq) p hp]
  · have hne : ∀ p ∈ first ++ second, p.1 ≠ key := fun p hp he => hkey ⟨p, hp, he⟩
    rw [get?_putAll_of_forall_ne hne, get?_putAll_of_forall_ne fun p hp => hne p ((hmem p).1 hp)]

end Table

/-! ## Trees -/

namespace FileTree

variable {t t' : FileTree} {here l : Location} {p : Path} {contents : Text.Bytes}
  {placed first second : List (Location × Entry)}

/-- The tree with entries placed at their locations, in order. -/
def placeAll (t : FileTree) (placed : List (Location × Entry)) : FileTree :=
  ⟨Table.putAll t.entries placed⟩

/-- Entries are placed one after the other. -/
theorem placeAll_append (t : FileTree) (first second : List (Location × Entry)) :
    t.placeAll (first ++ second) = (t.placeAll first).placeAll second :=
  congrArg FileTree.mk (Table.putAll_append ..)

/-- **Placing the same entries again changes nothing.** -/
theorem placeAll_placeAll (t : FileTree) (placed : List (Location × Entry)) :
    (t.placeAll placed).placeAll placed = t.placeAll placed :=
  congrArg FileTree.mk (Table.putAll_putAll ..)

/-- **Entries are placed in either order** if two of them at one location are the same. -/
theorem get?_placeAll_comm
    (h : ∀ p ∈ first ++ second, ∀ q ∈ first ++ second, p.1 = q.1 → p.2 = q.2) (t : FileTree)
    (l : Location) :
    ((t.placeAll first).placeAll second).get? l = ((t.placeAll second).placeAll first).get? l := by
  unfold get? placeAll
  rw [Table.get?_putAll_comm h]

/-- **What storing a file does if it succeeds** is the same in every tree of the frame: the file is
placed where its path leads, or a device there takes it and nothing is placed. -/
theorem exists_placeAll_of_write (h : t.write here p contents = .ok t') :
    ∃ placed, (∀ q ∈ placed, t.locate .create here p = .ok q.1 ∧ q.2 = .file contents) ∧
      ∀ u, t.SameFrame u → u.write here p contents = .ok (u.placeAll placed) := by
  obtain ⟨l, hl, ⟨ht, rfl⟩ | ⟨rfl, hd⟩⟩ := write_eq_ok_iff.1 h
  · refine ⟨[(l, .file contents)], ?_, fun u hf => ?_⟩
    · intro q hq
      obtain rfl := List.mem_singleton.1 hq
      exact ⟨hl, rfl⟩
    · exact write_eq_ok_iff.2 ⟨l, hf.locate_create_iff.2 hl, Or.inl ⟨hf.takesFile ht, rfl⟩⟩
  · refine ⟨[], nofun, fun u hf => ?_⟩
    have hdevice : ∀ kind, u.get? l = some (.device kind) ↔ t'.get? l = some (.device kind) :=
      fun kind => hf.get?_eq_some_iff fun _ => Entry.noConfusion
    refine write_eq_ok_iff.2 ⟨l, hf.locate_create_iff.2 hl, Or.inr ⟨rfl, ?_⟩⟩
    exact hd.imp (hdevice _).2 fun ⟨hfull, hempty⟩ => ⟨(hdevice _).2 hfull, hempty⟩

/-- Storing a file fails alike in another tree of the frame, if the path leads to the same place there
or fails alike. -/
theorem SameFrame.write_eq_error {u : FileTree} {e : StorageError} (hf : t.SameFrame u)
    (hl : u.locate .create here p = t.locate .create here p)
    (he : t.write here p contents = .error e) : u.write here p contents = .error e := by
  have hsame : ∀ l e, (∀ c, e ≠ .file c) → t.get? l = some e → u.get? l = some e :=
    fun l e he => (hf.get?_eq_some_iff he).2
  rw [write_eq_error_iff, ← hl] at he
  rw [write_eq_error_iff]
  rcases he with ⟨cause, rfl, hcause⟩ | ⟨rfl, hne, l, hl, hfull⟩
  · refine Or.inl ⟨cause, rfl, hcause.imp_right ?_⟩
    rintro ⟨l, hl, ⟨hd, rfl⟩ | ⟨⟨target, hlink⟩, rfl⟩⟩
    · exact ⟨l, hl, Or.inl ⟨hsame l _ (fun _ => Entry.noConfusion) hd, rfl⟩⟩
    · exact ⟨l, hl, Or.inr ⟨⟨target, hsame l _ (fun _ => Entry.noConfusion) hlink⟩, rfl⟩⟩
  · exact Or.inr ⟨rfl, hne, l, hl, hsame l _ (fun _ => Entry.noConfusion) hfull⟩

end FileTree
end DockerMatrix
