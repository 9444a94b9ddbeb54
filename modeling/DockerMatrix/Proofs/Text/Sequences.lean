/-
# Where the reading of sequences begins anew

What a text is stripped of, or shown without, is decided by one pass from left to right, and what
stands in front of a place may have begun a sequence that goes on behind it.

Stripping begins anew at every character that cannot go on a color sequence (`stripFrom_append_cons`):
at a line feed, at a capital letter, and at the ESC that begins the next sequence.  So a color
sequence that is put between two texts is deleted, whatever the first one ends in, and joins nothing
of the first one to the second.  `stripFrom_sequence`, `stripFrom_esc_of_not_sequence` and
`stripFrom_cons` say all of what stripping does: a color sequence is deleted, an ESC that begins none
is kept, and so is any other character.

Showing begins anew behind the sequence that resets the terminal (`shownFrom_append_reset`).
-/

import DockerMatrix.Text.Control
import Mathlib.Tactic.Common

namespace DockerMatrix
namespace Text

/-! ## Color sequences -/

/-- A character that can stand in a color sequence behind its ESC. -/
def Continues (c : Char) : Prop :=
  c = '[' ∨ c = 'm' ∨ c.isDigit

/-- A character that is part of no color sequence. -/
def Breaks (c : Char) : Prop :=
  c ≠ esc ∧ c ≠ '[' ∧ c ≠ 'm' ∧ c.isDigit = false

instance (c : Char) : Decidable (Breaks c) :=
  inferInstanceAs (Decidable (c ≠ esc ∧ c ≠ '[' ∧ c ≠ 'm' ∧ c.isDigit = false))

/-- No sequence goes on with an escape character. -/
theorem not_continues_esc : ¬Continues esc := by
  unfold Continues
  decide

/-- A character that is no ESC is kept. -/
theorem stripFrom_cons {c : Char} (hc : c ≠ esc) (ys : List Char) :
    stripFrom .text (c :: ys) = c :: stripFrom .text ys := by
  rw [stripFrom, if_neg hc]

/-- **A character that cannot go on a color sequence parts a text**: what stands before it and what
begins with it are stripped by themselves. -/
theorem stripFrom_append_cons {c : Char} (hc : ¬Continues c) (state : Scan) (xs ys : List Char) :
    stripFrom state (xs ++ c :: ys) = stripFrom state xs ++ stripFrom .text (c :: ys) := by
  obtain ⟨hbracket, hm, hdigit⟩ : c ≠ '[' ∧ c ≠ 'm' ∧ ¬c.isDigit := by
    simpa [Continues] using hc
  generalize hbehind : stripFrom .text (c :: ys) = behind
  induction xs generalizing state with
  | nil =>
    rw [← hbehind]
    by_cases hesc : c = esc
    · cases state <;> simp [stripFrom, hesc, esc]
    · cases state <;> simp [stripFrom, hesc, hbracket, hm, hdigit]
  | cons x xs ih =>
    rw [List.cons_append]
    cases state with
    | text =>
      rw [stripFrom, stripFrom]
      split_ifs
      · exact ih _
      · rw [ih, List.cons_append]
    | escape =>
      rw [stripFrom, stripFrom]
      split_ifs
      · exact ih _
      · rw [ih, List.cons_append]
      · rw [ih, List.cons_append, List.cons_append]
    | digits read =>
      rw [stripFrom, stripFrom]
      split_ifs
      · exact ih _
      · exact ih _
      · rw [ih, List.append_assoc]
      · rw [ih, List.append_assoc, List.cons_append]

/-- A character that breaks sequences is kept, and the text behind it is stripped afresh. -/
theorem stripFrom_append_breaks {c : Char} (hc : Breaks c) (state : Scan) (xs ys : List Char) :
    stripFrom state (xs ++ c :: ys) = stripFrom state xs ++ c :: stripFrom .text ys := by
  obtain ⟨hesc, hbracket, hm, hdigit⟩ := hc
  rw [stripFrom_append_cons (by simp [Continues, hbracket, hm, hdigit]), stripFrom_cons hesc]

/-- A sequence that ends in an `m` is left out. -/
theorem stripFrom_digits_append {ds : List Char} (hds : ∀ d ∈ ds, d.isDigit) (read ys : List Char) :
    stripFrom (.digits read) (ds ++ 'm' :: ys) = stripFrom .text ys := by
  induction ds generalizing read with
  | nil => rw [List.nil_append, stripFrom, if_pos rfl]
  | cons d ds ih =>
    have hd : d.isDigit := hds d (List.mem_cons_self ..)
    have hm : d ≠ 'm' := by
      rintro rfl
      exact absurd hd (by decide)
    rw [List.cons_append, stripFrom, if_neg hm, if_pos hd]
    exact ih (fun d' h => hds d' (List.mem_cons_of_mem _ h)) _

/-- **A color sequence is deleted.** -/
theorem stripFrom_sequence {ds : List Char} (hds : ∀ d ∈ ds, d.isDigit) (ys : List Char) :
    stripFrom .text (esc :: '[' :: (ds ++ 'm' :: ys)) = stripFrom .text ys := by
  rw [stripFrom, if_pos rfl, stripFrom, if_pos rfl, stripFrom_digits_append hds]

/-- What has been read of a sequence that ends otherwise is kept. -/
theorem stripFrom_digits_of_not_sequence {ys : List Char}
    (h : ∀ ds zs, (∀ d ∈ ds, d.isDigit) → ys ≠ ds ++ 'm' :: zs) (read : List Char) :
    stripFrom (.digits read) ys = read.reverse ++ stripFrom .text ys := by
  induction ys generalizing read with
  | nil => simp [stripFrom]
  | cons y ys ih =>
    have hm : y ≠ 'm' := by
      rintro rfl
      exact h [] ys nofun rfl
    rw [stripFrom, stripFrom, if_neg hm]
    by_cases hd : y.isDigit
    · have hesc : y ≠ esc := by
        rintro rfl
        exact absurd hd (by decide)
      have hrest : ∀ ds zs, (∀ d ∈ ds, d.isDigit) → ys ≠ ds ++ 'm' :: zs := by
        rintro ds zs hds rfl
        exact h (y :: ds) zs (List.forall_mem_cons.2 ⟨hd, hds⟩) rfl
      rw [if_pos hd, if_neg hesc, ih hrest, List.reverse_cons, List.append_assoc]
      rfl
    · rw [if_neg hd]
      split_ifs <;> rfl

/-- **An ESC that begins no color sequence is kept.** -/
theorem stripFrom_esc_of_not_sequence {ys : List Char}
    (h : ∀ ds zs, (∀ d ∈ ds, d.isDigit) → ys ≠ '[' :: (ds ++ 'm' :: zs)) :
    stripFrom .text (esc :: ys) = esc :: stripFrom .text ys := by
  rw [stripFrom, if_pos rfl]
  cases ys with
  | nil => rfl
  | cons y ys =>
    by_cases hbracket : y = '['
    · subst hbracket
      have hrest : ∀ ds zs, (∀ d ∈ ds, d.isDigit) → ys ≠ ds ++ 'm' :: zs := by
        rintro ds zs hds rfl
        exact h ds zs hds rfl
      rw [stripFrom_cons (show '[' ≠ esc by decide), stripFrom, if_pos rfl,
        stripFrom_digits_of_not_sequence hrest]
      rfl
    · rw [stripFrom, stripFrom, if_neg hbracket]
      split_ifs <;> rfl

/-! ## Characters that are shown -/

/-- **Behind a reset of the terminal, characters are shown as at the beginning of a text**, whatever
sequence has been begun before it. -/
theorem shownFrom_append_reset (interruption : Interruption) (passage : Passage)
    (xs ys : List Char) :
    shownFrom interruption passage (xs ++ esc :: '[' :: '0' :: 'm' :: ys) =
      shownFrom interruption passage xs ++ shownFrom interruption (.shown .ground) ys := by
  induction xs generalizing passage with
  | nil => cases passage <;> rfl
  | cons x xs ih =>
    cases passage with
    | shown paused =>
      rw [List.cons_append, shownFrom, shownFrom]
      split_ifs
      · exact ih _
      · exact congrArg (x :: ·) (ih _)
      · exact congrArg (x :: ·) (ih _)
    | hidden state =>
      rw [List.cons_append, shownFrom, shownFrom]
      cases state.next x with
      | some after => exact ih _
      | none => exact congrArg (x :: ·) (ih _)

/-- What stands behind a reset is printed by itself. -/
theorem printed_append_reset (s s' : String) :
    printed (s ++ "\x1b[0m" ++ s') = printed s ++ printed s' := by
  have hlist : (s ++ "\x1b[0m" ++ s').toList = s.toList ++ esc :: '[' :: '0' :: 'm' :: s'.toList := by
    rw [String.toList_append, String.toList_append, List.append_assoc]
    rfl
  rw [printed, hlist, shownFrom_append_reset, String.ofList_append]
  rfl

end Text
end DockerMatrix
