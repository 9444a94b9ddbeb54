/-
# Blank characters, and texts without blanks at their end

Of the ASCII characters that can be seen none is blank (`isBlank_eq_false`).

A trimmed text is the text without the blanks at its end (`exists_eq_trimEnd_append`).  It ends in a
character that is not blank (`isBlank_of_trimEnd_eq`), and where a text does that, nothing is trimmed
(`trimEnd_concat`).
-/

import DockerMatrix.Text.Blank
import Mathlib.Data.List.DropRight

namespace DockerMatrix
namespace Text

variable {c : Char} {cs blanks : List Char}

/-! ## Characters that are not blank -/

/-- A visible ASCII character is not blank. -/
theorem isBlank_eq_false (h : 0x20 < c.toNat) (h' : c.toNat < 0x7F) : isBlank c = false := by
  simp only [isBlank, inRanges, blankRanges, List.any_eq_false, List.mem_cons, List.not_mem_nil,
    or_false]
  rintro r (rfl | rfl | rfl | rfl | rfl | rfl | rfl | rfl | rfl | rfl) <;>
    simp only [Bool.and_eq_true, decide_eq_true_iff] <;> omega

/-- ASCII letters and digits, by number. -/
theorem toNat_of_isAlphanum (h : c.isAlphanum = true) :
    0x30 ≤ c.toNat ∧ c.toNat ≤ 0x7A ∧ c.toNat ≠ 0x5C := by
  have halnum : c.isAlphanum = ((decide (65 ≤ c.val ∧ c.val ≤ 90) ||
      decide (97 ≤ c.val) && decide (c.val ≤ 122)) ||
        decide (48 ≤ c.val) && decide (c.val ≤ 57)) := rfl
  have hval : c.val.toNat = c.toNat := rfl
  simp only [halnum, Bool.or_eq_true, Bool.and_eq_true, decide_eq_true_iff,
    UInt32.le_iff_toNat_le, UInt32.reduceToNat, hval] at h
  omega

/-! ## Trimming -/

/-- A text that begins with a visible character is not trimmed at its start. -/
theorem trimStart_cons (h : isBlank c = false) (rest : List Char) :
    trimStart (c :: rest) = c :: rest :=
  List.dropWhile_cons_of_neg (by simp [h])

/-- A text that ends in a visible character is not trimmed at its end. -/
theorem trimEnd_concat (h : isBlank c = false) (xs : List Char) :
    trimEnd (xs ++ [c]) = xs ++ [c] :=
  List.rdropWhile_concat_neg isBlank xs c (by simp [h])

/-- Blanks behind a text are trimmed with those that it ends in. -/
theorem trimEnd_append_blanks (h : ∀ c ∈ blanks, isBlank c = true) (xs : List Char) :
    trimEnd (xs ++ blanks) = trimEnd xs := by
  rw [trimEnd, trimEnd, List.reverse_append, List.dropWhile_append_of_pos (by simpa using h)]

/-- Trimming takes away blanks only. -/
theorem exists_eq_trimEnd_append (cs : List Char) :
    ∃ blanks, (∀ c ∈ blanks, isBlank c = true) ∧ cs = trimEnd cs ++ blanks :=
  ⟨cs.rtakeWhile isBlank, fun _ hc => List.mem_rtakeWhile_imp hc,
    List.rdropWhile_append_rtakeWhile.symm⟩

/-- A trimmed text does not end in a blank. -/
theorem isBlank_of_trimEnd_eq {init : List Char} (h : trimEnd cs = init ++ [c]) :
    isBlank c = false := by
  have heq : cs.rdropWhile isBlank = init ++ [c] := h
  have hlast := List.rdropWhile_last_not isBlank cs (by simp [heq])
  simpa [heq] using hlast

end Text
end DockerMatrix
