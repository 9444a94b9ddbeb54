/-
# What a quoted text says

A text between quotes is read back as it was, whatever it holds and whatever follows it
(`unquote_quote`).  Each character is written so that the reader is between characters again behind
it (`unquoteFrom_escape`): the escapes of single characters by their second character, a number by
the brace that closes it.  The reader ends at the first quote that is not escaped
(`splitAtQuote?_escapes`), so nothing in the text can end it earlier.

All that is written has a glyph (`isUnprintable_of_mem_quote`), and what has one is neither a control
character nor a separator of lines (`not_disrupts_of_printable`), so that a quoted text never leaves
its line.
-/

import DockerMatrix.Text.Quoted
import Mathlib.Tactic.Common
import Mathlib.Tactic.IntervalCases

namespace DockerMatrix
namespace Text

/-! ## Characters that have no glyph -/

/-- A control character, or one that separates lines or paragraphs: the general categories `Cc`, `Zl`
and `Zp`. -/
def Disrupts (c : Char) : Prop :=
  c.toNat < 0x20 ∨ 0x7F ≤ c.toNat ∧ c.toNat ≤ 0x9F ∨ c.toNat = 0x2028 ∨ c.toNat = 0x2029

/-- A number between the bounds of one of the ranges is in them. -/
theorem inRanges_of_mem {ranges : List (Nat × Nat)} {first last n : Nat}
    (hr : (first, last) ∈ ranges) (hfirst : first ≤ n) (hlast : n ≤ last) :
    inRanges ranges n = true := by
  refine List.any_eq_true.2 ⟨(first, last), hr, ?_⟩
  rw [Bool.and_eq_true, decide_eq_true_iff, decide_eq_true_iff]
  exact ⟨hfirst, hlast⟩

/-- **What has a glyph stays in its line.** -/
theorem not_disrupts_of_printable {c : Char} (hc : isUnprintable c = false) : ¬Disrupts c := by
  have hcontrols : (0x7F, 0xA0) ∈ unprintableRanges := by decide +kernel
  have hseparators : (0x2028, 0x202F) ∈ unprintableRanges := by decide +kernel
  unfold isUnprintable at hc
  split_ifs at hc with hascii
  · rw [decide_eq_false_iff_not] at hc
    unfold Disrupts
    omega
  · intro h
    have hcase : 0x7F ≤ c.toNat ∧ c.toNat ≤ 0xA0 ∨ 0x2028 ≤ c.toNat ∧ c.toNat ≤ 0x202F := by
      unfold Disrupts at h
      omega
    rcases hcase with ⟨h₁, h₂⟩ | ⟨h₁, h₂⟩
    · rw [inRanges_of_mem hcontrols h₁ h₂] at hc
      cases hc
    · rw [inRanges_of_mem hseparators h₁ h₂] at hc
      cases hc

/-! ## Numbers -/

/-- A hexadecimal digit is read as its value. -/
theorem hexValue?_digitChar {d : Nat} (hd : d < 16) : hexValue? d.digitChar = some d := by
  interval_cases d <;> rfl

/-- No hexadecimal digit is a brace. -/
theorem digitChar_ne_brace {d : Nat} (hd : d < 16) : d.digitChar ≠ '\x7d' := by
  interval_cases d <;> decide

/-- A digit has a glyph, and it is neither a quote nor a backslash. -/
theorem digitChar_plain {d : Nat} (hd : d < 16) :
    isUnprintable d.digitChar = false ∧ d.digitChar ≠ '"' ∧ d.digitChar ≠ '\\' := by
  interval_cases d <;> decide

/-- A number's digits are those of its sixteenth part and the last one. -/
theorem hexDigits_eq (n : Nat) :
    hexDigits n = (if n < 16 then [] else hexDigits (n / 16)) ++ [(n % 16).digitChar] := by
  rw [hexDigits, Nat.toDigits_eq_if (by decide)]
  split_ifs with hn
  · rw [Nat.mod_eq_of_lt hn]
    rfl
  · rfl

/-- What a number is written with are hexadecimal digits. -/
theorem exists_of_mem_hexDigits {n : Nat} {c : Char} (hc : c ∈ hexDigits n) :
    ∃ d < 16, c = d.digitChar := by
  induction n using Nat.strongRecOn with
  | ind n ih =>
    rw [hexDigits_eq, List.mem_append, List.mem_singleton] at hc
    rcases hc with hc | hc
    · split_ifs at hc with hn
      · cases hc
      · exact ih (n / 16) (Nat.div_lt_self (by omega) (by decide)) hc
    · exact ⟨n % 16, Nat.mod_lt _ (by decide), hc⟩

/-- Hexadecimal digits are printed as they are. -/
theorem plain_of_mem_hexDigits {n : Nat} {c : Char} (hc : c ∈ hexDigits n) :
    isUnprintable c = false ∧ c ≠ '"' ∧ c ≠ '\\' := by
  obtain ⟨d, hd, rfl⟩ := exists_of_mem_hexDigits hc
  exact digitChar_plain hd

/-- The reader of a digit goes on with the digits behind it. -/
theorem unquoteFrom_digitChar {d : Nat} (hd : d < 16) (n : Nat) (rest : List Char) :
    unquoteFrom (.digits n) (d.digitChar :: rest) = unquoteFrom (.digits (16 * n + d)) rest := by
  rw [unquoteFrom, if_neg (digitChar_ne_brace hd), hexValue?_digitChar hd]

/-- **Digits are read as the number that they are those of.** -/
theorem unquoteFrom_hexDigits (n : Nat) (rest : List Char) :
    unquoteFrom (.digits 0) (hexDigits n ++ rest) = unquoteFrom (.digits n) rest := by
  induction n using Nat.strongRecOn generalizing rest with
  | ind n ih =>
    have hlast : n % 16 < 16 := Nat.mod_lt _ (by decide)
    rw [hexDigits_eq, List.append_assoc, List.singleton_append]
    split_ifs with hn
    · rw [List.nil_append, unquoteFrom_digitChar hlast, Nat.mod_eq_of_lt hn, Nat.mul_zero,
        Nat.zero_add]
    · rw [ih (n / 16) (Nat.div_lt_self (by omega) (by decide)), unquoteFrom_digitChar hlast,
        Nat.div_add_mod]

/-! ## Characters between quotes -/

/-- The ways in which a character is written: behind a backslash by a character that names it, by its
number, or as it is. -/
inductive Written (c : Char) : List Char → Prop
  | named (d : Char) (hd : d ≠ 'u') (hprintable : isUnprintable d = false)
      (hread : ∀ rest, unquoteFrom .escaped (d :: rest) =
        (unquoteFrom .plain rest).map fun r => (c :: r.1, r.2)) :
      Written c ['\\', d]
  | numbered : Written c (numbered c)
  | asItIs (hquote : c ≠ '"') (hslash : c ≠ '\\') (hprintable : isUnprintable c = false) :
      Written c [c]

/-- An escape is written for its character. -/
theorem written_escape (c : Char) : Written c (escape c) := by
  unfold escape
  split_ifs with hself hnul htab hfeed hreturn hunprintable
  · rcases hself with rfl | rfl
    · exact .named _ (by decide) (by decide) fun _ => rfl
    · exact .named _ (by decide) (by decide) fun _ => rfl
  · subst hnul
    exact .named _ (by decide) (by decide) fun _ => rfl
  · subst htab
    exact .named _ (by decide) (by decide) fun _ => rfl
  · subst hfeed
    exact .named _ (by decide) (by decide) fun _ => rfl
  · subst hreturn
    exact .named _ (by decide) (by decide) fun _ => rfl
  · exact .numbered
  · exact .asItIs (fun h => hself (Or.inl h)) (fun h => hself (Or.inr h))
      (Bool.not_eq_true _ ▸ hunprintable)

/-- All that is written for a character has a glyph. -/
theorem isUnprintable_of_mem_escape {c d : Char} (hd : d ∈ escape c) : isUnprintable d = false := by
  have hw := written_escape c
  generalize escape c = written at hw hd
  cases hw with
  | named d' _ hprintable _ =>
    simp only [List.mem_cons, List.not_mem_nil, or_false] at hd
    rcases hd with rfl | rfl
    · decide
    · exact hprintable
  | numbered =>
    simp only [numbered, List.mem_cons, List.mem_append, List.not_mem_nil, or_false] at hd
    rcases hd with rfl | rfl | rfl | hd | rfl
    · decide
    · decide
    · decide
    · exact (plain_of_mem_hexDigits hd).1
    · decide
  | asItIs _ _ hprintable =>
    obtain rfl := List.mem_singleton.1 hd
    exact hprintable

/-- **A character is read back**, and what follows it is read as if nothing had been before. -/
theorem unquoteFrom_escape (c : Char) (rest : List Char) :
    unquoteFrom .plain (escape c ++ rest) =
      (unquoteFrom .plain rest).map fun r => (c :: r.1, r.2) := by
  have hw := written_escape c
  generalize escape c = written at hw
  cases hw with
  | named d _ _ hread => exact hread rest
  | numbered =>
    have hopening : unquoteFrom .plain (numbered c ++ rest) =
        unquoteFrom (.digits 0) (hexDigits c.toNat ++ '\x7d' :: rest) := by
      rw [numbered, List.cons_append, List.cons_append, List.cons_append, List.append_assoc]
      rfl
    rw [hopening, unquoteFrom_hexDigits, unquoteFrom, if_pos rfl, Char.ofNat_toNat]
  | asItIs hquote hslash _ =>
    rw [List.singleton_append, unquoteFrom, if_neg hquote, if_neg hslash]

/-! ## Texts between quotes -/

/-- The characters of a text between its quotes. -/
def escapes (s : String) : List Char :=
  s.toList.flatMap escape

/-- A quoted text is its escapes between two quotes. -/
theorem toList_quote (s : String) : (quote s).toList = '"' :: (escapes s ++ ['"']) := by
  rw [quote, String.toList_ofList]
  rfl

/-- **All that is written for a text has a glyph.** -/
theorem isUnprintable_of_mem_quote {s : String} {c : Char} (hc : c ∈ (quote s).toList) :
    isUnprintable c = false := by
  rw [toList_quote, List.mem_cons, List.mem_append, List.mem_singleton] at hc
  rcases hc with rfl | hc | rfl
  · decide
  · obtain ⟨d, -, hd⟩ := List.mem_flatMap.1 hc
    exact isUnprintable_of_mem_escape hd
  · decide

/-- **Escapes are read back as their characters**, up to the quote that ends them. -/
theorem unquoteFrom_escapes (cs rest : List Char) :
    unquoteFrom .plain (cs.flatMap escape ++ '"' :: rest) = some (cs, rest) := by
  induction cs with
  | nil => rfl
  | cons c cs ih =>
    rw [List.flatMap_cons, List.append_assoc, unquoteFrom_escape, ih]
    rfl

/-- **A text between quotes is read back**, whatever follows it. -/
theorem unquote_quote (s : String) (rest : List Char) :
    unquote ((quote s).toList ++ rest) = some (s, rest) := by
  have hlist : (quote s).toList ++ rest = '"' :: (s.toList.flatMap escape ++ '"' :: rest) := by
    rw [toList_quote, List.cons_append, List.append_assoc]
    rfl
  rw [hlist, unquote, unquoteFrom_escapes, Option.map_some, String.ofList_toList]

/-! ## The closing quote -/

/-- The characters up to the first quote that is not escaped, and those behind it.  A backslash
escapes the character behind it, whichever it is. -/
def splitAtQuote? : List Char → Option (List Char × List Char)
  | [] => none
  | '"' :: rest => some ([], rest)
  | '\\' :: c :: rest => (splitAtQuote? rest).map fun r => ('\\' :: c :: r.1, r.2)
  | c :: rest => (splitAtQuote? rest).map fun r => (c :: r.1, r.2)

/-- A character that is neither a quote nor a backslash is passed over. -/
theorem splitAtQuote?_cons {c : Char} (hquote : c ≠ '"') (hslash : c ≠ '\\') (rest : List Char) :
    splitAtQuote? (c :: rest) = (splitAtQuote? rest).map fun r => (c :: r.1, r.2) := by
  rw [splitAtQuote?]
  · exact hquote
  · rintro d rest' rfl
    exact absurd rfl hslash

/-- Characters other than quotes and backslashes come before the quote. -/
theorem splitAtQuote?_append {cs : List Char} (h : ∀ c ∈ cs, c ≠ '"' ∧ c ≠ '\\')
    (rest : List Char) :
    splitAtQuote? (cs ++ rest) = (splitAtQuote? rest).map fun r => (cs ++ r.1, r.2) := by
  induction cs with
  | nil => simp
  | cons c cs ih =>
    obtain ⟨hquote, hslash⟩ := h c (List.mem_cons_self ..)
    rw [List.cons_append, splitAtQuote?_cons hquote hslash,
      ih fun d hd => h d (List.mem_cons_of_mem _ hd), Option.map_map]
    rfl

/-- What is written for a character is passed over as a whole. -/
theorem splitAtQuote?_escape (c : Char) (rest : List Char) :
    splitAtQuote? (escape c ++ rest) = (splitAtQuote? rest).map fun r => (escape c ++ r.1, r.2) := by
  have hw := written_escape c
  generalize escape c = written at hw
  cases hw with
  | named d _ _ _ => rfl
  | numbered =>
    have hplain : ∀ d ∈ '\x7b' :: (hexDigits c.toNat ++ ['\x7d']), d ≠ '"' ∧ d ≠ '\\' := by
      intro d hd
      rw [List.mem_cons, List.mem_append, List.mem_singleton] at hd
      rcases hd with rfl | hd | rfl
      · decide
      · exact (plain_of_mem_hexDigits hd).2
      · decide
    rw [numbered, List.cons_append, List.cons_append, splitAtQuote?, splitAtQuote?_append hplain,
      Option.map_map]
    rfl
  | asItIs hquote hslash _ => exact splitAtQuote?_cons hquote hslash rest

/-- **The first quote that is not escaped is the one behind the text.** -/
theorem splitAtQuote?_escapes (s : String) (rest : List Char) :
    splitAtQuote? (escapes s ++ '"' :: rest) = some (escapes s, rest) := by
  unfold escapes
  induction s.toList with
  | nil => rfl
  | cons c cs ih =>
    rw [List.flatMap_cons, List.append_assoc, splitAtQuote?_escape, ih]
    rfl

end Text
end DockerMatrix
