/-
# Text as bytes and back

`decode?` is the inverse of `encode` (`decode?_eq_some_iff`): a byte string is read as a text if and
only if it is the UTF-8 form of that text.  Text that stands behind any bytes, broken ones included,
is shown as it is (`lossy_append_encode`).

A sequence of two, three or four bytes is its first byte and the `tails` of a number, six bits each.
An unfinished sequence fixes the bits above those that it owes and a range for the next six
(`Owed.Fits`), and both directions are inductions on the number of bytes owed: the tails of a number
that fits are read as that number (`units_tails`), and what is read without a broken piece are the
tails of a number that fits (`exists_eq_tails`).
-/

import DockerMatrix.Text.Utf8
import Mathlib.Algebra.Group.Nat.Defs
import Mathlib.Tactic.Common

namespace DockerMatrix
namespace Text

variable {b : UInt8} {o : Owed} {v : Nat}

/-! ## First bytes -/

/-- The table of first bytes, by number. -/
theorem opening_eq (b : UInt8) :
    opening b =
      if b.toNat < 128 then .character (Char.ofNat b.toNat)
      else if b.toNat < 194 then .broken
      else if b.toNat < 224 then .sequence ⟨0x80, 0xBF, 0, b.toNat - 192⟩
      else if b.toNat = 224 then .sequence ⟨0xA0, 0xBF, 1, 0⟩
      else if b.toNat = 237 then .sequence ⟨0x80, 0x9F, 1, 13⟩
      else if b.toNat < 240 then .sequence ⟨0x80, 0xBF, 1, b.toNat - 224⟩
      else if b.toNat = 240 then .sequence ⟨0x90, 0xBF, 2, 0⟩
      else if b.toNat < 244 then .sequence ⟨0x80, 0xBF, 2, b.toNat - 240⟩
      else if b.toNat = 244 then .sequence ⟨0x80, 0x8F, 2, 4⟩
      else .broken := by
  simp only [opening, UInt8.lt_iff_toNat_lt, ← UInt8.toNat_inj]
  rfl

/-- What a sequence owes after its first byte, by the number of that byte. -/
structure Begins (n : Nat) (o : Owed) : Prop where
  low : o.low.toNat = if n = 224 then 160 else if n = 240 then 144 else 128
  high : o.high.toNat = if n = 237 then 159 else if n = 244 then 143 else 191
  further : o.further = if n < 224 then 0 else if n < 240 then 1 else 2
  bits : o.bits = if n < 224 then n - 192 else if n < 240 then n - 224 else n - 240

/-- The bytes from `C2` to `F4` are those that begin a sequence. -/
theorem exists_opening_eq_sequence (h : 194 ≤ b.toNat ∧ b.toNat ≤ 244) :
    ∃ o, opening b = .sequence o ∧ Begins b.toNat o := by
  obtain ⟨hl, hh⟩ := h
  rw [opening_eq, if_neg (by omega), if_neg (by omega)]
  generalize b.toNat = n at *
  split_ifs
  all_goals first | omega | skip
  all_goals refine ⟨_, rfl, ?_, ?_, ?_, ?_⟩ <;> dsimp only <;> split_ifs <;>
    first | omega | rfl

/-- An opening byte is from `C2` to `F4`, and what is owed behind it is as it begins. -/
theorem begins_of_opening (ho : opening b = .sequence o) :
    (194 ≤ b.toNat ∧ b.toNat ≤ 244) ∧ Begins b.toNat o := by
  have hb : 194 ≤ b.toNat ∧ b.toNat ≤ 244 := by
    rw [opening_eq] at ho
    split_ifs at ho <;> omega
  obtain ⟨o', ho', hbegins⟩ := exists_opening_eq_sequence hb
  rw [ho, Opening.sequence.injEq] at ho'
  exact ⟨hb, ho' ▸ hbegins⟩

/-- The next byte of a sequence is from `80` to `BF`. -/
def Owed.Regular (o : Owed) : Prop := 128 ≤ o.low.toNat ∧ o.high.toNat ≤ 191

/-- What a sequence owes behind its opening byte is regular. -/
theorem regular_of_opening (ho : opening b = .sequence o) : o.Regular := by
  obtain ⟨-, hlow, hhigh, -, -⟩ := begins_of_opening ho
  constructor
  · rw [hlow]
    split_ifs <;> omega
  · rw [hhigh]
    split_ifs <;> omega

/-- What a sequence owes behind any further byte is regular. -/
theorem regular_further (n bits : Nat) : (⟨0x80, 0xBF, n, bits⟩ : Owed).Regular :=
  ⟨Nat.le_refl 128, Nat.le_refl 191⟩

/-! ## Units -/

/-- A byte that is a character by itself is read as that character. -/
theorem units_of_character {c : Char} (h : opening b = .character c) (rest : Bytes) :
    units none (b :: rest) = some c :: units none rest := by
  rw [units, unitsFrom, h]

/-- An opening byte is read with what it owes. -/
theorem units_of_sequence (h : opening b = .sequence o) (rest : Bytes) :
    units none (b :: rest) = units (some o) rest := by
  rw [units, unitsFrom, h]

/-- What a byte in the range of a sequence leads to. -/
theorem units_of_range (hb : o.low.toNat ≤ b.toNat ∧ b.toNat ≤ o.high.toNat) (rest : Bytes) :
    units (some o) (b :: rest) =
      match o.further with
      | 0 => some (Char.ofNat (o.bits * 64 + (b.toNat - 128))) :: units none rest
      | n + 1 => units (some ⟨0x80, 0xBF, n, o.bits * 64 + (b.toNat - 128)⟩) rest := by
  exact if_pos (show o.low ≤ b ∧ b ≤ o.high from hb)

/-- A byte outside the range breaks the sequence. -/
theorem units_break (hb : ¬(o.low.toNat ≤ b.toNat ∧ b.toNat ≤ o.high.toNat)) (rest : Bytes) :
    units (some o) (b :: rest) = none :: units none (b :: rest) := by
  exact if_neg (show ¬(o.low ≤ b ∧ b ≤ o.high) from hb)

/-! ## Sequences -/

/-- A byte of a sequence that is not the first one: it carries the last six bits of a number. -/
def tail (v : Nat) : UInt8 := UInt8.ofNat (v % 64 + 128)

/-- The bytes of a sequence for a number from one on that is not the first: so many further ones
follow it. -/
def tails (v : Nat) : Nat → Bytes
  | 0 => [tail v]
  | n + 1 => tail (v / 64 ^ (n + 1)) :: tails v n

/-- A further byte holds six bits. -/
theorem toNat_tail (v : Nat) : (tail v).toNat = v % 64 + 128 := by
  rw [tail, UInt8.toNat_ofNat']
  omega

/-- A byte with the six bits of a number is its further byte. -/
theorem eq_tail (hl : 128 ≤ b.toNat) (hv : v % 64 = b.toNat - 128) : b = tail v := by
  rw [← UInt8.toNat_inj, toNat_tail]
  omega

/-- A number has the bits that have been read, and its next byte is in the range. -/
structure Owed.Fits (o : Owed) (v : Nat) : Prop where
  bits : o.bits = v / 64 ^ (o.further + 1)
  low : o.low.toNat ≤ v / 64 ^ o.further % 64 + 128
  high : v / 64 ^ o.further % 64 + 128 ≤ o.high.toNat

/-- The upper bits of a number fit what is still owed. -/
theorem fits_further (v n : Nat) : (⟨0x80, 0xBF, n, v / 64 ^ (n + 1)⟩ : Owed).Fits v where
  bits := rfl
  low := Nat.le_add_left ..
  high := by
    have : v / 64 ^ n % 64 < 64 := Nat.mod_lt _ (by omega)
    show v / 64 ^ n % 64 + 128 ≤ 191
    omega

/-- The bits read so far and the next six are the bits read then. -/
theorem div_mul_add_mod (v n : Nat) :
    v / 64 ^ (n + 1) * 64 + v / 64 ^ n % 64 = v / 64 ^ n := by
  rw [Nat.pow_succ, ← Nat.div_div_eq_div_mul]
  omega

/-- **The tails of a number that fits are read as that number.** -/
theorem units_tails (h : o.Fits v) (rest : Bytes) :
    units (some o) (tails v o.further ++ rest) = some (Char.ofNat v) :: units none rest := by
  obtain ⟨low, high, further, bits⟩ := o
  obtain ⟨hb, hl, hh⟩ := h
  dsimp only at hb hl hh ⊢
  induction further generalizing low high bits with
  | zero =>
    have hm := div_mul_add_mod v 0
    rw [Nat.pow_zero, Nat.div_one] at hl hh hm
    rw [tails, List.singleton_append, units_of_range (by rw [toNat_tail]; exact ⟨hl, hh⟩)]
    dsimp only
    rw [toNat_tail, Nat.add_sub_cancel, hb, hm]
  | succ n ih =>
    have hf := fits_further v n
    rw [tails, List.cons_append, units_of_range (by rw [toNat_tail]; exact ⟨hl, hh⟩)]
    dsimp only
    rw [toNat_tail, Nat.add_sub_cancel, hb, div_mul_add_mod v (n + 1)]
    exact ih _ _ _ hf.bits hf.low hf.high

/-- A sequence that is no broken piece goes on with a byte in the range. -/
theorem exists_next {bytes : Bytes} (h : none ∉ units (some o) bytes) :
    ∃ b rest, bytes = b :: rest ∧ o.low.toNat ≤ b.toNat ∧ b.toNat ≤ o.high.toNat := by
  cases bytes with
  | nil => exact absurd (List.mem_singleton_self _) h
  | cons b rest =>
    refine ⟨b, rest, rfl, ?_⟩
    by_contra hb
    rw [units_break hb] at h
    exact h (List.mem_cons_self ..)

/-- **A sequence that is no broken piece goes on with the tails of a number that fits.** -/
theorem exists_eq_tails {bytes : Bytes} (hr : o.Regular) (h : none ∉ units (some o) bytes) :
    ∃ v rest, o.Fits v ∧ bytes = tails v o.further ++ rest := by
  obtain ⟨low, high, further, bits⟩ := o
  obtain ⟨hl, hh⟩ := hr
  dsimp only at hl hh ⊢
  induction further generalizing low high bits bytes with
  | zero =>
    obtain ⟨b, rest, rfl, hbl, hbh⟩ := exists_next h
    dsimp only at hbl hbh
    refine ⟨bits * 64 + (b.toNat - 128), rest, ⟨?_, ?_, ?_⟩, ?_⟩
    · show bits = (bits * 64 + (b.toNat - 128)) / 64
      omega
    · show low.toNat ≤ (bits * 64 + (b.toNat - 128)) / 1 % 64 + 128
      omega
    · show (bits * 64 + (b.toNat - 128)) / 1 % 64 + 128 ≤ high.toNat
      omega
    · rw [tails, ← eq_tail (b := b) (by omega) (by omega)]
      rfl
  | succ n ih =>
    obtain ⟨b, rest, rfl, hbl, hbh⟩ := exists_next h
    rw [units_of_range ⟨hbl, hbh⟩] at h
    dsimp only at hbl hbh h
    obtain ⟨v, rest', ⟨hbits, -, -⟩, rfl⟩ := ih 0x80 0xBF _ h (Nat.le_refl 128) (Nat.le_refl 191)
    have hm := div_mul_add_mod v (n + 1)
    have hlt : v / 64 ^ (n + 1) % 64 < 64 := Nat.mod_lt _ (by omega)
    dsimp only at hbits
    refine ⟨v, rest', ⟨?_, ?_, ?_⟩, ?_⟩
    · show bits = v / 64 ^ (n + 1 + 1)
      omega
    · show low.toNat ≤ v / 64 ^ (n + 1) % 64 + 128
      omega
    · show v / 64 ^ (n + 1) % 64 + 128 ≤ high.toNat
      omega
    · rw [tails, ← eq_tail (b := b) (by omega) (by omega)]
      rfl

/-! ## Characters -/

/-- A scalar value is the value of its character. -/
theorem toNat_ofNat (h : v < 55296 ∨ 57343 < v ∧ v < 1114112) : (Char.ofNat v).toNat = v := by
  rw [Char.ofNat, dif_pos h]
  rfl

/-- The UTF-8 form of a character, by its number. -/
theorem utf8EncodeChar_eq (c : Char) :
    String.utf8EncodeChar c =
      if c.toNat < 128 then [UInt8.ofNat c.toNat]
      else if c.toNat < 2048 then UInt8.ofNat (c.toNat / 64 + 192) :: tails c.toNat 0
      else if c.toNat < 65536 then UInt8.ofNat (c.toNat / 4096 + 224) :: tails c.toNat 1
      else UInt8.ofNat (c.toNat / 262144 + 240) :: tails c.toNat 2 := by
  have hv : c.toNat < 55296 ∨ 57343 < c.toNat ∧ c.toNat < 1114112 := c.valid
  have htn : c.val.toNat = c.toNat := rfl
  unfold String.utf8EncodeChar
  simp only [htn, tail, tails]
  generalize c.toNat = v at *
  split_ifs
  all_goals first | omega | rfl | skip
  all_goals
    congr 3
    omega

/-- A character that is one byte is encoded as this byte. -/
theorem encode_of_character {c : Char} (hc : opening b = .character c) :
    String.utf8EncodeChar c = [b] := by
  rw [opening_eq] at hc
  split_ifs at hc with hb
  cases hc
  rw [utf8EncodeChar_eq, toNat_ofNat (Or.inl (by omega)), if_pos hb, UInt8.ofNat_toNat]

/-- A number that fits a sequence is that of a character, and the sequence is its UTF-8 form. -/
theorem encode_of_fits (ho : opening b = .sequence o) (hf : o.Fits v) :
    String.utf8EncodeChar (Char.ofNat v) = b :: tails v o.further := by
  obtain ⟨hb, hl, hh⟩ := hf
  obtain ⟨hrange, hlow, hhigh, hfurther, hbits⟩ := begins_of_opening ho
  have hfirst : ∀ n, n = b.toNat → UInt8.ofNat n = b := by
    rintro n rfl
    exact UInt8.ofNat_toNat
  -- One case for each number of bytes that the first one owes.
  by_cases h₁ : b.toNat < 224
  · rw [if_pos h₁] at hfurther hbits
    rw [hfurther] at hb hl hh ⊢
    rw [hbits] at hb
    rw [utf8EncodeChar_eq, toNat_ofNat (by omega), if_neg (by omega), if_pos (by omega),
      hfirst _ (by omega)]
  by_cases h₂ : b.toNat < 240
  · rw [if_neg h₁, if_pos h₂] at hfurther hbits
    rw [hfurther] at hb hl hh ⊢
    rw [hbits] at hb
    have hleast : b.toNat = 224 → o.low.toNat = 160 := fun h => by rw [hlow, if_pos h]
    have hmost : b.toNat = 237 → o.high.toNat = 159 := fun h => by rw [hhigh, if_pos h]
    rw [utf8EncodeChar_eq, toNat_ofNat (by omega), if_neg (by omega), if_neg (by omega),
      if_pos (by omega), hfirst _ (by omega)]
  · rw [if_neg h₁, if_neg h₂] at hfurther hbits
    rw [hfurther] at hb hl hh ⊢
    rw [hbits] at hb
    have hleast : b.toNat = 240 → o.low.toNat = 144 := fun h => by
      rw [hlow, if_neg (by omega), if_pos h]
    have hmost : b.toNat = 244 → o.high.toNat = 143 := fun h => by
      rw [hhigh, if_neg (by omega), if_pos h]
    rw [utf8EncodeChar_eq, toNat_ofNat (by omega), if_neg (by omega), if_neg (by omega),
      if_neg (by omega), hfirst _ (by omega)]

/-- A character that is not one of ASCII has a first byte, and its number fits what that owes. -/
theorem exists_opening (c : Char) (h : 128 ≤ c.toNat) :
    ∃ b o, opening b = .sequence o ∧ o.Fits c.toNat := by
  have hv : c.toNat < 55296 ∨ 57343 < c.toNat ∧ c.toNat < 1114112 := c.valid
  generalize c.toNat = v at *
  obtain ⟨n, hn, hfirst⟩ : ∃ n, (194 ≤ n ∧ n ≤ 244) ∧
      (n < 224 ∧ v / 64 = n - 192 ∨
        224 ≤ n ∧ n < 240 ∧ 2048 ≤ v ∧ v / 4096 = n - 224 ∨
        240 ≤ n ∧ 65536 ≤ v ∧ v / 262144 = n - 240) := by
    by_cases h₁ : v < 2048
    · exact ⟨v / 64 + 192, by omega, by omega⟩
    by_cases h₂ : v < 65536
    · exact ⟨v / 4096 + 224, by omega, by omega⟩
    · exact ⟨v / 262144 + 240, by omega, by omega⟩
  have hb : (UInt8.ofNat n).toNat = n := by
    rw [UInt8.toNat_ofNat']
    omega
  obtain ⟨o, ho, hlow, hhigh, hfurther, hbits⟩ := exists_opening_eq_sequence (hb.symm ▸ hn)
  rw [hb] at hlow hhigh hfurther hbits
  refine ⟨_, o, ho, ?_, ?_, ?_⟩
  · rw [hbits, hfurther]
    split_ifs <;> simp only [Nat.reduceAdd, Nat.reducePow] <;> omega
  · rw [hlow, hfurther]
    split_ifs <;> simp only [Nat.reducePow] <;> omega
  · rw [hhigh, hfurther]
    split_ifs <;> simp only [Nat.reducePow] <;> omega

/-- Any other character is encoded as an opening byte and the further ones. -/
theorem exists_encode_eq (c : Char) (h : 128 ≤ c.toNat) :
    ∃ b o, opening b = .sequence o ∧ o.Fits c.toNat ∧
      String.utf8EncodeChar c = b :: tails c.toNat o.further := by
  obtain ⟨b, o, ho, hf⟩ := exists_opening c h
  have he := encode_of_fits ho hf
  rw [Char.ofNat_toNat] at he
  exact ⟨b, o, ho, hf, he⟩

/-- **An encoded character is read as that character.** -/
theorem units_encodeChar (c : Char) (rest : Bytes) :
    units none (String.utf8EncodeChar c ++ rest) = some c :: units none rest := by
  by_cases h : c.toNat < 128
  · rw [utf8EncodeChar_eq, if_pos h]
    refine units_of_character ?_ rest
    rw [opening_eq, UInt8.toNat_ofNat', Nat.mod_eq_of_lt (by omega), if_pos h, Char.ofNat_toNat]
  · obtain ⟨b, o, ho, hf, he⟩ := exists_encode_eq c (by omega)
    rw [he, List.cons_append, units_of_sequence ho, units_tails hf, Char.ofNat_toNat]

/-- An ASCII byte stands for a character of its own, and nowhere else. -/
theorem toNat_eq_of_mem_encodeChar {c : Char} (h : b ∈ String.utf8EncodeChar c)
    (hb : b.toNat < 128) : c.toNat = b.toNat := by
  by_cases hc : c.toNat < 128
  · rw [utf8EncodeChar_eq, if_pos hc, List.mem_singleton] at h
    rw [h, UInt8.toNat_ofNat']
    omega
  · obtain ⟨first, o, ho, -, he⟩ := exists_encode_eq c (by omega)
    obtain ⟨hfirst, -⟩ := begins_of_opening ho
    have htails : ∀ n, b ∈ tails c.toNat n → 128 ≤ b.toNat := by
      intro n
      induction n with
      | zero =>
        intro hm
        rw [List.mem_singleton.1 hm, toNat_tail]
        omega
      | succ n ih =>
        intro hm
        rcases List.mem_cons.1 hm with rfl | hm
        · rw [toNat_tail]
          omega
        · exact ih hm
    rw [he] at h
    rcases List.mem_cons.1 h with rfl | h
    · omega
    · have := htails _ h
      omega

/-! ## Texts -/

/-- Texts are encoded one after the other. -/
theorem encode_append (s t : String) : encode (s ++ t) = encode s ++ encode t := by
  rw [encode, String.toList_append, List.flatMap_append]
  rfl

/-- A text is encoded character by character. -/
theorem encode_ofList (cs : List Char) :
    encode (String.ofList cs) = cs.flatMap String.utf8EncodeChar := by
  rw [encode, String.toList_ofList]

/-- The byte of a line feed stands for a line feed only. -/
theorem newline_notMem_encode {s : String} (h : '\n' ∉ s.toList) : 10 ∉ encode s := by
  rw [encode, List.mem_flatMap]
  rintro ⟨c, hc, hb⟩
  have hcode : c.toNat = '\n'.toNat := toNat_eq_of_mem_encodeChar hb (by decide)
  exact h (Char.toNat_inj.1 hcode ▸ hc)

/-- A text that is not empty has bytes. -/
theorem encode_ne_nil {s : String} (h : s.toList ≠ []) : encode s ≠ [] := by
  obtain ⟨c, rest, hc⟩ := List.exists_cons_of_ne_nil h
  have hlen : (String.utf8EncodeChar c).length ≠ 0 := by
    rw [String.length_utf8EncodeChar]
    exact Nat.ne_of_gt c.utf8Size_pos
  intro he
  rw [encode, hc, List.flatMap_cons, List.append_eq_nil_iff] at he
  exact hlen (by rw [he.1]; rfl)

/-- The UTF-8 form of a text is as long as its size says. -/
theorem length_encode (s : String) : (encode s).length = s.utf8ByteSize := by
  rw [String.utf8ByteSize, ← String.utf8Encode_toList, List.utf8Encode, List.size_toByteArray, encode]

/-- The units of a text are its characters. -/
theorem units_encode (s : String) : units none (encode s) = s.toList.map some := by
  unfold encode
  induction s.toList with
  | nil => rfl
  | cons c cs ih => rw [List.flatMap_cons, units_encodeChar, ih, List.map_cons]

/-- Bytes without a broken piece are the UTF-8 form of characters. -/
theorem exists_eq_encode {bytes : Bytes} (h : none ∉ units none bytes) :
    ∃ cs : List Char, bytes = cs.flatMap String.utf8EncodeChar := by
  generalize hn : bytes.length = n
  induction n using Nat.strongRecOn generalizing bytes with
  | ind n ih =>
    cases bytes with
    | nil => exact ⟨[], rfl⟩
    | cons b rest =>
      -- The first unit is a character, and what follows it is shorter.
      obtain ⟨c, rest', he, hlen⟩ : ∃ c rest', b :: rest = String.utf8EncodeChar c ++ rest' ∧
          rest'.length < (b :: rest).length := by
        cases ho : opening b with
        | character c => exact ⟨c, rest, by rw [encode_of_character ho]; rfl, by simp⟩
        | broken =>
          rw [units, unitsFrom, ho] at h
          exact absurd (List.mem_cons_self ..) h
        | sequence o =>
          rw [units_of_sequence ho] at h
          obtain ⟨v, rest', hf, rfl⟩ := exists_eq_tails (regular_of_opening ho) h
          refine ⟨Char.ofNat v, rest', by rw [encode_of_fits ho hf]; rfl, ?_⟩
          rw [List.length_cons, List.length_append]
          omega
      rw [he, units_encodeChar] at h
      obtain ⟨cs, rfl⟩ := ih rest'.length (hn ▸ hlen) (fun hm => h (List.mem_cons_of_mem _ hm)) rfl
      exact ⟨c :: cs, he⟩

/-- **An encoded text is decoded as that text.** -/
theorem decode?_encode (s : String) : decode? (encode s) = some s := by
  simp [decode?, units_encode, List.all_map, List.filterMap_map, Function.comp_def]

/-- Texts with the same bytes are the same. -/
theorem encode_injective : Function.Injective encode := by
  intro s s' h
  have hs := decode?_encode s
  rw [h, decode?_encode] at hs
  exact (Option.some.inj hs).symm

/-- **Bytes are read as a text if and only if they are its UTF-8 form.** -/
theorem decode?_eq_some_iff {bytes : Bytes} {s : String} :
    decode? bytes = some s ↔ bytes = encode s := by
  constructor
  · intro h
    have hn : none ∉ units none bytes := by
      intro hm
      rw [decode?] at h
      split_ifs at h with ha
      exact absurd (List.all_eq_true.1 ha _ hm) Bool.noConfusion
    obtain ⟨cs, rfl⟩ := exists_eq_encode hn
    rw [← encode_ofList, decode?_encode, Option.some.injEq] at h
    rw [← h, encode_ofList]
  · rintro rfl
    exact decode?_encode s

/-! ## Text behind bytes -/

/-- Bytes that begin between two units, whatever stands before them. -/
def Stands (bytes : Bytes) : Prop := ∀ b ∈ bytes.head?, b.toNat < 128 ∨ 191 < b.toNat

/-- A step of reading goes on alike where what comes behind it does. -/
theorem unitsFrom_append {after after' : Option Owed → List (Option Char)}
    {rest : List (Option Char)} (b : UInt8)
    (h : ∀ st, (∀ o ∈ st, o.Regular) → after' st = after st ++ rest) :
    unitsFrom b after' = unitsFrom b after ++ rest := by
  unfold unitsFrom
  cases ho : opening b with
  | character c => exact congrArg (some c :: ·) (h none fun _ => nofun)
  | broken => exact congrArg (none :: ·) (h none fun _ => nofun)
  | sequence o => exact h (some o) fun _ ho' => Option.some.inj ho' ▸ regular_of_opening ho

/-- Bytes that stand by themselves are read apart from those before them. -/
theorem units_append {st : Option Owed} {xs ys : Bytes} (hst : ∀ o ∈ st, o.Regular)
    (hys : Stands ys) : units st (xs ++ ys) = units st xs ++ units none ys := by
  induction xs generalizing st with
  | nil =>
    cases st with
    | none => rw [units, List.nil_append, List.nil_append]
    | some o =>
      cases ys with
      | nil => simp [units]
      | cons b rest =>
        obtain ⟨hl, hh⟩ := hst o rfl
        have hb := hys b rfl
        rw [List.nil_append, units_break (by omega), units]
        rfl
  | cons b xs ih =>
    cases st with
    | none => exact unitsFrom_append b fun _ => ih
    | some o =>
      by_cases hb : o.low.toNat ≤ b.toNat ∧ b.toNat ≤ o.high.toNat
      · rw [List.cons_append, units_of_range hb, units_of_range hb]
        cases o.further with
        | zero =>
          dsimp only
          rw [@ih none fun _ => nofun, List.cons_append]
        | succ n =>
          have hr := regular_further n (o.bits * 64 + (b.toNat - 128))
          refine ih ?_
          rintro _ ⟨⟩
          exact hr
      · rw [List.cons_append, units_break hb, units_break hb]
        exact congrArg (none :: ·) (unitsFrom_append b fun _ => ih)

/-- The bytes of a text stand by themselves. -/
theorem stands_encode (s : String) : Stands (encode s) := by
  unfold encode
  cases s.toList with
  | nil => exact fun _ => nofun
  | cons c cs =>
    intro b hb
    rw [List.flatMap_cons] at hb
    by_cases h : c.toNat < 128
    · rw [utf8EncodeChar_eq, if_pos h] at hb
      cases hb
      rw [UInt8.toNat_ofNat']
      omega
    · obtain ⟨b', o, ho, -, he⟩ := exists_encode_eq c (by omega)
      rw [he] at hb
      cases hb
      obtain ⟨hrange, -⟩ := begins_of_opening ho
      omega

/-- **Text behind any bytes is shown as it is.** -/
theorem lossy_append_encode (bytes : Bytes) (s : String) :
    lossy (bytes ++ encode s) = lossy bytes ++ s := by
  rw [lossy, @units_append none _ _ (fun _ => nofun) (stands_encode s), units_encode, lossy]
  simp [String.ofList_append, Function.comp_def]

end Text
end DockerMatrix
