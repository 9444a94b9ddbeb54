/-
# Offsets in the text of a directive

The pieces of a directive are cut out of its text at the offsets that its signs have without the
blanks around it.  Where the text begins with no blank, each of these offsets falls between characters
(`Cuts`), and so it does where all characters are ASCII.  So an offset lies inside a
character only if the text begins with a blank and has a character that is not ASCII
(`begins_blank_of_splitCharacter`).  The message about that names the character
(`exists_cutMessage_eq`).
-/

import DockerMatrix.Log.Directive
import Mathlib.Tactic.Common

namespace DockerMatrix

/-! ## Cuts -/

namespace Text

variable {text cs : List Char} {start stop offset : Nat} {c d : Char}

/-- An offset falls between characters. -/
def Cuts (text : List Char) (offset : Nat) : Prop :=
  ∃ xs, xs <+: text ∧ byteSize xs = offset

/-- A text has the bytes of its parts. -/
theorem byteSize_append (xs ys : List Char) : byteSize (xs ++ ys) = byteSize xs + byteSize ys := by
  induction xs with
  | nil => exact (Nat.zero_add _).symm
  | cons c rest ih => rw [List.cons_append, byteSize, byteSize, ih, Nat.add_assoc]

/-- An ASCII text has one byte for each character. -/
theorem byteSize_of_ascii {xs : List Char} (h : ∀ c ∈ xs, c.toNat < 0x80) :
    byteSize xs = xs.length := by
  induction xs with
  | nil => rfl
  | cons c rest ih =>
    have hsize : c.utf8Size = 1 := by
      rw [Char.utf8Size_eq_one_iff, UInt32.le_iff_toNat_le]
      exact Nat.le_of_lt_succ (h c (List.mem_cons_self ..))
    rw [byteSize, hsize, ih fun c' hc => h c' (List.mem_cons_of_mem c hc), List.length_cons,
      Nat.add_comm]

/-- Trimming the end leaves a beginning of the text. -/
theorem trimEnd_prefix (text : List Char) : trimEnd text <+: text := by
  rw [trimEnd, ← List.reverse_suffix, List.reverse_reverse]
  exact List.dropWhile_suffix isBlank

/-- Every text has a cut at its beginning. -/
theorem cuts_zero (text : List Char) : Cuts text 0 := ⟨[], List.nil_prefix, rfl⟩

/-- Of two beginnings of a text, the one that is not larger is a beginning of the other. -/
theorem prefix_of_byteSize_le {xs ys : List Char} (hx : xs <+: text) (hy : ys <+: text)
    (h : byteSize xs ≤ byteSize ys) : xs <+: ys := by
  rcases List.prefix_or_prefix_of_prefix hx hy with hp | ⟨rest, rfl⟩
  · exact hp
  · rw [byteSize_append] at h
    cases rest with
    | nil => exact ⟨[], by rw [List.append_nil, List.append_nil]⟩
    | cons c rest =>
      have hpos := c.utf8Size_pos
      rw [byteSize] at h
      omega

/-- From a cut on, a text has a rest. -/
theorem exists_cutFrom? (h : Cuts text start) : ∃ cs, cutFrom? start text = some cs := by
  obtain ⟨xs, ⟨ys, rfl⟩, rfl⟩ := h
  exact ⟨ys, by rw [cutFrom?, splitAt?_append]; rfl⟩

/-- Between two cuts, a text has a piece. -/
theorem exists_cut? (hs : Cuts text start) (he : Cuts text stop) (hle : start ≤ stop) :
    ∃ cs, cut? start stop text = some cs := by
  obtain ⟨xs, hx, rfl⟩ := hs
  obtain ⟨ys, hy, rfl⟩ := he
  have hp := prefix_of_byteSize_le hx hy hle
  obtain ⟨rest, rfl⟩ := hy
  rw [cut?, splitAt?_append]
  exact exists_cutFrom? ⟨xs, hp, rfl⟩

/-! ## Offsets inside characters -/

/-- A character of a text is its first one, or one of the others, where the bytes of the first one come
before it. -/
theorem exists_eq_append_cons_iff {P : Nat → Prop} :
    (∃ xs ys, d :: cs = xs ++ c :: ys ∧ P (byteSize xs)) ↔
      d = c ∧ P 0 ∨ ∃ xs ys, cs = xs ++ c :: ys ∧ P (d.utf8Size + byteSize xs) := by
  constructor
  · rintro ⟨xs, ys, hcs, hp⟩
    cases xs with
    | nil => exact Or.inl ⟨(List.cons.inj hcs).1, hp⟩
    | cons d' xs =>
      obtain ⟨rfl, rfl⟩ := List.cons.inj hcs
      exact Or.inr ⟨xs, ys, rfl, hp⟩
  · rintro (⟨rfl, hp⟩ | ⟨xs, ys, rfl, hp⟩)
    · exact ⟨[], cs, rfl, hp⟩
    · exact ⟨d :: xs, ys, rfl, hp⟩

/-- **What an offset lies inside of**: the character that begins before it and ends behind it. -/
theorem around?_eq_some_iff {first position : Nat} :
    around? offset first cs = some (c, position) ↔
      ∃ xs ys, cs = xs ++ c :: ys ∧ position = first + byteSize xs ∧ position < offset ∧
        offset < position + c.utf8Size := by
  induction cs generalizing first with
  | nil => simp [around?]
  | cons d rest ih =>
    have hd := d.utf8Size_pos
    rw [around?, exists_eq_append_cons_iff (P := fun n => position = first + n ∧ position < offset ∧
      offset < position + c.utf8Size)]
    split_ifs with hbefore hinside
    · refine iff_of_false nofun ?_
      rintro (⟨-, hposition, hlt, -⟩ | ⟨xs, -, -, hposition, hlt, -⟩) <;> omega
    · constructor
      · rintro ⟨⟩
        exact Or.inl ⟨rfl, rfl, by omega, hinside⟩
      · rintro (⟨rfl, rfl, -⟩ | ⟨xs, -, -, hposition, hlt, -⟩)
        · rfl
        · omega
    · rw [ih, or_iff_right]
      · simp only [Nat.add_assoc]
      · rintro ⟨rfl, rfl, -, hend⟩
        exact hinside hend

/-- A text is cut only between characters. -/
theorem cuts_of_splitAt? {parts : List Char × List Char} (h : splitAt? offset text = some parts) :
    Cuts text offset := by
  fun_induction splitAt? offset text generalizing parts with
  | case1 cs => exact cuts_zero cs
  | case2 => cases h
  | case3 n c rest hsize ih =>
    obtain ⟨parts', hparts', -⟩ := Option.map_eq_some_iff.1 h
    obtain ⟨xs, hxs, hbytes⟩ := ih hparts'
    refine ⟨c :: xs, List.cons_prefix_cons.2 ⟨rfl, hxs⟩, ?_⟩
    rw [byteSize, hbytes]
    omega
  | case4 => cases h

/-- An offset in a text that does not fall between characters lies inside one. -/
theorem exists_around? (hle : offset ≤ byteSize text) (h : ¬Cuts text offset) :
    ∃ c position, around? offset 0 text = some (c, position) := by
  simp only [around?_eq_some_iff]
  induction text generalizing offset with
  | nil =>
    obtain rfl : offset = 0 := Nat.le_zero.1 hle
    exact absurd (cuts_zero []) h
  | cons c rest ih =>
    have hpos : 0 < offset := Nat.pos_of_ne_zero fun hzero => h (hzero ▸ cuts_zero _)
    by_cases hinside : offset < c.utf8Size
    · exact ⟨c, 0, [], rest, rfl, rfl, hpos, by omega⟩
    · have hrest : ¬Cuts rest (offset - c.utf8Size) := by
        rintro ⟨xs, hxs, hbytes⟩
        refine h ⟨c :: xs, List.cons_prefix_cons.2 ⟨rfl, hxs⟩, ?_⟩
        rw [byteSize, hbytes]
        omega
      rw [byteSize] at hle
      obtain ⟨d, position, xs, ys, rfl, hposition, hlt, hend⟩ := ih (by omega) hrest
      refine ⟨d, c.utf8Size + position, c :: xs, ys, rfl, ?_, by omega, by omega⟩
      rw [byteSize]
      omega

/-- **The message about a piece that is not there names a character** that one end of the piece lies
inside. -/
theorem exists_cutMessage_eq (hle : start ≤ stop) (hstop : stop ≤ byteSize text)
    (h : cut? start stop text = none) :
    ∃ name offset c position, (name, offset) ∈ [("start", start), ("end", stop)] ∧
      around? offset 0 text = some (c, position) ∧
      cutMessage start stop text = endMessage name offset text := by
  unfold cutMessage
  by_cases hstart : Cuts text start
  · have hend : ¬Cuts text stop := by
      intro hend
      obtain ⟨cs, hcs⟩ := exists_cut? hstart hend hle
      rw [h] at hcs
      cases hcs
    obtain ⟨c, position, hc⟩ := exists_around? hstop hend
    obtain ⟨cs, hcs⟩ := exists_cutFrom? hstart
    refine ⟨"end", stop, c, position, by simp, hc, if_neg ?_⟩
    obtain ⟨parts, hparts, -⟩ := Option.map_eq_some_iff.1 hcs
    simp [hparts]
  · obtain ⟨c, position, hc⟩ := exists_around? (Nat.le_trans hle hstop) hstart
    refine ⟨"start", start, c, position, by simp, hc, if_pos ?_⟩
    rw [Option.isNone_iff_eq_none]
    by_contra hsome
    obtain ⟨parts, hparts⟩ := Option.ne_none_iff_exists'.1 hsome
    exact hstart (cuts_of_splitAt? hparts)

example : cutMessage 0 2 " é=x".toList =
    "end byte index 2 is not a char boundary; it is inside 'é' (bytes 1..3 of string)" := by
  decide +kernel

end Text

namespace Log
namespace Directive

open Text (Cuts byteSize)

variable {text : List Char} {offset : Nat} {c : Char} {d d' : Directive} {part part' : Part}
  {panic : Panic}

/-- The offset where a part has begun falls between characters, and is not behind the offset that
the reading is at. -/
def Part.BeginsIn (text : List Char) (offset : Nat) : Part → Prop
  | .span begun => Cuts text begun ∧ begun ≤ offset
  | .field begun => Cuts text begun ∧ begun ≤ offset
  | .level begun => Cuts text begun ∧ begun ≤ offset
  | _ => True

/-- A part that goes on has begun before the next offset as well. -/
theorem Part.BeginsIn.mono {offset' : Nat} (h : part.BeginsIn text offset) (hle : offset ≤ offset') :
    part.BeginsIn text offset' := by
  cases part with
  | span begun => exact ⟨h.1, Nat.le_trans h.2 hle⟩
  | field begun => exact ⟨h.1, Nat.le_trans h.2 hle⟩
  | level begun => exact ⟨h.1, Nat.le_trans h.2 hle⟩
  | start => trivial
  | word => trivial
  | fields => trivial
  | closed => trivial

/-- Nothing has been cut inside a character so far, and nothing is going to be at the offset that the
reading is at. -/
def ReadsOn (text : List Char) (offset : Nat) : Except DirectiveError (Directive × Part) → Prop
  | .ok (_, part) => part.BeginsIn text offset
  | .error problem => ∀ panic, problem ≠ .splitCharacter panic

/-- There is a piece between offsets that fall between characters. -/
theorem exists_piece {begun : Nat} (hb : Cuts text begun ∧ begun ≤ offset) (ho : Cuts text offset)
    (line : Nat) : ∃ s, piece line text begun offset = .ok s := by
  obtain ⟨cs, hcs⟩ := Text.exists_cut? hb.1 ho hb.2
  exact ⟨String.ofList cs, by rw [piece, hcs]⟩

/-- Reading a field cuts nothing at an offset. -/
theorem fieldTest_ne_splitCharacter (cs : List Char) (panic : Panic) :
    FieldTest.ofText cs ≠ .error (.splitCharacter panic) := by
  unfold FieldTest.ofText
  dsimp only
  split
  · nofun
  · split <;> nofun

/-- **One character**: if the offsets before and behind it fall between characters, the reading goes on
behind it. -/
theorem readsOn_next (ho : Cuts text offset) (hafter : Cuts text (offset + c.utf8Size))
    (hp : part.BeginsIn text offset) :
    ReadsOn text (offset + c.utf8Size) (d.next text offset c part) := by
  have hgoes := hp.mono (Nat.le_add_right offset c.utf8Size)
  -- A sign has one byte, so what begins behind it begins behind the character.
  have hsign : c.utf8Size = 1 → Cuts text (offset + 1) ∧ offset + 1 ≤ offset + c.utf8Size := by
    intro h
    rw [h] at hafter ⊢
    exact ⟨hafter, Nat.le_refl _⟩
  cases part with
  | start =>
    rw [next]
    by_cases hbracket : c = '['
    · rw [if_pos hbracket]
      exact hsign (by rw [hbracket]; rfl)
    · rw [if_neg hbracket]
      split_ifs
      · trivial
      · exact fun _ => DirectiveError.noConfusion
  | word =>
    obtain ⟨source, hsource⟩ := exists_piece ⟨Text.cuts_zero text, Nat.zero_le offset⟩ ho
      (if c = '=' then 151 else 155)
    rw [next, hsource]
    by_cases hequals : c = '='
    · rw [if_pos (Or.inl hequals), if_pos hequals]
      exact hsign (by rw [hequals]; rfl)
    by_cases hbracket : c = '['
    · rw [if_pos (Or.inr hbracket), if_neg hequals]
      exact hsign (by rw [hbracket]; rfl)
    · rw [if_neg (not_or.2 ⟨hequals, hbracket⟩)]
      exact hgoes
  | span begun =>
    rw [next]
    by_cases hclose : c = ']'
    · obtain ⟨span, hspan⟩ := exists_piece hp ho 174
      rw [if_pos hclose, hspan]
      trivial
    rw [if_neg hclose]
    by_cases hbrace : c = '\x7b'
    · obtain ⟨span, hspan⟩ := exists_piece hp ho 178
      rw [if_pos hbrace, hspan]
      exact hsign (by rw [hbrace]; rfl)
    · rw [if_neg hbrace]
      exact hgoes
  | field begun =>
    obtain ⟨field, hfield⟩ := exists_piece hp ho 186
    rw [next]
    by_cases hclose : c = '\x7d'
    · rw [if_pos hclose, hfield]
      show ReadsOn text _ (if field.isEmpty then _ else _)
      split_ifs
      · exact fun _ => DirectiveError.noConfusion
      · cases htest : FieldTest.ofText field.toList with
        | ok test => trivial
        | error problem => exact fun panic h => fieldTest_ne_splitCharacter _ panic (h ▸ htest)
    · rw [if_neg hclose]
      exact hgoes
  | fields =>
    rw [next]
    split_ifs
    · trivial
    · exact fun _ => DirectiveError.noConfusion
  | closed =>
    rw [next]
    by_cases hequals : c = '='
    · rw [if_pos hequals]
      exact hsign (by rw [hequals]; rfl)
    · rw [if_neg hequals]
      exact fun _ => DirectiveError.noConfusion
  | level begun => exact hgoes

/-- **Characters one after the other**: if all offsets between them fall between characters of the
text, the reading goes on to the end. -/
theorem readsOn_readFrom {cs : List Char}
    (hcuts : ∀ xs, xs <+: cs → Cuts text (offset + byteSize xs)) (hp : part.BeginsIn text offset) :
    ReadsOn text (offset + byteSize cs) (d.readFrom text offset part cs) := by
  induction cs generalizing offset d part with
  | nil => exact hp
  | cons c rest ih =>
    have ho : Cuts text offset := hcuts [] List.nil_prefix
    have hafter : Cuts text (offset + c.utf8Size) := hcuts [c] ⟨rest, rfl⟩
    have hnext := readsOn_next (d := d) ho hafter hp
    rw [readFrom, byteSize, ← Nat.add_assoc]
    cases hr : d.next text offset c part with
    | error problem =>
      rw [hr] at hnext
      exact hnext
    | ok r =>
      obtain ⟨d', part'⟩ := r
      rw [hr] at hnext
      refine ih (fun xs hxs => ?_) hnext
      rw [Nat.add_assoc]
      exact hcuts (c :: xs) (List.cons_prefix_cons.2 ⟨rfl, hxs⟩)

/-- The last piece is cut off where its part has begun. -/
theorem finish_ne_splitCharacter (hp : part.BeginsIn text offset) :
    d.finish text part ≠ .error (.splitCharacter panic) := by
  cases part with
  | word =>
    rw [finish]
    split <;> nofun
  | level begun =>
    obtain ⟨cs, hcs⟩ := Text.exists_cutFrom? hp.1
    rw [finish, hcs]
    cases cs with
    | nil => nofun
    | cons c rest =>
      dsimp only
      split <;> nofun
  | closed => simp [finish]
  | start => simp [finish]
  | span begun => simp [finish]
  | field begun => simp [finish]
  | fields => simp [finish]

/-- A text is not cut inside a character, if the offsets without the blanks around it fall between its
characters. -/
theorem ofText_ne_splitCharacter
    (hcuts : ∀ xs, xs <+: Text.trimEnd (Text.trimStart text) → Cuts text (byteSize xs)) :
    ofText text ≠ .error (.splitCharacter panic) := by
  have hread : ReadsOn text (0 + byteSize (Text.trimEnd (Text.trimStart text)))
      (everything.readFrom text 0 .start (Text.trimEnd (Text.trimStart text))) :=
    readsOn_readFrom (fun xs hxs => by rw [Nat.zero_add]; exact hcuts xs hxs) trivial
  unfold ofText
  cases hr : everything.readFrom text 0 .start (Text.trimEnd (Text.trimStart text)) with
  | error problem =>
    rw [hr] at hread
    exact fun h => hread panic (Except.error.inj h)
  | ok r =>
    obtain ⟨d, part⟩ := r
    rw [hr] at hread
    exact finish_ne_splitCharacter hread

/-- **An offset lies inside a character only behind blanks** that the text begins with, and only in a
text that has a character which is not ASCII. -/
theorem begins_blank_of_splitCharacter (h : ofText text = .error (.splitCharacter panic)) :
    (∃ c rest, text = c :: rest ∧ Text.isBlank c) ∧ ∃ c ∈ text, 0x80 ≤ c.toNat := by
  constructor
  · by_contra hblank
    have hstart : Text.trimStart text = text := by
      cases text with
      | nil => rfl
      | cons c rest => exact List.dropWhile_cons_of_neg fun hc => hblank ⟨c, rest, rfl, hc⟩
    refine ofText_ne_splitCharacter (fun xs hxs => ⟨xs, hxs.trans ?_, rfl⟩) h
    rw [hstart]
    exact Text.trimEnd_prefix text
  · by_contra hlarge
    have hascii : ∀ c ∈ text, c.toNat < 0x80 :=
      fun c hc => Nat.lt_of_not_le fun hle => hlarge ⟨c, hc, hle⟩
    refine ofText_ne_splitCharacter (fun xs hxs => ⟨text.take xs.length, List.take_prefix _ _, ?_⟩) h
    have hsub : xs.Sublist text :=
      (hxs.trans (Text.trimEnd_prefix _)).sublist.trans (List.dropWhile_sublist _)
    rw [Text.byteSize_of_ascii fun c hc => hascii c (List.mem_of_mem_take hc),
      Text.byteSize_of_ascii fun c hc => hascii c (hsub.subset hc), List.length_take,
      Nat.min_eq_left hsub.length_le]

end Directive
end Log
end DockerMatrix
