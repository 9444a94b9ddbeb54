/-
# The lines of a text, and the words of a line

Lines and words are both what lies between separators, and a reader of either starts afresh behind one.
So a text with a separator inside is read as its two parts, one after the other
(`linesFrom_append_newline`, `wordsFrom_append_blank`).  A line end at the seam of two texts adds at most
a blank line to the lines of both (`linesFrom_append_newline_cases`).  Blanks behind a text are read as
nothing: they go on with its last line, and then they are lines of their own
(`exists_linesFrom_append_blanks`).
-/

import DockerMatrix.Dockerfile.Block
import DockerMatrix.Dockerfile.Instruction
import DockerMatrix.Proofs.Text.Blank
import Mathlib.Data.List.Basic

namespace DockerMatrix
namespace Dockerfile

/-! ## Lines -/

/-- **A line end splits the lines of a text** into those up to it and those behind it. -/
theorem linesFrom_append_newline (line xs ys : List Char) :
    linesFrom line (xs ++ '\n' :: ys) = linesFrom line (xs ++ ['\n']) ++ linesFrom [] ys := by
  induction xs generalizing line with
  | nil => rfl
  | cons x xs ih =>
    rw [List.cons_append, List.cons_append, linesFrom, linesFrom]
    split_ifs
    · rw [ih, List.cons_append]
    · exact ih _

/-- **A line end between two texts** ends the last line of the first one, or is a blank line where
that has ended before. -/
theorem linesFrom_append_newline_cases (line xs ys : List Char) :
    linesFrom line (xs ++ '\n' :: ys) = linesFrom line xs ++ linesFrom [] ys ∨
      linesFrom line (xs ++ '\n' :: ys) = linesFrom line xs ++ [] :: linesFrom [] ys := by
  induction xs generalizing line with
  | nil =>
    rw [List.nil_append, linesFrom, linesFrom, if_pos rfl]
    cases line with
    | nil => exact Or.inr rfl
    | cons c line => exact Or.inl rfl
  | cons x xs ih =>
    rw [List.cons_append, linesFrom, linesFrom]
    split_ifs
    · rw [List.cons_append, List.cons_append, List.cons_inj_right, List.cons_inj_right]
      exact ih []
    · exact ih _

/-- Characters without a line end go on with the line that has begun. -/
theorem linesFrom_append_of_notMem {xs : List Char} (h : '\n' ∉ xs) (line rest : List Char) :
    linesFrom line (xs ++ rest) = linesFrom (xs.reverse ++ line) rest := by
  induction xs generalizing line with
  | nil => rfl
  | cons x xs ih =>
    rw [List.mem_cons, not_or] at h
    obtain ⟨hx, hxs⟩ := h
    rw [List.cons_append, linesFrom, if_neg (Ne.symm hx), ih hxs, List.reverse_cons,
      List.append_assoc, List.singleton_append]

/-- A line ends at the first line end. -/
theorem linesFrom_ended {xs : List Char} (h : '\n' ∉ xs) (rest : List Char) :
    linesFrom [] (xs ++ '\n' :: rest) = xs :: linesFrom [] rest := by
  rw [linesFrom_append_of_notMem h, linesFrom, if_pos rfl, List.append_nil, List.reverse_reverse]

/-- A text without a line end is one line. -/
theorem linesFrom_unended {xs : List Char} (h : '\n' ∉ xs) (hne : xs ≠ []) :
    linesFrom [] xs = [xs] := by
  have hrest := linesFrom_append_of_notMem h [] []
  rw [List.append_nil, List.append_nil] at hrest
  rw [hrest, linesFrom, if_neg (by simpa using hne), List.reverse_reverse]

/-- The first of ended lines is followed by a line end and the others. -/
theorem toList_ofLines_cons (line : String) (rest : List String) :
    (ofLines (line :: rest)).toList = line.toList ++ '\n' :: (ofLines rest).toList := by
  rw [ofLines, String.toList_append, String.toList_append, List.append_assoc]
  rfl

/-- Ended lines are the lines of their text. -/
theorem linesFrom_ofLines {lines : List String} (h : ∀ line ∈ lines, '\n' ∉ line.toList) :
    linesFrom [] (ofLines lines).toList = lines.map String.toList := by
  induction lines with
  | nil => rfl
  | cons line rest ih =>
    rw [toList_ofLines_cons, linesFrom_ended (h line List.mem_cons_self),
      ih fun l hl => h l (List.mem_cons_of_mem _ hl), List.map_cons]

/-- What follows ended lines begins a line. -/
theorem linesFrom_ofLines_append (lines : List String) (xs : List Char) :
    linesFrom [] ((ofLines lines).toList ++ xs) =
      linesFrom [] (ofLines lines).toList ++ linesFrom [] xs := by
  induction lines with
  | nil => rfl
  | cons line rest ih =>
    rw [toList_ofLines_cons, List.append_assoc, List.cons_append, linesFrom_append_newline, ih,
      ← List.append_assoc, ← linesFrom_append_newline]

/-- A text that does not end its last line is ended lines and that line. -/
theorem exists_eq_append_line {xs : List Char} (hne : xs ≠ []) (hlast : xs.getLast? ≠ some '\n') :
    ∃ start line, xs = start ++ line ∧ line ≠ [] ∧ '\n' ∉ line ∧
      ∀ ys, linesFrom [] (start ++ ys) = linesFrom [] start ++ linesFrom [] ys := by
  by_cases hnewline : '\n' ∈ xs.reverse
  · obtain ⟨line, start, hxs, hline⟩ := List.eq_append_cons_of_mem hnewline
    have hsplit : xs = start.reverse ++ ['\n'] ++ line.reverse := by
      rw [← List.reverse_reverse xs, hxs]
      simp
    refine ⟨start.reverse ++ ['\n'], line.reverse, hsplit, ?_, by simpa using hline, fun ys => ?_⟩
    · intro hnil
      rw [hsplit, hnil] at hlast
      simp at hlast
    · rw [List.append_assoc, List.singleton_append, linesFrom_append_newline]
  · exact ⟨[], xs, rfl, hne, by simpa using hnewline, fun _ => rfl⟩

/-! ## Words -/

/-- What is read as one word, wherever it stands between blanks: it has no blank character, and no
backslash that would continue the line. -/
structure IsWord (word : List Char) : Prop where
  ne_nil : word ≠ []
  plain : ∀ c ∈ word, Text.isBlank c = false ∧ c ≠ '\\'

instance (word : List Char) : Decidable (IsWord word) :=
  decidable_of_iff (word ≠ [] ∧ word.all (fun c => !Text.isBlank c && c != '\\') = true)
    ⟨fun h => ⟨h.1, fun c hc => by simpa using List.all_eq_true.1 h.2 c hc⟩,
      fun h => ⟨h.ne_nil, List.all_eq_true.2 fun c hc => by simpa using h.plain c hc⟩⟩

/-- No line ends inside a word. -/
theorem IsWord.newline_notMem {word : List Char} (h : IsWord word) : '\n' ∉ word := by
  intro hn
  have hblank := (h.plain '\n' hn).1
  exact absurd hblank (by decide)

/-- No line ends where a word is written behind a part of a line. -/
theorem IsWord.newline_notMem_append {line word : List Char} (h : IsWord word) (hline : '\n' ∉ line) :
    '\n' ∉ line ++ word := by
  rw [List.mem_append, not_or]
  exact ⟨hline, h.newline_notMem⟩

/-- Two words without anything between them are one. -/
theorem IsWord.append {word word' : List Char} (h : IsWord word) (h' : IsWord word') :
    IsWord (word ++ word') := by
  refine ⟨List.append_ne_nil_of_left_ne_nil h.ne_nil _, fun c hc => ?_⟩
  rcases List.mem_append.1 hc with hc | hc
  · exact h.plain c hc
  · exact h'.plain c hc

/-- A text that ends in a word is trimmed. -/
theorem IsWord.trimEnd_append {word : List Char} (h : IsWord word) (xs : List Char) :
    Text.trimEnd (xs ++ word) = xs ++ word := by
  obtain ⟨init, c, rfl⟩ := (List.eq_nil_or_concat' word).resolve_left h.ne_nil
  rw [← List.append_assoc, Text.trimEnd_concat (h.plain c (by simp)).1]

/-- **Words at a blank** are those before it and those behind it. -/
theorem wordsFrom_append_blank {b : Char} (hb : Text.isBlank b = true) (word xs ys : List Char) :
    wordsFrom word (xs ++ b :: ys) = wordsFrom word xs ++ wordsFrom [] ys := by
  induction xs generalizing word with
  | nil =>
    rw [List.nil_append, wordsFrom, wordsFrom, if_pos hb]
    split_ifs <;> rfl
  | cons x xs ih =>
    rw [List.cons_append, wordsFrom, wordsFrom]
    split_ifs
    · exact ih []
    · rw [ih, List.cons_append]
    · exact ih _

/-- A stretch without blanks goes on with the word that has begun. -/
theorem wordsFrom_stretch {xs : List Char} (h : ∀ c ∈ xs, Text.isBlank c = false)
    {word : List Char} (hne : word.reverse ++ xs ≠ []) :
    wordsFrom word xs = [word.reverse ++ xs] := by
  induction xs generalizing word with
  | nil =>
    have hword : word ≠ [] := by simpa using hne
    simp [wordsFrom, hword]
  | cons x xs ih =>
    have hx : ¬Text.isBlank x = true := by simp [h x List.mem_cons_self]
    rw [wordsFrom, if_neg hx, ih (fun c hc => h c (List.mem_cons_of_mem _ hc)) (by simp)]
    simp

/-- A word is read as itself. -/
theorem wordsFrom_word {w : List Char} (h : IsWord w) : wordsFrom [] w = [w] :=
  wordsFrom_stretch (fun c hc => (h.plain c hc).1) h.ne_nil

/-! ## What a line says about the next one -/

/-- A line that is not skipped is not skipped when more is written on it. -/
theorem isSkipped_append {xs : List Char} (h : isSkipped xs = false) (ys : List Char) :
    isSkipped (xs ++ ys) = false := by
  have hne : Text.trimStart xs ≠ [] := by
    intro hnil
    simp [isSkipped, hnil] at h
  have htrim : Text.trimStart (xs ++ ys) = Text.trimStart xs ++ ys := by
    rw [Text.trimStart, List.dropWhile_append, if_neg (by simpa [Text.trimStart] using hne)]
    rfl
  obtain ⟨c, rest, hc⟩ := List.exists_cons_of_ne_nil hne
  rw [isSkipped, htrim, hc]
  rwa [isSkipped, hc] at h

/-- Blanks in front do not decide whether a line is skipped. -/
theorem isSkipped_blank_append {xs : List Char} (h : ∀ c ∈ xs, Text.isBlank c = true)
    (ys : List Char) : isSkipped (xs ++ ys) = isSkipped ys := by
  rw [isSkipped, isSkipped, Text.trimStart, Text.trimStart, List.dropWhile_append_of_pos h]

/-- A word that cannot begin a comment is not skipped. -/
theorem isSkipped_word {w : List Char} (h : IsWord w) (hhash : '#' ∉ w) : isSkipped w = false := by
  obtain ⟨c, rest, rfl⟩ := List.exists_cons_of_ne_nil h.ne_nil
  have hblank := (h.plain c List.mem_cons_self).1
  have hc : c ≠ '#' := fun he => hhash (he ▸ List.mem_cons_self)
  simp [isSkipped, Text.trimStart, hblank, hc]

/-- A blank line is skipped. -/
theorem isSkipped_blanks {blanks : List Char} (h : ∀ c ∈ blanks, Text.isBlank c = true) :
    isSkipped blanks = true := by
  have hnone := isSkipped_blank_append h []
  rw [List.append_nil] at hnone
  exact hnone

/-- A line that ends in a backslash goes on in the next one. -/
theorem continued?_append_backslash (xs : List Char) : continued? (xs ++ ['\\']) = some xs := by
  have hblank : Text.isBlank '\\' = false := by decide
  simp [continued?, Text.trimEnd, hblank]

/-- **A line that ends in a word** does not go on in the next one. -/
theorem continued?_append_word {w : List Char} (h : IsWord w) (xs : List Char) :
    continued? (xs ++ w) = none := by
  obtain ⟨init, c, rfl⟩ := (List.eq_nil_or_concat w).resolve_left h.ne_nil
  obtain ⟨hblank, hc⟩ := h.plain c (by simp)
  simp [continued?, Text.trimEnd, hblank, hc]

/-! ## Blanks behind a text -/

variable {blanks : List Char}

/-- Blanks behind a line add no word. -/
theorem wordsFrom_append_blanks (h : ∀ c ∈ blanks, Text.isBlank c = true) (word xs : List Char) :
    wordsFrom word (xs ++ blanks) = wordsFrom word xs := by
  induction blanks generalizing word xs with
  | nil => rw [List.append_nil]
  | cons b rest ih =>
    obtain ⟨hb, hrest⟩ := List.forall_mem_cons.1 h
    rw [wordsFrom_append_blank hb, ← List.nil_append rest, ih hrest]
    exact List.append_nil _

/-- Blanks behind a line do not decide whether it goes on. -/
theorem continued?_append_blanks (h : ∀ c ∈ blanks, Text.isBlank c = true) (xs : List Char) :
    continued? (xs ++ blanks) = continued? xs := by
  rw [continued?, continued?, Text.trimEnd_append_blanks h]

/-- Blanks behind a blank line that has begun are lines that are skipped. -/
theorem isSkipped_of_mem_linesFrom (h : ∀ c ∈ blanks, Text.isBlank c = true) {line : List Char}
    (hl : ∀ c ∈ line, Text.isBlank c = true) : ∀ l ∈ linesFrom line blanks, isSkipped l = true := by
  induction blanks generalizing line with
  | nil =>
    rw [linesFrom]
    split_ifs
    · exact List.forall_mem_nil _
    · exact List.forall_mem_singleton.2 (isSkipped_blanks fun c hc => hl c (List.mem_reverse.1 hc))
  | cons b rest ih =>
    obtain ⟨hb, hrest⟩ := List.forall_mem_cons.1 h
    rw [linesFrom]
    split_ifs
    · exact List.forall_mem_cons.2 ⟨isSkipped_blanks fun c hc => hl c (List.mem_reverse.1 hc),
        ih hrest (List.forall_mem_nil _)⟩
    · exact ih hrest (List.forall_mem_cons.2 ⟨hb, hl⟩)

/-- **Blanks behind a line** go on with it, and then they are lines that are skipped. -/
theorem exists_linesFrom_append_blanks (h : ∀ c ∈ blanks, Text.isBlank c = true) {xs : List Char}
    (hx : '\n' ∉ xs) (hne : xs ≠ []) :
    ∃ behind rest, linesFrom [] (xs ++ blanks) = (xs ++ behind) :: rest ∧
      (∀ c ∈ behind, Text.isBlank c = true) ∧ ∀ line ∈ rest, isSkipped line = true := by
  induction blanks generalizing xs with
  | nil =>
    refine ⟨[], [], ?_, List.forall_mem_nil _, List.forall_mem_nil _⟩
    rw [List.append_nil, linesFrom_unended hx hne]
  | cons b blanks ih =>
    obtain ⟨hblank, hblanks⟩ := List.forall_mem_cons.1 h
    by_cases hb : b = '\n'
    · subst hb
      refine ⟨[], linesFrom [] blanks, ?_, List.forall_mem_nil _, ?_⟩
      · rw [linesFrom_ended hx, List.append_nil]
      · exact isSkipped_of_mem_linesFrom hblanks (List.forall_mem_nil _)
    · obtain ⟨behind, rest, hlines, hbehind, hrest⟩ := @ih hblanks (xs ++ [b])
        (by simp [hx, Ne.symm hb]) (by simp)
      refine ⟨b :: behind, rest, ?_, List.forall_mem_cons.2 ⟨hblank, hbehind⟩, hrest⟩
      rw [← List.append_cons] at hlines
      rw [hlines, ← List.append_cons]

end Dockerfile
end DockerMatrix
