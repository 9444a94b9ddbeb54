/-
# Reading the instructions of texts that follow each other

A reader that goes from line to line carries nothing but the text of the instruction that it is in
(`readOn`).  So lines that follow other lines are read from where those have left it
(`instructionsFrom_append`), and where these have left it between two instructions they are read as if
they stood alone.  That is what makes blocks independent of each other: if every block is complete, and
every block but the first begins on a line of its own, the instructions of the blocks one after the
other are those of the single blocks (`instructions_join`).

A block need not end its last line for that: the blank line that the next block begins with does it.
-/

import DockerMatrix.Proofs.Dockerfile.Lines

namespace DockerMatrix
namespace Dockerfile

/-! ## Lines one after the other -/

/-- Reads lines from the text on that an instruction has so far: the instructions that end in these
lines, and the text of the one that does not. -/
def readOn (begun : List Char) : List (List Char) → List (List (List Char)) × List Char
  | [] => ([], begun)
  | line :: rest =>
    if isSkipped line then readOn begun rest
    else match continued? line with
      | some part => readOn (begun ++ part) rest
      | none =>
        let read := readOn [] rest
        (wordsFrom [] (begun ++ line) :: read.1, read.2)

variable {begun line part : List Char} {rest : List (List Char)}

/-- A line that is skipped leaves the reader as it is. -/
theorem readOn_skipped (h : isSkipped line = true) :
    readOn begun (line :: rest) = readOn begun rest := by
  rw [readOn, if_pos h]

/-- A line that goes on in the next one is joined to the text of the instruction. -/
theorem readOn_continued (hs : isSkipped line = false) (hc : continued? line = some part) :
    readOn begun (line :: rest) = readOn (begun ++ part) rest := by
  rw [readOn, hs, if_neg Bool.false_ne_true, hc]

/-- Any other line is joined to it and ends the instruction. -/
theorem readOn_ended (hs : isSkipped line = false) (hc : continued? line = none) :
    readOn begun (line :: rest) =
      (wordsFrom [] (begun ++ line) :: (readOn [] rest).1, (readOn [] rest).2) := by
  rw [readOn, hs, if_neg Bool.false_ne_true, hc]

/-- Without blanks around the backslash, the ends of two lines are one word. -/
example : instructions "RUN a\\\n# c\nb \\\nc" = [["RUN", "ab", "c"]] := by decide +kernel

/-- A line that ends in a word of its own ends the instruction. -/
theorem readOn_word {word : List Char} (hs : isSkipped line = false) (hword : IsWord word) :
    readOn begun ((line ++ ' ' :: word) :: rest) =
      ((wordsFrom [] (begun ++ line) ++ [word]) :: (readOn [] rest).1, (readOn [] rest).2) := by
  have hended : continued? (line ++ ' ' :: word) = none := by
    have hlast := continued?_append_word hword (line ++ [' '])
    rwa [List.append_assoc, List.singleton_append] at hlast
  rw [readOn_ended (isSkipped_append hs _) hended, ← List.append_assoc,
    wordsFrom_append_blank (by decide), wordsFrom_word hword]

/-- A line with a backslash behind it goes on in the next one, without the backslash. -/
theorem readOn_backslash (hs : isSkipped line = false) :
    readOn begun ((line ++ [' ', '\\']) :: rest) = readOn (begun ++ (line ++ [' '])) rest := by
  have hcontinued : continued? (line ++ [' ', '\\']) = some (line ++ [' ']) := by
    have hline := continued?_append_backslash (line ++ [' '])
    rwa [List.append_assoc, List.singleton_append] at hline
  rw [readOn_continued (isSkipped_append hs _) hcontinued]

/-- Lines that are all skipped leave the reader as it is. -/
theorem readOn_of_skipped {lines : List (List Char)} (h : ∀ l ∈ lines, isSkipped l = true) :
    readOn begun lines = ([], begun) := by
  induction lines with
  | nil => rfl
  | cons line rest ih =>
    obtain ⟨hline, hrest⟩ := List.forall_mem_cons.1 h
    rw [readOn_skipped hline, ih hrest]

/-- Lines one after the other are read one after the other, the text of the unfinished instruction
being carried over. -/
theorem readOn_append (begun : List Char) (xs ys : List (List Char)) :
    readOn begun (xs ++ ys) =
      ((readOn begun xs).1 ++ (readOn (readOn begun xs).2 ys).1,
        (readOn (readOn begun xs).2 ys).2) := by
  induction xs generalizing begun with
  | nil => rfl
  | cons line rest ih =>
    rw [List.cons_append, readOn, readOn]
    split_ifs
    · exact ih begun
    · cases continued? line with
      | some part => exact ih _
      | none => simp only [ih [], List.cons_append]

/-- **Lines that follow others** are read from where those have left the reader. -/
theorem instructionsFrom_append (begun : List Char) (xs ys : List (List Char)) :
    instructionsFrom begun (xs ++ ys) =
      (readOn begun xs).1 ++ instructionsFrom (readOn begun xs).2 ys := by
  induction xs generalizing begun with
  | nil => rfl
  | cons line rest ih =>
    rw [List.cons_append, instructionsFrom, readOn]
    split_ifs
    · exact ih begun
    · cases continued? line with
      | some part => exact ih _
      | none => simp only [ih [], List.cons_append]

/-- Lines in which every instruction ends have the instructions that end in them. -/
theorem instructionsFrom_eq {lines : List (List Char)} (h : (readOn begun lines).2 = []) :
    instructionsFrom begun lines = (readOn begun lines).1 := by
  have hend := instructionsFrom_append begun lines []
  rw [List.append_nil, h] at hend
  rw [hend]
  exact List.append_nil _

/-- A blank line changes nothing, wherever it stands. -/
theorem instructionsFrom_blank (begun : List Char) (lines : List (List Char)) :
    instructionsFrom begun ([] :: lines) = instructionsFrom begun lines :=
  rfl

/-! ## Texts one after the other -/

/-- What is read of a text: its instructions, and the text of one that is not finished. -/
def read (text : String) : List (List (List Char)) × List Char :=
  readOn [] (linesFrom [] text.toList)

/-- All instructions of the text end in it: a backslash at its end continues none. -/
def IsComplete (text : String) : Prop :=
  (read text).2 = []

/-- The text begins on a line of its own: its first line is blank. -/
def BeginsBlank (text : String) : Prop :=
  text.toList.head? = some '\n'

/-- Ended lines whose first one is empty begin on a line of their own. -/
theorem beginsBlank_ofLines (lines : List String) : BeginsBlank (ofLines ("" :: lines)) := by
  rw [BeginsBlank, toList_ofLines_cons]
  rfl

/-- What follows a text does not change how it begins. -/
theorem BeginsBlank.append {text : String} (h : BeginsBlank text) (next : String) :
    BeginsBlank (text ++ next) := by
  rw [BeginsBlank, String.toList_append, List.head?_append, h]
  rfl

/-- The instructions of a complete text are those that end in it. -/
theorem IsComplete.instructions_eq {text : String} (h : IsComplete text) :
    instructions text = (read text).1.map fun words => words.map String.ofList := by
  rw [instructions, instructionsFrom_eq h, read]

/-- The text is complete, and these are its instructions. -/
def Reads (text : String) (instructions : List (List String)) : Prop :=
  read text = (instructions.map fun words => words.map String.toList, [])

/-- A text that is read as instructions is complete. -/
theorem Reads.isComplete {text : String} {is : List (List String)} (h : Reads text is) :
    IsComplete text :=
  congrArg Prod.snd h

/-- A text that is read as instructions has these. -/
theorem Reads.instructions_eq {text : String} {is : List (List String)} (h : Reads text is) :
    instructions text = is := by
  rw [h.isComplete.instructions_eq, h, List.map_map]
  simp [Function.comp_def]

/-- Behind a complete text lines are read alone. -/
theorem IsComplete.instructionsFrom_append {text : String} (h : IsComplete text)
    (lines : List (List Char)) :
    instructionsFrom [] (linesFrom [] text.toList ++ lines) =
      instructionsFrom [] (linesFrom [] text.toList) ++ instructionsFrom [] lines := by
  have hclosed : (readOn [] (linesFrom [] text.toList)).2 = [] := h
  rw [Dockerfile.instructionsFrom_append, instructionsFrom_eq hclosed, hclosed]

/-- **A text that begins with a blank line is read alone**, if the text before it is complete. -/
theorem instructions_append {text next : String} (h : IsComplete text) (hnext : BeginsBlank next) :
    instructions (text ++ next) = instructions text ++ instructions next := by
  obtain ⟨ys, hys⟩ : ∃ ys, next.toList = '\n' :: ys :=
    ⟨next.toList.tail, List.eq_cons_of_mem_head? hnext⟩
  have hread : instructionsFrom [] (linesFrom [] (text.toList ++ '\n' :: ys)) =
      instructionsFrom [] (linesFrom [] text.toList) ++ instructionsFrom [] (linesFrom [] ys) := by
    rcases linesFrom_append_newline_cases [] text.toList ys with hl | hl
    · rw [hl, h.instructionsFrom_append]
    · rw [hl, h.instructionsFrom_append, instructionsFrom_blank]
  have hblank : linesFrom [] ('\n' :: ys) = [] :: linesFrom [] ys := rfl
  rw [instructions, instructions, instructions, String.toList_append, hys, hread, hblank,
    instructionsFrom_blank, List.map_append]

/-- **Blocks one after the other** have the instructions that they have alone, in order. -/
theorem instructions_join {first : String} {blocks : List String} (hfirst : IsComplete first)
    (hblocks : ∀ block ∈ blocks, BeginsBlank block ∧ IsComplete block) :
    instructions (String.join (first :: blocks)) = (first :: blocks).flatMap instructions := by
  induction blocks generalizing first with
  | nil => simp
  | cons next rest ih =>
    obtain ⟨hbegins, hcomplete⟩ := hblocks next List.mem_cons_self
    have hrest := ih hcomplete fun block hb => hblocks block (List.mem_cons_of_mem _ hb)
    have hjoin : BeginsBlank (String.join (next :: rest)) := by
      rw [String.join_cons]
      exact hbegins.append _
    rw [String.join_cons, instructions_append hfirst hjoin, hrest]
    exact List.flatMap_cons.symm

end Dockerfile
end DockerMatrix
