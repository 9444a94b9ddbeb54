/-
# Painted messages

What messages print on a stream that shows colors and on one that does not is the same without color
sequences (`strip_printed`), whatever their texts are.  A text may hold whole sequences, which are
deleted on both streams, and it may end inside one: the sequence that paint puts behind it, or the
line feed where there is no paint, cannot go on what the text has begun.

A plain message is not painted, so its text is printed as it is (`printed_plain`).
-/

import DockerMatrix.Proofs.Text.Sequences
import DockerMatrix.Status.Message

namespace DockerMatrix

/-! ## Texts one after the other -/

namespace Text

/-- Text is stripped character by character. -/
theorem toList_strip (s : String) : (strip s).toList = stripFrom .text s.toList := by
  rw [strip, String.toList_ofList]

/-- A text that is empty or ends in a line feed. -/
def EndsLine (s : String) : Prop :=
  s = "" ∨ ∃ line, s = line ++ "\n"

/-- A line with its end ends the line. -/
theorem endsLine_newline (line : String) : EndsLine (line ++ "\n") := Or.inr ⟨line, rfl⟩

/-- Two texts that end their lines do so together. -/
theorem EndsLine.append {s s' : String} (h : EndsLine s) (h' : EndsLine s') : EndsLine (s ++ s') := by
  rcases h' with rfl | ⟨line, rfl⟩
  · rwa [String.append_empty]
  · exact Or.inr ⟨s ++ line, String.append_assoc.symm⟩

/-- Texts that each end their lines do so together. -/
theorem endsLine_join {ss : List String} (h : ∀ s ∈ ss, EndsLine s) : EndsLine (String.join ss) := by
  induction ss with
  | nil => exact Or.inl String.join_nil
  | cons s ss ih =>
    rw [String.join_cons]
    exact (h s (List.mem_cons_self ..)).append (ih fun s' hm => h s' (List.mem_cons_of_mem _ hm))

/-- A line feed parts a text: what stands before it and what stands behind it are stripped by
themselves. -/
theorem strip_append_newline (s s' : String) : strip (s ++ "\n" ++ s') = strip s ++ "\n" ++ strip s' := by
  have hbreaks : Breaks '\n' := by decide
  have hlist : ∀ u u' : String, (u ++ "\n" ++ u').toList = u.toList ++ '\n' :: u'.toList := by
    intro u u'
    rw [String.toList_append, String.toList_append, List.append_assoc]
    rfl
  refine String.toList_injective ?_
  rw [hlist, toList_strip, toList_strip, toList_strip, hlist, stripFrom_append_breaks hbreaks]

/-- What stands behind a line is stripped by itself. -/
theorem strip_append {s : String} (h : EndsLine s) (s' : String) :
    strip (s ++ s') = strip s ++ strip s' := by
  have hempty : strip "" = "" := rfl
  rcases h with rfl | ⟨line, rfl⟩
  · rw [hempty, String.empty_append, String.empty_append]
  · have hline := strip_append_newline line ""
    rw [hempty, String.append_empty, String.append_empty] at hline
    rw [strip_append_newline, hline]

end Text

namespace Status

open Text (strip EndsLine)

variable {m : Message} {ms : List Message} {stream : Stream} {colored : Bool}

/-! ## Paint -/

/-- A sequence is the escape character, a bracket, its code and an `m`. -/
theorem toList_sequence_append (code s : String) :
    (sequence code ++ s).toList = Text.esc :: '[' :: (code.toList ++ 'm' :: s.toList) := by
  have hm : "m".toList = ['m'] := rfl
  rw [sequence, String.toList_append, String.toList_append, String.toList_append, hm,
    List.append_assoc, List.append_assoc]
  rfl

/-- A sequence that numbers are in is deleted, and parts what stands before it from what stands behind
it. -/
theorem strip_append_sequence {code : String} (hcode : ∀ c ∈ code.toList, c.isDigit)
    (s s' : String) : strip (s ++ (sequence code ++ s')) = strip s ++ strip s' := by
  refine String.toList_injective ?_
  rw [String.toList_append, Text.toList_strip, Text.toList_strip, Text.toList_strip,
    String.toList_append, toList_sequence_append,
    Text.stripFrom_append_cons Text.not_continues_esc, Text.stripFrom_sequence hcode]

/-- **Paint is deleted**, and nothing of what is painted. -/
theorem strip_paint (color : Color) (line : String) :
    strip (paint color line ++ "\n") = strip (line ++ "\n") := by
  have hcode : ∀ c ∈ color.code.toList, c.isDigit := List.all_eq_true.1 (by cases color <;> decide)
  have hbold : ∀ c ∈ "1".toList, c.isDigit := List.all_eq_true.1 (by decide)
  have hcolor : ∀ c ∈ "39".toList, c.isDigit := List.all_eq_true.1 (by decide)
  have hreset : ∀ c ∈ "0".toList, c.isDigit := List.all_eq_true.1 (by decide)
  calc strip (paint color line ++ "\n")
      = strip ("" ++ (sequence "1" ++ ("" ++ (sequence color.code ++
          (line ++ (sequence "39" ++ ("" ++ (sequence "0" ++ "\n")))))))) := by
        simp only [paint, String.append_assoc, String.empty_append]
    _ = strip "" ++ (strip "" ++ (strip line ++ (strip "" ++ strip "\n"))) := by
        rw [strip_append_sequence hbold, strip_append_sequence hcode, strip_append_sequence hcolor,
          strip_append_sequence hreset]
    _ = strip line ++ "\n" ++ strip "" := by
        have hempty : strip "" = "" := rfl
        have hnewline : strip "\n" = "\n" := rfl
        simp only [hempty, hnewline, String.empty_append, String.append_empty]
    _ = strip (line ++ "\n") := by rw [← Text.strip_append_newline, String.append_empty]

/-! ## Messages -/

/-- A message prints a line on its own stream. -/
theorem Message.exists_on_eq (colored : Bool) (h : m.tone.stream = stream) :
    ∃ line, m.on stream colored = line ++ "\n" := by
  rw [Message.on, if_pos h]
  unfold Message.render
  cases m.tone.color? <;> cases colored <;> exact ⟨_, rfl⟩

/-- A message ends its line. -/
theorem endsLine_on : EndsLine (m.on stream colored) := by
  by_cases h : m.tone.stream = stream
  · exact Or.inr (Message.exists_on_eq colored h)
  · exact Or.inl (if_neg h)

/-- Printed messages end their line. -/
theorem endsLine_printed : EndsLine (printed stream colored ms) := by
  refine Text.endsLine_join fun s hm => ?_
  obtain ⟨m, -, rfl⟩ := List.mem_map.1 hm
  exact endsLine_on

/-- **A colored message is the plain one when it is stripped.** -/
theorem strip_on (m : Message) (stream : Stream) :
    strip (m.on stream true) = strip (m.on stream false) := by
  unfold Message.on Message.render
  split_ifs
  · cases m.tone.color? with
    | none => rfl
    | some color => exact strip_paint color _
  · rfl

/-- **Without color sequences, messages print the same on every stream**, whether it shows colors or
not. -/
theorem strip_printed (stream : Stream) (ms : List Message) :
    strip (printed stream true ms) = strip (printed stream false ms) := by
  induction ms with
  | nil => rfl
  | cons m ms ih =>
    rw [printed_cons, printed_cons, Text.strip_append endsLine_on, Text.strip_append endsLine_on,
      strip_on, ih]

/-- **A plain message is printed as it is**, between what the messages before it and behind it
print. -/
theorem printed_plain (before after : List Message) (text : String) (colored : Bool) :
    printed .output colored (before ++ ⟨.plain, text⟩ :: after) =
      printed .output colored before ++ (text ++ "\n") ++ printed .output colored after := by
  rw [printed_append, printed_cons, Message.on_plain, ← String.append_assoc]

/-- **Only errors print on standard error.** -/
theorem on_error_eq_empty_iff : m.on .error colored = "" ↔ m.tone ≠ .error := by
  constructor
  · rintro h htone
    obtain ⟨line, hline⟩ := Message.exists_on_eq colored (show m.tone.stream = .error by rw [htone]; rfl)
    have hlength := congrArg String.length (hline.symm.trans h)
    rw [String.length_append] at hlength
    exact absurd hlength (by simp)
  · intro htone
    refine if_neg fun h => htone ?_
    revert h
    cases m.tone <;> decide

end Status
end DockerMatrix
