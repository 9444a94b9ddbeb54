/-
# Runs in trees that differ in the contents of files

What a run says, notes and fails with does not depend on what files hold, and neither does what it
does to the tree (`execute_agrees`).
-/

import DockerMatrix.Generation.Run
import DockerMatrix.Proofs.FileTree.Shape

namespace DockerMatrix
namespace Generation

open FileTree

variable {here : Location} {t t' : FileTree}

/-- Two outcomes, each from a tree of its own, that are the same but for what was there before. -/
structure SameOutcome (t t' : FileTree) (o o' : Outcome) : Prop where
  messages : o.messages = o'.messages
  events : o.events = o'.events
  failure : o.failure = o'.failure
  changes : SameChanges t t' o.tree o'.tree

/-- **The same steps have the same outcome in trees of the same shape.** -/
theorem execute_agrees (h : t.SameShape t') (steps : List Step) :
    SameOutcome t t' (execute here t steps) (execute here t' steps) := by
  induction steps generalizing t t' with
  | nil => exact ⟨rfl, rfl, rfl, SameChanges.refl t t'⟩
  | cons step rest ih =>
    cases step with
    | say m =>
      obtain ⟨hmessages, hevents, hfailure, hchanges⟩ := ih h
      exact ⟨congrArg (m :: ·) hmessages, hevents, hfailure, hchanges⟩
    | note e =>
      obtain ⟨hmessages, hevents, hfailure, hchanges⟩ := ih h
      exact ⟨hmessages, congrArg (e :: ·) hevents, hfailure, hchanges⟩
    | store a directory =>
      rcases h.write_agrees here (a.destination directory) a.bytes with
        ⟨e, he, he'⟩ | ⟨u, u', hu, hu', hfirst⟩
      · rw [execute, execute, Artifact.store, Artifact.store, he, he']
        exact ⟨rfl, rfl, rfl, SameChanges.refl t t'⟩
      · rw [execute, execute, Artifact.store, Artifact.store, hu, hu']
        obtain ⟨hmessages, hevents, hfailure, hchanges⟩ := ih (h.of_changes hfirst)
        exact ⟨hmessages, congrArg (a.stored directory :: ·) hevents, hfailure,
          hfirst.trans hchanges⟩
    | refuse e => exact ⟨rfl, rfl, rfl, SameChanges.refl t t'⟩

end Generation
end DockerMatrix
