/-
# The course of a run

A run takes one of four courses (`run_course`): it is refused because the version is not registered;
it is dry, and prints every Dockerfile; it stores every Dockerfile; or it stores those of some first
targets and fails at the next one.  For each of them `Course` gives the whole outcome: the tree, the
messages, the events and the failure.

| course | tree | messages after the banner | failure |
| --- | --- | --- | --- |
| refused | as it was | | the version |
| printed | as it was | for each target its turn, the path and the Dockerfile; the end | |
| stored | all stored | for each target its turn and the path; the end | |
| broken | the first ones stored | for each of them, and for the next one, its turn and the path | that of the next one |

Where no version is registered, a warning stands in the place of the targets.
-/

import DockerMatrix.Generation.Run
import DockerMatrix.Proofs.Generation.Storage

namespace DockerMatrix
namespace Generation

open Log (Event)
open Status (Message)

variable {here : Location} {tree tree' : FileTree} {r : Request} {targets : List Target}

/-- What a dry run says for a target. -/
def printing (r : Request) (t : Target) : List Message :=
  [turn t, wouldStoreAt t.artifact r.directory, ⟨.plain, t.artifact.contents⟩]

/-- What a run that stores says for a target. -/
def announcing (r : Request) (t : Target) : List Message :=
  [turn t, storingAt t.artifact r.directory]

/-- What a run that stores notes for a target that it has stored. -/
def noting (r : Request) (t : Target) : List Event :=
  [t.artifact.composed, t.artifact.stored r.directory]

/-- What a run says before the first target. -/
def opening (r : Request) (targets : List Target) : List Message :=
  banner r.hardware :: if targets.isEmpty then [nothingRegistered r.os] else []

/-- The outcomes that a request can have. -/
inductive Course (here : Location) (tree : FileTree) (r : Request) : Outcome → Prop
  /-- The version is not registered. -/
  | refused (e : UnregisteredVersion) (ht : r.targets = .error e) :
      Course here tree r ⟨tree, [banner r.hardware], [r.started], some (.unregistered e)⟩
  /-- The run is dry. -/
  | printed (targets : List Target) (ht : r.targets = .ok targets) (hdry : r.dryRun = true) :
      Course here tree r
        ⟨tree, opening r targets ++ targets.flatMap (printing r) ++ [complete],
          r.started :: targets.map fun t => t.artifact.composed, none⟩
  /-- Every Dockerfile is stored. -/
  | stored (targets : List Target) (tree' : FileTree) (ht : r.targets = .ok targets)
      (hdry : r.dryRun = false) (hs : storeAll here r.directory tree targets = .ok tree') :
      Course here tree r
        ⟨tree', opening r targets ++ targets.flatMap (announcing r) ++ [complete],
          r.started :: targets.flatMap (noting r), none⟩
  /-- The Dockerfile of a target cannot be stored. -/
  | broken (before : List Target) (target : Target) (after : List Target) (tree' : FileTree)
      (e : StorageError) (ht : r.targets = .ok (before ++ target :: after))
      (hdry : r.dryRun = false) (hs : storeAll here r.directory tree before = .ok tree')
      (he : target.artifact.store tree' here r.directory = .error e) :
      Course here tree r
        ⟨tree', banner r.hardware :: (before ++ [target]).flatMap (announcing r),
          r.started :: (before.flatMap (noting r) ++ [target.artifact.composed]),
          some (.storage target e)⟩

/-- An outcome that messages and events come before. -/
def Outcome.behind (messages : List Message) (events : List Event) (o : Outcome) : Outcome :=
  { o with messages := messages ++ o.messages, events := events ++ o.events }

/-- The steps of the targets of a dry run, and those after them. -/
theorem execute_dry (hdry : r.dryRun = true) (after : List Step) :
    execute here tree (targets.flatMap (targetSteps r) ++ after) =
      (execute here tree after).behind (targets.flatMap (printing r))
        (targets.map fun t => t.artifact.composed) := by
  induction targets with
  | nil => rfl
  | cons target rest ih =>
    simp only [List.flatMap_cons, targetSteps, hdry, if_true, List.cons_append, List.nil_append,
      execute, ih]
    rfl

/-- The steps of targets whose Dockerfiles are stored, and those after them. -/
theorem execute_stored (hdry : r.dryRun = false)
    (hs : storeAll here r.directory tree targets = .ok tree') (after : List Step) :
    execute here tree (targets.flatMap (targetSteps r) ++ after) =
      (execute here tree' after).behind (targets.flatMap (announcing r))
        (targets.flatMap (noting r)) := by
  induction targets generalizing tree with
  | nil =>
    rw [storeAll, Except.ok.injEq] at hs
    rw [hs]
    rfl
  | cons target rest ih =>
    obtain ⟨t₁, h₁, hs⟩ := storeAll_cons_eq_ok_iff.1 hs
    simp only [List.flatMap_cons, targetSteps, hdry, Bool.false_eq_true, if_false,
      List.cons_append, List.nil_append, execute, h₁, ih hs]
    rfl

/-- The steps of a target whose Dockerfile cannot be stored, whatever comes after them. -/
theorem execute_broken (hdry : r.dryRun = false) {target : Target} {e : StorageError}
    (he : target.artifact.store tree here r.directory = .error e) (after : List Step) :
    execute here tree (targetSteps r target ++ after) =
      ⟨tree, announcing r target, [target.artifact.composed], some (.storage target e)⟩ := by
  simp only [targetSteps, hdry, Bool.false_eq_true, if_false, List.cons_append, List.nil_append,
    execute, he]
  rfl

/-- The beginning of a run whose version, if it has one, is registered. -/
theorem run_of_targets (ht : r.targets = .ok targets) :
    run here tree r =
      (execute here tree (targets.flatMap (targetSteps r) ++ [.say complete])).behind
        (opening r targets) [r.started] := by
  rw [run, plan, ht]
  cases hn : targets.isEmpty <;> simp only [targetsSteps, opening, hn] <;> rfl

/-- The end of a run that has come through all its targets. -/
theorem end_behind (first messages : List Message) (e : Event) (events : List Event) :
    ((execute here tree [.say complete]).behind messages events).behind first [e] =
      ⟨tree, first ++ messages ++ [complete], e :: events, none⟩ := by
  simp [execute, Outcome.saying, Outcome.behind]

/-- The run of a request for a version that is not registered. -/
theorem run_refused {e : UnregisteredVersion} (ht : r.targets = .error e) :
    run here tree r = ⟨tree, [banner r.hardware], [r.started], some (.unregistered e)⟩ := by
  rw [run, plan, ht]
  rfl

/-- A dry run. -/
theorem run_printed (ht : r.targets = .ok targets) (hdry : r.dryRun = true) :
    run here tree r =
      ⟨tree, opening r targets ++ targets.flatMap (printing r) ++ [complete],
        r.started :: targets.map fun t => t.artifact.composed, none⟩ := by
  rw [run_of_targets ht, execute_dry hdry, end_behind]

/-- A run that stores every Dockerfile. -/
theorem run_stored (ht : r.targets = .ok targets) (hdry : r.dryRun = false)
    (hs : storeAll here r.directory tree targets = .ok tree') :
    run here tree r =
      ⟨tree', opening r targets ++ targets.flatMap (announcing r) ++ [complete],
        r.started :: targets.flatMap (noting r), none⟩ := by
  rw [run_of_targets ht, execute_stored hdry hs, end_behind]

/-- A run that cannot store the Dockerfile of a target. -/
theorem run_broken {before after : List Target} {target : Target} {e : StorageError}
    (ht : r.targets = .ok (before ++ target :: after)) (hdry : r.dryRun = false)
    (hs : storeAll here r.directory tree before = .ok tree')
    (he : target.artifact.store tree' here r.directory = .error e) :
    run here tree r =
      ⟨tree', banner r.hardware :: (before ++ [target]).flatMap (announcing r),
        r.started :: (before.flatMap (noting r) ++ [target.artifact.composed]),
        some (.storage target e)⟩ := by
  have ho : opening r (before ++ target :: after) = [banner r.hardware] := by simp [opening]
  rw [run_of_targets ht, ho, List.flatMap_append, List.append_assoc, execute_stored hdry hs,
    List.flatMap_cons, List.append_assoc, execute_broken hdry he]
  simp [Outcome.behind]

/-- **A run takes one of four courses.** -/
theorem run_course (here : Location) (tree : FileTree) (r : Request) :
    Course here tree r (run here tree r) := by
  cases ht : r.targets with
  | error e =>
    rw [run_refused ht]
    exact .refused e ht
  | ok targets =>
    cases hdry : r.dryRun with
    | true =>
      rw [run_printed ht hdry]
      exact .printed targets ht hdry
    | false =>
      rcases storeAll_stops here r.directory tree targets with
        ⟨tree', hs⟩ | ⟨before, target, after, tree', e, rfl, hs, he⟩
      · rw [run_stored ht hdry hs]
        exact .stored targets tree' ht hdry hs
      · rw [run_broken ht hdry hs he]
        exact .broken before target after tree' e ht hdry hs he

end Generation
end DockerMatrix
