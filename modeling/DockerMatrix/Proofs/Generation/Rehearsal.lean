/-
# A dry run rehearses the run that stores

A dry run and the run that stores, for one request and on one tree, are two ways through the same
targets (`run_rehearses`).  The dry one changes nothing, and fails only for a version that is not
registered, as the other one does then.  Otherwise what it says is what the other one says, with the
message about each path replaced by the dry one and the Dockerfile behind it (`rehearsed`): all of it
if the other one succeeds, and the beginning of it if the other one fails.

| run that stores | dry run in its place |
| --- | --- |
| `Storing at: PATH` | `Would store at: PATH`, then the Dockerfile |
| any other message | the same |

The path in both messages is the one that is written to, and the Dockerfile is what is written.
-/

import DockerMatrix.Proofs.Generation.Completion
import DockerMatrix.Proofs.Generation.Result

namespace DockerMatrix

open Text (Bytes)

/-! ## Writing -/

/-- The tree after contents have been written at paths, in order. -/
def FileTree.writeAll (here : Location) : FileTree → List (Path × Bytes) →
    Except StorageError FileTree
  | t, [] => .ok t
  | t, (p, contents) :: rest =>
    match t.write here p contents with
    | .error e => .error e
    | .ok t' => FileTree.writeAll here t' rest

namespace Generation

open Status (Message)

variable {here : Location} {directory : Path} {tree : FileTree} {r : Request}
  {targets : List Target} {target : Target}

/-- Storing the Dockerfiles of targets writes each of them at its path. -/
theorem storeAll_eq_writeAll (here : Location) (directory : Path) (tree : FileTree)
    (targets : List Target) :
    storeAll here directory tree targets = tree.writeAll here (targets.map fun t =>
      (t.artifact.destination directory, Text.encode t.dockerfile)) := by
  induction targets generalizing tree with
  | nil => rfl
  | cons target rest ih =>
    have hs : target.artifact.store tree here directory =
        tree.write here (target.artifact.destination directory) (Text.encode target.dockerfile) :=
      rfl
    rw [storeAll, List.map_cons, FileTree.writeAll, hs]
    cases tree.write here (target.artifact.destination directory)
        (Text.encode target.dockerfile) with
    | error e => rfl
    | ok tree' => exact ih tree'

/-! ## Targets of a request -/

/-- The targets of a request are among those of its operating system and hardware. -/
theorem mem_targets_of_request (ht : r.targets = .ok targets) (hm : target ∈ targets) :
    target ∈ r.os.targets r.hardware := by
  obtain ⟨hos, hhardware⟩ := (Request.targets_spec ht).2 target hm
  rw [← hos, ← hhardware]
  exact target.mem_targets

/-! ## The message about a path -/

/-- What a dry run says in place of a message of a run that stores. -/
def rehearsed (r : Request) (m : Message) : List Message :=
  match (r.os.targets r.hardware).find? fun t => storingAt t.artifact r.directory = m with
  | some t => [wouldStoreAt t.artifact r.directory, ⟨.plain, t.dockerfile⟩]
  | none => [m]

/-- The message about a path says which target it is for. -/
theorem storingAt_injective {t t' : Target}
    (h : storingAt t.artifact directory = storingAt t'.artifact directory) : t = t' := by
  obtain ⟨s, hs⟩ := exists_display_destination directory
  have ht : "Storing at: " ++ (s ++ t.fileName) = "Storing at: " ++ (s ++ t'.fileName) := by
    rw [← hs t, ← hs t']
    exact congrArg Message.text h
  exact Target.fileName_injective (String.append_right_inj _ |>.1 (String.append_right_inj _ |>.1 ht))

/-- The line for storing a target becomes the one for storing it later and the Dockerfile. -/
theorem rehearsed_storingAt (hm : target ∈ r.os.targets r.hardware) :
    rehearsed r (storingAt target.artifact r.directory) =
      [wouldStoreAt target.artifact r.directory, ⟨.plain, target.dockerfile⟩] := by
  unfold rehearsed
  cases hf : (r.os.targets r.hardware).find? fun t =>
      storingAt t.artifact r.directory = storingAt target.artifact r.directory with
  | none =>
    have := List.find?_eq_none.1 hf target hm
    simp at this
  | some t =>
    have := List.find?_some hf
    rw [decide_eq_true_iff] at this
    rw [storingAt_injective this]

/-- Any other message stays as it is. -/
theorem rehearsed_of_ne {m : Message} (h : ∀ t, storingAt t r.directory ≠ m) :
    rehearsed r m = [m] := by
  unfold rehearsed
  rw [List.find?_eq_none.2]
  intro t _
  simpa using h t.artifact

/-- The line for storing a target is not the one that says whose turn it is. -/
theorem storingAt_ne_turn (a : Artifact) (directory : Path) (t : Target) :
    storingAt a directory ≠ turn t := by
  intro h
  have ht := congrArg (fun m => m.text.toList.head?) h
  simp [storingAt, turn] at ht

/-- The line for storing a target is not the banner. -/
theorem storingAt_ne_banner (a : Artifact) (directory : Path) (hardware : Hardware) :
    storingAt a directory ≠ banner hardware := by
  intro h
  have ht := congrArg (fun m => m.text.toList.head?) h
  cases hardware <;> simp [storingAt, banner] at ht

/-- The banner is rehearsed as it is. -/
theorem rehearsed_banner : rehearsed r (banner r.hardware) = [banner r.hardware] :=
  rehearsed_of_ne fun a => storingAt_ne_banner a _ _

/-- The messages before the first target are rehearsed as they are. -/
theorem flatMap_rehearsed_opening :
    (opening r targets).flatMap (rehearsed r) = opening r targets := by
  have hn : rehearsed r (nothingRegistered r.os) = [nothingRegistered r.os] :=
    rehearsed_of_ne fun _ h => by cases congrArg Message.tone h
  unfold opening
  split_ifs <;> simp [rehearsed_banner, hn]

/-- **What a dry run says for targets** is what a run that stores says, with the messages about the
paths replaced. -/
theorem flatMap_rehearsed_announcing (h : ∀ t ∈ targets, t ∈ r.os.targets r.hardware) :
    (targets.flatMap (announcing r)).flatMap (rehearsed r) = targets.flatMap (printing r) := by
  induction targets with
  | nil => rfl
  | cons t rest ih =>
    have hturn : rehearsed r (turn t) = [turn t] :=
      rehearsed_of_ne fun a => storingAt_ne_turn a _ _
    have hpath := rehearsed_storingAt (h t (List.mem_cons_self ..))
    rw [List.flatMap_cons, List.flatMap_append, List.flatMap_cons,
      ih fun u hu => h u (List.mem_cons_of_mem _ hu)]
    simp only [announcing, List.flatMap_cons, List.flatMap_nil, hturn, hpath]
    rfl

/-- The closing message is rehearsed as it is. -/
theorem flatMap_rehearsed_complete : [complete].flatMap (rehearsed r) = [complete] := by
  rw [List.flatMap_singleton]
  exact rehearsed_of_ne fun _ h => by cases congrArg Message.tone h

/-- All that a run says which stores every Dockerfile, with the messages about the paths
replaced. -/
theorem flatMap_rehearsed_said (h : ∀ t ∈ targets, t ∈ r.os.targets r.hardware) :
    (opening r targets ++ targets.flatMap (announcing r) ++ [complete]).flatMap (rehearsed r) =
      opening r targets ++ targets.flatMap (printing r) ++ [complete] := by
  rw [List.flatMap_append, List.flatMap_append, flatMap_rehearsed_opening,
    flatMap_rehearsed_announcing h, flatMap_rehearsed_complete]

/-- What a run says up to a target is the beginning of what a dry run says, with the messages about
the paths replaced. -/
theorem beginning_rehearsed {before after : List Target}
    (h : ∀ t ∈ before ++ target :: after, t ∈ r.os.targets r.hardware) :
    opening r (before ++ target :: after) ++
        (before ++ target :: after).flatMap (printing r) ++ [complete] =
      (banner r.hardware :: (before ++ [target]).flatMap (announcing r)).flatMap (rehearsed r) ++
        (after.flatMap (printing r) ++ [complete]) := by
  have hopening : opening r (before ++ target :: after) = [banner r.hardware] := by simp [opening]
  have hfirst : ∀ t ∈ before ++ [target], t ∈ r.os.targets r.hardware := by
    intro t hm
    refine h t ?_
    rw [List.append_cons]
    exact List.mem_append_left after hm
  rw [hopening, List.flatMap_cons, rehearsed_banner, flatMap_rehearsed_announcing hfirst,
    List.append_cons before, List.flatMap_append]
  simp only [List.append_assoc]

/-! ## The two runs -/

/-- What a dry run prints for targets. -/
theorem printed_printing (r : Request) (targets : List Target) :
    Status.printed .output false (targets.flatMap (printing r)) =
      String.join (targets.map fun t =>
        "OS: " ++ t.os.name ++ ", version: " ++ t.version ++ "\n" ++
          "Would store at: " ++ Path.display (t.artifact.destination r.directory) ++ "\n" ++
            t.dockerfile ++ "\n") := by
  induction targets with
  | nil => simp
  | cons target rest ih =>
    rw [List.flatMap_cons, Status.printed_append, ih, List.map_cons, String.join_cons]
    congr 1
    simp only [printing, turn, wouldStoreAt, Status.printed_cons, Status.printed_nil,
      Status.Message.on_information, Status.Message.on_plain, String.append_empty,
      String.append_assoc]
    rfl

/-- A dry run and a run that stores agree. -/
structure Rehearses (here : Location) (tree : FileTree) (r : Request) (dry real : Outcome) :
    Prop where
  /-- The dry run changes nothing. -/
  tree_eq : dry.tree = tree
  /-- The dry run fails for nothing but a version that is not registered. -/
  failure_eq_none_iff : dry.failure = none ↔
    ∀ version, r.version = some version → version ∈ r.os.versions
  /-- For a version that is not registered both say the same and fail for the same reason. -/
  refused : ∀ version, r.version = some version → version ∉ r.os.versions →
    dry.failure = some (.unregistered ⟨r.os, version⟩) ∧ real.failure = dry.failure ∧
      real.messages = dry.messages ∧ real.tree = tree
  /-- If the run that stores succeeds, both go through the same targets in the same order.  The
  Dockerfiles are written at their paths, and the dry run shows those paths and Dockerfiles in the
  places where the other one says that it stores. -/
  stored : real.failure = none → ∃ targets, r.targets = .ok targets ∧
    dry.events = { r with dryRun := true }.started :: targets.map (fun t => t.artifact.composed) ∧
    real.events = { r with dryRun := false }.started ::
      targets.flatMap (fun t => [t.artifact.composed, t.artifact.stored r.directory]) ∧
    tree.writeAll here (targets.map fun t =>
      (t.artifact.destination r.directory, Text.encode t.dockerfile)) = .ok real.tree ∧
    dry.messages = real.messages.flatMap (rehearsed r) ∧
    ∃ before after,
      real.printed .output false = before ++ String.join (targets.map fun t =>
        "OS: " ++ t.os.name ++ ", version: " ++ t.version ++ "\n" ++
          "Storing at: " ++ Path.display (t.artifact.destination r.directory) ++ "\n") ++ after ∧
      dry.printed .output false = before ++ String.join (targets.map fun t =>
        "OS: " ++ t.os.name ++ ", version: " ++ t.version ++ "\n" ++
          "Would store at: " ++ Path.display (t.artifact.destination r.directory) ++ "\n" ++
            t.dockerfile ++ "\n") ++ after
  /-- If the run that stores fails on its way, what it has said is the beginning of what the dry run
  says. -/
  broken : ∀ target e, real.failure = some (.storage target e) →
    real.messages.flatMap (rehearsed r) <+: dry.messages ∧
    ∀ colored, ∃ rest, dry.printed .output colored =
      Status.printed .output colored (real.messages.flatMap (rehearsed r)) ++ rest

/-- **A dry run rehearses the run that stores**, whatever stands in the tree. -/
theorem run_rehearses (here : Location) (tree : FileTree) (r : Request) :
    Rehearses here tree r (run here tree { r with dryRun := true })
      (run here tree { r with dryRun := false }) := by
  cases ht : r.targets with
  | error e =>
    obtain ⟨version, hv, hn, rfl⟩ := Request.targets_eq_error_iff.1 ht
    rw [@run_refused here tree { r with dryRun := true } _ ht,
      @run_refused here tree { r with dryRun := false } _ ht]
    refine ⟨rfl, iff_of_false nofun fun h => hn (h version hv), ?_, nofun, nofun⟩
    intro version' hv' _
    obtain rfl := Option.some.inj (hv.symm.trans hv')
    exact ⟨rfl, rfl, rfl, rfl⟩
  | ok targets =>
    have hversion : ∀ version, r.version = some version → version ∈ r.os.versions := by
      intro version hv
      by_contra hn
      rw [Request.targets_eq_error_iff.2 ⟨version, hv, hn, rfl⟩] at ht
      cases ht
    have hnone := iff_of_true (rfl : (none : Option Failure) = none) hversion
    rw [@run_printed here tree { r with dryRun := true } targets ht rfl]
    rcases storeAll_stops here r.directory tree targets with
      ⟨tree', hs⟩ | ⟨before, target, after, tree', e, rfl, hs, he⟩
    · rw [@run_stored here tree tree' { r with dryRun := false } targets ht rfl hs]
      refine ⟨rfl, hnone, fun version hv hn => absurd (hversion version hv) hn, fun _ => ?_, nofun⟩
      refine ⟨targets, ht, rfl, rfl, storeAll_eq_writeAll .. ▸ hs, ?_, ?_⟩
      · exact (flatMap_rehearsed_said fun t hm => mem_targets_of_request ht hm).symm
      · refine ⟨Status.printed .output false (opening r targets),
          Status.printed .output false [complete], ?_, ?_⟩
        · rw [← printed_announcing, ← Status.printed_append, ← Status.printed_append]
          rfl
        · rw [← printed_printing, ← Status.printed_append, ← Status.printed_append]
          rfl
    · rw [@run_broken here tree tree' { r with dryRun := false } before after target e ht rfl hs he]
      refine ⟨rfl, hnone, fun version hv hn => absurd (hversion version hv) hn, nofun, ?_⟩
      intro _ _ _
      have hsaid := beginning_rehearsed fun t hm => mem_targets_of_request ht hm
      refine ⟨⟨_, hsaid.symm⟩, fun colored =>
        ⟨Status.printed .output colored (after.flatMap (printing r) ++ [complete]), ?_⟩⟩
      rw [← Status.printed_append]
      exact congrArg (Status.printed .output colored) hsaid

end Generation
end DockerMatrix
