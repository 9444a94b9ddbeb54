/-
# A run for all versions is its runs for single versions

A run that is given no version comes to the same as runs for the registered versions, in their order,
each on the tree that the one before has left, up to the first one that fails (`run_eq_runEach`).
What it says is its first message, once, then what the single runs say between theirs and the message
that they are complete, and that message at the end if all of them have succeeded.

Steps that are carried out one after the other are carried out in parts: the second part begins with
the tree that the first one leaves, unless that one fails (`execute_append`).  So the steps of a
target are the same part of a run for all targets and of a run for that one.
-/

import DockerMatrix.Proofs.Generation.Result

namespace DockerMatrix
namespace Generation

open Log (Event)
open Status (Message)

variable {here : Location} {tree : FileTree} {r : Request} {targets : List Target} {t : Target}

/-! ## Steps in parts -/

namespace Outcome

/-- An outcome and the one of what comes next, if it has not failed. -/
def followedBy (o : Outcome) (next : FileTree → Outcome) : Outcome :=
  if o.failure.isSome then o else (next o.tree).behind o.messages o.events

/-- A message that is said first stays in front of what follows. -/
theorem saying_followedBy (m : Message) (o : Outcome) (next : FileTree → Outcome) :
    (o.saying m).followedBy next = (o.followedBy next).saying m := by
  unfold followedBy saying
  split_ifs <;> rfl

/-- An event that is noted first stays in front of what follows. -/
theorem noting_followedBy (e : Event) (o : Outcome) (next : FileTree → Outcome) :
    (o.noting e).followedBy next = (o.followedBy next).noting e := by
  unfold followedBy noting
  split_ifs <;> rfl

end Outcome

/-- **Steps are carried out in parts.** -/
theorem execute_append (here : Location) (tree : FileTree) (before after : List Step) :
    execute here tree (before ++ after) =
      (execute here tree before).followedBy fun tree' => execute here tree' after := by
  induction before generalizing tree with
  | nil => rfl
  | cons step rest ih =>
    cases step with
    | say m => rw [List.cons_append, execute, execute, ih, Outcome.saying_followedBy]
    | note e => rw [List.cons_append, execute, execute, ih, Outcome.noting_followedBy]
    | store a directory =>
      rw [List.cons_append, execute, execute]
      cases a.store tree here directory with
      | error e => rfl
      | ok tree' =>
        dsimp only
        rw [ih, Outcome.noting_followedBy]
    | refuse e => rfl

/-! ## A single version -/

/-- What the steps of a target say. -/
theorem messages_execute_targetSteps (here : Location) (tree : FileTree) (r : Request)
    (t : Target) : (execute here tree (targetSteps r t)).messages =
      if r.dryRun then printing r t else announcing r t := by
  unfold targetSteps
  cases r.dryRun with
  | true => rfl
  | false =>
    simp only [Bool.false_eq_true, if_false, List.cons_append, List.nil_append, execute]
    cases t.artifact.store tree here r.directory <;> rfl

/-- What a run says between its first message and the one that it is complete. -/
def Outcome.between (hardware : Hardware) (o : Outcome) : List Message :=
  o.messages.filter fun m => m ≠ banner hardware ∧ m ≠ complete

/-- A version of a target asks for that target. -/
theorem targets_of_version (hos : t.os = r.os) (hhardware : t.hardware = r.hardware) :
    { r with version := some t.version }.targets = .ok [t] := by
  obtain ⟨os, version, hardware, registered⟩ := t
  subst hos hhardware
  simp [Request.targets, Target.register, registered, Except.map]

/-- **A run for a single version** carries out the steps of its target between two messages. -/
theorem run_single (here : Location) (tree : FileTree) (hos : t.os = r.os)
    (hhardware : t.hardware = r.hardware) :
    run here tree { r with version := some t.version } =
      ((execute here tree (targetSteps r t)).followedBy fun tree' =>
        execute here tree' [.say complete]).behind [banner r.hardware]
          [{ r with version := some t.version }.started] := by
  rw [run_of_targets (targets_of_version hos hhardware), execute_append, List.flatMap_singleton]
  rfl

/-- The outcome of steps and the message that a run is complete. -/
theorem followedBy_complete (here : Location) (o : Outcome) :
    o.followedBy (fun tree' => execute here tree' [.say complete]) =
      { o with messages := o.messages ++ if o.failure.isNone then [complete] else [] } := by
  obtain ⟨tree, messages, events, failure⟩ := o
  cases failure <;> simp [Outcome.followedBy, Outcome.behind, execute, Outcome.saying]

/-- The messages between the banner and the closing message are those that are neither. -/
theorem between_of_messages_eq {o : Outcome} {hardware : Hardware} {ms : List Message}
    (hm : o.messages = banner hardware :: ms ++ if o.failure.isNone then [complete] else [])
    (hms : ∀ m ∈ ms, m ≠ banner hardware ∧ m ≠ complete) : o.between hardware = ms := by
  have hfilter : ms.filter (fun m => m ≠ banner hardware ∧ m ≠ complete) = ms :=
    List.filter_eq_self.2 fun m h => decide_eq_true (hms m h)
  rw [Outcome.between, hm, List.filter_append, List.filter_cons_of_neg (by simp), hfilter]
  split_ifs <;> simp

/-- What is said for a target is neither the first message of a run nor its last. -/
theorem ne_of_mem_targetSteps {m : Message}
    (hm : m ∈ (execute here tree (targetSteps r t)).messages) (hardware : Hardware) :
    m ≠ banner hardware ∧ m ≠ complete := by
  have hbanner : ∀ s : String, s.toList.head? ≠ some 'G' →
      Message.mk .information s ≠ banner hardware := by
    rintro s hs h
    have ht := congrArg (fun m => m.text.toList.head?) h
    cases hardware <;> exact hs (ht.trans rfl)
  rw [messages_execute_targetSteps] at hm
  have hcases : m = turn t ∨ m = wouldStoreAt t.artifact r.directory ∨
      m = ⟨.plain, t.artifact.contents⟩ ∨ m = storingAt t.artifact r.directory := by
    split_ifs at hm <;> simp only [printing, announcing, List.mem_cons, List.not_mem_nil,
      or_false] at hm <;> tauto
  rcases hcases with rfl | rfl | rfl | rfl
  · exact ⟨hbanner _ (by simp), by rintro ⟨⟩⟩
  · exact ⟨hbanner _ (by simp), by rintro ⟨⟩⟩
  · exact ⟨by cases hardware <;> rintro ⟨⟩, by rintro ⟨⟩⟩
  · exact ⟨hbanner _ (by simp), by rintro ⟨⟩⟩

/-- What a run for a single version comes to, seen from the steps of its target. -/
theorem run_single_spec (here : Location) (tree : FileTree) (hos : t.os = r.os)
    (hhardware : t.hardware = r.hardware) :
    let single := run here tree { r with version := some t.version }
    let steps := execute here tree (targetSteps r t)
    single.tree = steps.tree ∧ single.failure = steps.failure ∧
      single.between r.hardware = steps.messages ∧
      single.messages = banner r.hardware :: single.between r.hardware ++
        if single.failure.isNone then [complete] else [] := by
  intro single steps
  have hsingle : single = { steps with
      messages := banner r.hardware :: (steps.messages ++
        if steps.failure.isNone then [complete] else []),
      events := { r with version := some t.version }.started :: steps.events } := by
    rw [show single = _ from run_single here tree hos hhardware, followedBy_complete]
    rfl
  have hbetween : single.between r.hardware = steps.messages :=
    between_of_messages_eq (by rw [hsingle]; rfl) fun m hm => ne_of_mem_targetSteps hm r.hardware
  refine ⟨by rw [hsingle], by rw [hsingle], hbetween, ?_⟩
  rw [hbetween, hsingle]
  rfl

/-! ## All versions -/

/-- The outcomes of runs for single versions, each on the tree that the one before has left, up to
the first one that fails. -/
def runEach (here : Location) (r : Request) : FileTree → List String → List Outcome
  | _, [] => []
  | tree, version :: rest =>
    let o := run here tree { r with version := some version }
    if o.failure.isSome then [o] else o :: runEach here r o.tree rest

/-- The steps of targets, and the message that a run is complete, come to what the runs for their
versions come to. -/
theorem execute_targets_eq (here : Location) (tree : FileTree)
    (ht : ∀ t ∈ targets, t.os = r.os ∧ t.hardware = r.hardware) :
    let singles := runEach here r tree (targets.map Target.version)
    let o := execute here tree (targets.flatMap (targetSteps r) ++ [.say complete])
    o.tree = (singles.getLast?.map Outcome.tree).getD tree ∧
      o.failure = singles.findSome? Outcome.failure ∧
      o.messages = singles.flatMap (Outcome.between r.hardware) ++
        (if singles.all fun o => o.failure.isNone then [complete] else []) ∧
      ∀ o ∈ singles, o.messages = banner r.hardware :: o.between r.hardware ++
        if o.failure.isNone then [complete] else [] := by
  induction targets generalizing tree with
  | nil => exact ⟨rfl, rfl, rfl, nofun⟩
  | cons t rest ih =>
    obtain ⟨hos, hhardware⟩ := ht t (List.mem_cons_self ..)
    obtain ⟨htree, hfailure, hbetween, hmessages⟩ := run_single_spec here tree hos hhardware
    obtain ⟨itree, ifailure, imessages, ieach⟩ :=
      ih (execute here tree (targetSteps r t)).tree fun u hu => ht u (List.mem_cons_of_mem _ hu)
    rw [List.flatMap_cons, List.append_assoc, execute_append, List.map_cons, runEach]
    dsimp only at htree hfailure hbetween hmessages ⊢
    generalize run here tree { r with version := some t.version } = single at *
    generalize execute here tree (targetSteps r t) = steps at *
    rw [← htree] at itree ifailure imessages ieach
    generalize runEach here r single.tree (rest.map Target.version) = singles at *
    rw [Outcome.followedBy, ← htree, ← hfailure, ← hbetween]
    cases hf : single.failure with
    | some failure =>
      rw [hf] at hfailure hmessages
      simp [hf, ← hfailure, ← htree, ← hbetween, hmessages]
    | none =>
      rw [hf] at hmessages
      simp only [Option.isSome_none, Bool.false_eq_true, if_false, Outcome.behind]
      refine ⟨?_, ?_, ?_, ?_⟩
      · rw [itree, List.getLast?_cons]
        cases singles.getLast? <;> rfl
      · rw [ifailure, List.findSome?_cons, hf]
      · rw [imessages, List.flatMap_cons, List.all_cons, hf, List.append_assoc]
        rfl
      · intro o hm
        rcases List.mem_cons.1 hm with rfl | hm
        · rw [hf]
          exact hmessages
        · exact ieach o hm

/-- Messages from several runs are printed one run after the other. -/
theorem printed_flatMap (stream : Status.Stream) (colored : Bool) (singles : List Outcome)
    (f : Outcome → List Message) :
    Status.printed stream colored (singles.flatMap f) =
      String.join (singles.map fun o => Status.printed stream colored (f o)) := by
  induction singles with
  | nil => simp
  | cons o rest ih =>
    rw [List.flatMap_cons, Status.printed_append, ih, List.map_cons, String.join_cons]

/-- **A run for all versions is its runs for single versions**, up to the first one that fails: it
leaves the tree of the last one, fails as the one that fails, and says and prints what they do, with
the first message once and the last one if all succeed. -/
theorem run_eq_runEach (hv : r.version = none) (hne : r.os.versions ≠ []) :
    let singles := runEach here r tree r.os.versions
    let ending := if singles.all fun o => o.failure.isNone then [complete] else []
    (run here tree r).tree = (singles.getLast?.map Outcome.tree).getD tree ∧
      (run here tree r).failure = singles.findSome? Outcome.failure ∧
      (run here tree r).messages =
        banner r.hardware :: singles.flatMap (Outcome.between r.hardware) ++ ending ∧
      (∀ stream colored, (run here tree r).printed stream colored =
        Status.printed stream colored [banner r.hardware] ++
          String.join (singles.map fun o =>
            Status.printed stream colored (o.between r.hardware)) ++
          Status.printed stream colored ending) ∧
      ∀ o ∈ singles, o.messages = banner r.hardware :: o.between r.hardware ++
        if o.failure.isNone then [complete] else [] := by
  intro singles ending
  have ht : r.targets = .ok (r.os.targets r.hardware) := by
    rw [Request.targets, hv]
  obtain ⟨hversions, hall⟩ := Request.targets_spec ht
  rw [hv] at hversions
  have hopening : opening r (r.os.targets r.hardware) = [banner r.hardware] := by
    have htargets : r.os.targets r.hardware ≠ [] := by
      intro h
      rw [h] at hversions
      exact hne hversions.symm
    simp [opening, htargets]
  obtain ⟨htree, hfailure, hmessages, heach⟩ := execute_targets_eq here tree hall
  rw [hversions] at htree hfailure hmessages heach
  have hsaid : (run here tree r).messages =
      banner r.hardware :: singles.flatMap (Outcome.between r.hardware) ++ ending := by
    rw [run_of_targets ht, hopening]
    exact congrArg (banner r.hardware :: ·) hmessages
  refine ⟨?_, ?_, hsaid, fun stream colored => ?_, heach⟩
  · rw [run_of_targets ht]
    exact htree
  · rw [run_of_targets ht]
    exact hfailure
  · rw [Outcome.printed, hsaid, ← printed_flatMap, ← Status.printed_append,
      ← Status.printed_append]
    rfl

/-- The run that fails at the second of its two versions. -/
theorem run_eq_runEach_looped :
    loopedRequest.version = none ∧ loopedRequest.os.versions ≠ [] ∧
      (run [[119]] loopedTree loopedRequest).failure =
        (runEach [[119]] loopedRequest loopedTree ["18.04", "20.04"]).findSome? Outcome.failure := by
  have hne : loopedRequest.os.versions ≠ [] := by decide
  obtain ⟨-, hfailure, -⟩ := @run_eq_runEach [[119]] loopedTree loopedRequest rfl hne
  exact ⟨rfl, hne, hfailure⟩

end Generation
end DockerMatrix
