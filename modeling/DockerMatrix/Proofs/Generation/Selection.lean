/-
# Which versions a run is for

A run is for the version that it is given, if that one is registered for the operating system, letter
for letter; any other version is refused before anything is stored or said about targets; and without a
version the run is for all that are registered, of which there may be none (`run_selects`).

| version | registered versions | run |
| --- | --- | --- |
| not registered | any | refused, nothing changed, only its first message |
| registered | any | for the one target of that version |
| none | none | a warning, and it succeeds with nothing changed |
| none | some | for all targets, without the warning |

What is registered is decided twice, once for a single version and once for all of them, and both
agree: the target of a version is the only one among all targets that has this version
(`OperatingSystem.filter_targets`).
-/

import DockerMatrix.Proofs.Generation.Result
import DockerMatrix.Proofs.Target.FileName
import Mathlib.Data.List.Nodup

namespace DockerMatrix

/-! ## Targets by their versions -/

namespace OperatingSystem

/-- No version is registered twice. -/
theorem nodup_versions (os : OperatingSystem) : os.versions.Nodup := by
  cases os <;> decide

/-- No target is selected twice. -/
theorem nodup_targets (os : OperatingSystem) (hardware : Hardware) :
    (os.targets hardware).Nodup := by
  refine List.Nodup.map (fun v v' h => Subtype.ext ?_) os.nodup_versions.attach
  exact congrArg Target.version h

/-- **Of all targets of an operating system on one hardware, one has a registered version.** -/
theorem filter_targets {os : OperatingSystem} {version : String} (h : version ∈ os.versions)
    (hardware : Hardware) :
    ((os.targets hardware).filter fun t => t.version = version) = [⟨os, version, hardware, h⟩] := by
  have hall : ∀ t ∈ os.targets hardware,
      decide (t.version = version) = decide (t = ⟨os, version, hardware, h⟩) := by
    intro t ht
    obtain ⟨v, -, rfl⟩ := List.mem_map.1 ht
    simp
  rw [List.filter_congr hall, List.filter_eq,
    List.count_eq_one_of_mem (os.nodup_targets hardware) (Target.mem_targets _), List.replicate_one]

end OperatingSystem

namespace Generation

open FileTree
open Status (Message)

variable {here l : Location} {directory : Path} {tree tree' : FileTree} {r : Request}
  {target : Target}

/-! ## The run for one target -/

/-- A Dockerfile that is stored changes nothing but the file that its path leads to. -/
theorem leadsTo_of_store (hs : target.artifact.store tree here directory = .ok tree')
    (hl : tree'.get? l ≠ tree.get? l) :
    LeadsTo here directory tree' target l ∧
      tree'.get? l = some (.file (Text.encode target.dockerfile)) := by
  obtain ⟨l', hl', rfl | ⟨ht, rfl⟩⟩ := store_spec hs
  · exact absurd rfl hl
  have hf := (ht.onlyStores_place target.artifact.bytes).sameFrame
  rw [get?_place tree ht.ne_nil] at hl ⊢
  by_cases he : l' = l
  · subst he
    have hfile : (tree.place l' (.file target.artifact.bytes)).get? l' =
        some (.file target.artifact.bytes) := by rw [get?_place tree ht.ne_nil, if_pos rfl]
    exact ⟨(locate_read_iff_create hfile).2 ((destinationIn_iff hf).2 hl'), if_pos rfl⟩
  · rw [if_neg he] at hl
    exact absurd rfl hl

/-- A run is for one target: it says what it does for that target, stores its Dockerfile unless the
run is dry, changes at most the file that the target's path leads to, and fails for nothing but that
this file cannot be stored. -/
structure IsFor (here : Location) (tree : FileTree) (r : Request) (target : Target) (o : Outcome) :
    Prop where
  messages : o.messages = banner r.hardware ::
    (if r.dryRun then printing r target else announcing r target) ++
      if o.failure.isNone then [complete] else []
  success : o.failure = none →
    if r.dryRun then o.tree = tree else target.artifact.store tree here r.directory = .ok o.tree
  failure : ∀ f, o.failure = some f → r.dryRun = false ∧ o.tree = tree ∧
    ∃ e, f = .storage target e ∧ target.artifact.store tree here r.directory = .error e
  changes : ∀ l, o.tree.get? l ≠ tree.get? l →
    r.dryRun = false ∧ LeadsTo here r.directory o.tree target l ∧
      o.tree.get? l = some (.file (Text.encode target.dockerfile))

/-- **The run of a request for one target is for that target.** -/
theorem isFor_run (ht : r.targets = .ok [target]) : IsFor here tree r target (run here tree r) := by
  have hopening : opening r [target] = [banner r.hardware] := rfl
  have hc := run_course here tree r
  generalize run here tree r = o at hc
  cases hc with
  | refused e hno =>
    rw [ht] at hno
    cases hno
  | printed targets htargets hdry =>
    obtain rfl := Except.ok.inj (ht.symm.trans htargets)
    refine ⟨?_, fun _ => by rw [if_pos hdry], nofun, fun l hl => absurd rfl hl⟩
    rw [hopening, hdry, List.flatMap_singleton]
    rfl
  | stored targets tree' htargets hdry hs =>
    obtain rfl := Except.ok.inj (ht.symm.trans htargets)
    obtain ⟨t₁, hfirst, hrest⟩ := storeAll_cons_eq_ok_iff.1 hs
    obtain rfl := Except.ok.inj hrest
    refine ⟨?_, fun _ => ?_, nofun, fun l hl => ⟨hdry, leadsTo_of_store hfirst hl⟩⟩
    · rw [hopening, hdry, List.flatMap_singleton]
      rfl
    · rw [hdry]
      exact hfirst
  | broken before target' after tree' e htargets hdry hs he =>
    have hlist : [target] = before ++ target' :: after := Except.ok.inj (ht.symm.trans htargets)
    obtain ⟨rfl, rfl, rfl⟩ : before = [] ∧ target' = target ∧ after = [] := by
      cases before with
      | nil => simpa [eq_comm, and_comm] using hlist
      | cons first rest => simp at hlist
    obtain rfl := Except.ok.inj hs
    refine ⟨?_, nofun, fun f hf => ⟨hdry, rfl, e, (Option.some.inj hf).symm, he⟩,
      fun l hl => absurd rfl hl⟩
    rw [hdry, List.nil_append, List.flatMap_singleton]
    simp

/-! ## The choice of versions -/

/-- What a run comes to, by the version that it is given. -/
structure Selects (here : Location) (tree : FileTree) (r : Request) (o : Outcome) : Prop where
  /-- A version that is not registered is refused, and nothing else has happened. -/
  unregistered : ∀ version, r.version = some version → version ∉ r.os.versions →
    o.failure = some (.unregistered ⟨r.os, version⟩) ∧ o.tree = tree ∧
      o.messages = [banner r.hardware] ∧
      o.printed .output false = (banner r.hardware).text ++ "\n" ∧ o.printed .error false = ""
  /-- Two operating systems have no versions, so that every version is refused for them. -/
  refuses : r.os = .windows ∨ r.os = .macos → ∀ version, r.version = some version →
    o.failure = some (.unregistered ⟨r.os, version⟩)
  /-- A run for a registered version is for its target, the only one that has it. -/
  registered : ∀ version, r.version = some version → version ∈ r.os.versions →
    ∃ target, ((r.os.targets r.hardware).filter fun t => t.version = version) = [target] ∧
      r.targets = .ok [target] ∧ IsFor here tree r target o
  /-- Without a version none is refused. -/
  accepts : r.version = none → ∀ e, o.failure ≠ some (.unregistered e)
  /-- Without a version the run warns, succeeds and changes nothing if and only if no version is
  registered. -/
  warns : r.version = none →
    ((∃ m ∈ o.messages, m.tone = .warning) ∧ o.failure = none ∧ o.tree = tree ↔ r.os.versions = [])
  /-- Then it has nothing else to say. -/
  empty : r.version = none → r.os.versions = [] →
    o.messages = [banner r.hardware, nothingRegistered r.os, complete]

/-- Only a run without targets warns, whatever it says for its targets. -/
theorem exists_warning_iff {targets : List Target} {said : Target → List Message}
    (hsaid : ∀ t, ∀ m ∈ said t, m.tone ≠ .warning) :
    (∃ m ∈ opening r targets ++ targets.flatMap said ++ [complete], m.tone = .warning) ↔
      targets = [] := by
  constructor
  · rintro ⟨m, hm, htone⟩
    rw [List.mem_append, List.mem_append, List.mem_flatMap, List.mem_singleton] at hm
    rcases hm with (hm | ⟨t, -, hm⟩) | rfl
    · unfold opening at hm
      split_ifs at hm with hempty
      · exact List.isEmpty_iff.1 hempty
      · obtain rfl := List.mem_singleton.1 hm
        cases htone
    · exact absurd htone (hsaid t m hm)
    · cases htone
  · rintro rfl
    exact ⟨nothingRegistered r.os, by simp [opening], rfl⟩

/-- Printing a Dockerfile warns of nothing. -/
theorem tone_ne_warning_of_mem_printing (t : Target) :
    ∀ m ∈ printing r t, m.tone ≠ .warning := by
  simp [printing, turn, wouldStoreAt]

/-- Announcing a Dockerfile warns of nothing. -/
theorem tone_ne_warning_of_mem_announcing (t : Target) :
    ∀ m ∈ announcing r t, m.tone ≠ .warning := by
  simp [announcing, turn, storingAt]

/-- The targets of a run without a version are none if and only if no version is registered. -/
theorem targets_eq_nil_iff {targets : List Target} (hv : r.version = none)
    (ht : r.targets = .ok targets) : targets = [] ↔ r.os.versions = [] := by
  have hversions : targets.map Target.version = r.os.versions := by
    simpa only [hv] using (Request.targets_spec ht).1
  rw [← hversions, List.map_eq_nil_iff]

/-- **A run without a version** refuses none, and warns if there is none. -/
theorem warns_run (hv : r.version = none) :
    let o := run here tree r
    (∀ e, o.failure ≠ some (.unregistered e)) ∧
      ((∃ m ∈ o.messages, m.tone = .warning) ∧ o.failure = none ∧ o.tree = tree ↔
        r.os.versions = []) ∧
      (r.os.versions = [] → o.messages = [banner r.hardware, nothingRegistered r.os, complete]) := by
  intro o
  have hc : Course here tree r o := run_course here tree r
  clear_value o
  cases hc with
  | refused e hno =>
    rw [Request.targets, hv] at hno
    cases hno
  | printed targets ht hdry =>
    have hnil := targets_eq_nil_iff hv ht
    refine ⟨fun _ h => (by cases h), ?_, fun hempty => ?_⟩
    · rw [exists_warning_iff tone_ne_warning_of_mem_printing, hnil]
      exact and_iff_left ⟨rfl, rfl⟩
    · rw [hnil.2 hempty]
      rfl
  | stored targets tree' ht hdry hs =>
    have hnil := targets_eq_nil_iff hv ht
    refine ⟨fun _ h => (by cases h), ?_, fun hempty => ?_⟩
    · rw [exists_warning_iff tone_ne_warning_of_mem_announcing, hnil]
      refine and_iff_left_of_imp fun hempty => ⟨rfl, ?_⟩
      rw [hnil.2 hempty, storeAll, Except.ok.injEq] at hs
      exact hs.symm
    · rw [hnil.2 hempty]
      rfl
  | broken before target after tree' e ht hdry hs he =>
    have hsome : r.os.versions ≠ [] := by
      rw [Ne, ← targets_eq_nil_iff hv ht]
      exact List.append_ne_nil_of_right_ne_nil _ (List.cons_ne_nil _ _)
    exact ⟨fun _ h => (by cases h), iff_of_false (fun h => by cases h.2.1) hsome,
      fun h => absurd h hsome⟩

/-- **A run is for the version that it is given**, and refuses a version that is not registered before
it has any effect. -/
theorem run_selects (here : Location) (tree : FileTree) (r : Request) :
    Selects here tree r (run here tree r) := by
  have hrefused : ∀ version, r.version = some version → version ∉ r.os.versions →
      run here tree r = ⟨tree, [banner r.hardware], [r.started],
        some (.unregistered ⟨r.os, version⟩)⟩ := fun version hv hn =>
    run_refused (Request.targets_eq_error_iff.2 ⟨version, hv, hn, rfl⟩)
  refine ⟨fun version hv hn => ?_, fun hos version hv => ?_, fun version hv hm => ?_,
    fun hv => (warns_run hv).1, fun hv => (warns_run hv).2.1, fun hv => (warns_run hv).2.2⟩
  · rw [hrefused version hv hn]
    refine ⟨rfl, rfl, rfl, ?_, ?_⟩
    · rw [Outcome.printed, Status.printed_cons, Status.printed_nil, String.append_empty]
      exact Status.Message.on_information _
    · cases r.hardware <;> rfl
  · have hn : version ∉ r.os.versions := by
      rcases hos with hos | hos <;> rw [hos] <;> exact List.not_mem_nil
    rw [hrefused version hv hn]
  · have ht : r.targets = .ok [⟨r.os, version, r.hardware, hm⟩] := by
      simp [Request.targets, hv, Target.register, hm, Except.map]
    exact ⟨_, OperatingSystem.filter_targets hm r.hardware, ht, isFor_run ht⟩

/-- Versions that differ from a registered one by a blank, a zero or a letter are not registered. -/
example : ∀ version ∈ ["18.04 ", " 18.04", "18.4", "018.04", "18.040", "V18.04", "18,04", ""],
    version ∉ OperatingSystem.ubuntu.versions := by
  decide

end Generation
end DockerMatrix
