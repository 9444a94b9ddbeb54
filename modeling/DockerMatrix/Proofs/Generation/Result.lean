/-
# What a run leaves behind

A run that succeeds and is not dry has stored the Dockerfile of every target and has changed nothing
else (`run_stores_all`).  A run that fails while it stores has stored the Dockerfiles of the targets
before the one it fails at, and has said so far and no further (`run_fails_after_prefix`).

The destinations may be links, into each other and to places where nothing is.  Two targets then may
have one destination, and the later one's Dockerfile is found there.
-/

import DockerMatrix.Proofs.Generation.Course

namespace DockerMatrix
namespace Generation

open FileTree

variable {here : Location} {directory : Path} {tree after : FileTree} {r : Request}
  {targets : List Target} {target : Target} {l : Location}

/-- The path of a target's Dockerfile leads to a location. -/
def LeadsTo (here : Location) (directory : Path) (t : FileTree) (target : Target) (l : Location) :
    Prop :=
  t.locate .read here (target.artifact.destination directory) = .ok l

/-- What a tree is after the Dockerfiles of targets have been stored in it. -/
structure StoredFor (here : Location) (directory : Path) (targets : List Target)
    (before after : FileTree) : Prop where
  /-- The path of every target leads to a file, and the file is the Dockerfile of the last target
  whose path leads there. -/
  dockerfile : ∀ target ∈ targets, ∃ l, LeadsTo here directory after target l ∧
    ∃ earlier last later, targets = earlier ++ last :: later ∧
      LeadsTo here directory after last l ∧ (∀ u ∈ later, ¬LeadsTo here directory after u l) ∧
      after.get? l = some (.file (Text.encode last.dockerfile))
  /-- A target whose path leads where no other target's path leads has its own Dockerfile there. -/
  own : ∀ target ∈ targets,
    (∀ u ∈ targets, ∀ l, LeadsTo here directory after target l →
      LeadsTo here directory after u l → u = target) →
    after.find here (target.artifact.destination directory) =
      .ok (.file (Text.encode target.dockerfile))
  /-- A path leads to a file that has been there from the beginning if it did so then. -/
  stable : ∀ target ∈ targets, ∀ l contents, before.get? l = some (.file contents) →
    (LeadsTo here directory after target l ↔ LeadsTo here directory before target l)
  /-- Where no target's path leads, all is as it was. -/
  untouched : ∀ l, (∀ target ∈ targets, ¬LeadsTo here directory after target l) →
    after.get? l = before.get? l
  /-- Nothing is removed. -/
  kept : ∀ l, (before.get? l).isSome → (after.get? l).isSome
  /-- No directory, link or device is added, removed or changed. -/
  frame : ∀ l e, (∀ contents, e ≠ .file contents) →
    (after.get? l = some e ↔ before.get? l = some e)

/-- The destination of a target whose Dockerfile has been stored is where its path leads now. -/
theorem leadsTo_iff (hk : Keeps here directory tree)
    (hs : storeAll here directory tree targets = .ok after) (hm : target ∈ targets) :
    LeadsTo here directory after target l ↔ destinationIn here directory tree target = .ok l := by
  have hf := (storeAll_onlyStores hs).sameFrame
  obtain ⟨l₀, hl₀⟩ := storeAll_exists_destination hs hm
  obtain ⟨earlier, last, later, rfl, hlast, hlater⟩ :=
    exists_last (p := fun u => destinationIn here directory tree u = .ok l₀) hm hl₀
  have hfile := storeAll_last hk hs hlast hlater
  have hthere : LeadsTo here directory after target l₀ :=
    (locate_read_iff_create hfile).2 ((destinationIn_iff hf).2 hl₀)
  constructor
  · intro h
    rw [LeadsTo, hthere] at h
    rw [hl₀, h]
  · intro h
    rw [hl₀] at h
    rw [LeadsTo, ← h]
    exact hthere

/-- **What storing the Dockerfiles of targets makes of a tree.** -/
theorem storedFor_of_storeAll (hk : Keeps here directory tree)
    (hs : storeAll here directory tree targets = .ok after) :
    StoredFor here directory targets tree after := by
  have ho := storeAll_onlyStores hs
  have hlast : ∀ target ∈ targets, ∃ l, LeadsTo here directory after target l ∧
      ∃ earlier last later, targets = earlier ++ last :: later ∧
        LeadsTo here directory after last l ∧ (∀ u ∈ later, ¬LeadsTo here directory after u l) ∧
        after.get? l = some (.file (Text.encode last.dockerfile)) := by
    intro target hm
    obtain ⟨l, hl⟩ := storeAll_exists_destination hs hm
    have hthere := (leadsTo_iff hk hs hm).2 hl
    obtain ⟨earlier, last, later, rfl, hlast, hlater⟩ :=
      exists_last (p := fun u => LeadsTo here directory after u l) hm hthere
    have hdest : ∀ u ∈ earlier ++ last :: later,
        LeadsTo here directory after u l ↔ destinationIn here directory tree u = .ok l :=
      fun u hu => leadsTo_iff hk hs hu
    refine ⟨l, hthere, earlier, last, later, rfl, hlast, hlater, ?_⟩
    refine storeAll_last hk hs ((hdest last (by simp)).1 hlast) fun u hu hl' => ?_
    exact hlater u hu ((hdest u (by simp [hu])).2 hl')
  refine ⟨hlast, ?_, ?_, ?_, fun l => ho.isSome, fun l e he => ho.sameFrame.get?_eq_some_iff he⟩
  · intro target hm halone
    obtain ⟨l, hl, earlier, last, later, rfl, hll, -, hfile⟩ := hlast target hm
    obtain rfl := halone last (by simp) l hl hll
    rw [find, hl]
    simp only [hfile]
  · intro target hm l contents hfile
    rw [leadsTo_iff hk hs hm]
    exact (locate_read_iff_create hfile).symm
  · intro l hnone
    exact storeAll_untouched hk hs fun target hm hl =>
      hnone target hm ((leadsTo_iff hk hs hm).2 hl)

/-- A version that is asked for is the version of the only target; otherwise all are generated. -/
theorem Request.targets_spec {r : Request} (ht : r.targets = .ok targets) :
    targets.map Target.version = (match r.version with
      | none => r.os.versions
      | some version => [version]) ∧
      ∀ target ∈ targets, target.os = r.os ∧ target.hardware = r.hardware := by
  unfold Request.targets at ht
  cases hv : r.version with
  | none =>
    rw [hv, Except.ok.injEq] at ht
    subst ht
    constructor
    · simp [OperatingSystem.targets, Function.comp_def]
    · simp only [OperatingSystem.targets, List.mem_map]
      rintro target ⟨v, -, rfl⟩
      exact ⟨rfl, rfl⟩
  | some version =>
    rw [hv] at ht
    simp only [Target.register] at ht
    split at ht
    · simp only [Except.map, Except.ok.injEq] at ht
      subst ht
      simp
    · simp [Except.map] at ht

/-- Only a version that is not registered is refused. -/
theorem Request.targets_eq_error_iff {e : UnregisteredVersion} :
    r.targets = .error e ↔ ∃ version, r.version = some version ∧ version ∉ r.os.versions ∧
      e = ⟨r.os, version⟩ := by
  unfold Request.targets
  cases r.version with
  | none => simp
  | some version =>
    by_cases h : version ∈ r.os.versions <;> simp [Target.register, h, Except.map, eq_comm]

/-- **A run that succeeds has stored every Dockerfile, and nothing else is changed.**  Its targets
are the versions registered for the operating system, in order, or the one that is asked for. -/
theorem run_stores_all (hdry : r.dryRun = false) (hk : Keeps here r.directory tree)
    (hok : (run here tree r).failure = none) :
    ∃ targets, r.targets = .ok targets ∧
      targets.map Target.version = (match r.version with
        | none => r.os.versions
        | some version => [version]) ∧
      (∀ target ∈ targets, target.os = r.os ∧ target.hardware = r.hardware) ∧
      StoredFor here r.directory targets tree (run here tree r).tree := by
  have hc := run_course here tree r
  generalize run here tree r = o at hc hok ⊢
  cases hc with
  | refused => cases hok
  | printed _ _ hd =>
    rw [hdry] at hd
    cases hd
  | broken => cases hok
  | stored targets tree' ht _ hs =>
    obtain ⟨hv, ho⟩ := Request.targets_spec ht
    exact ⟨targets, ht, hv, ho, storedFor_of_storeAll hk hs⟩

/-- A tree where the paths of both targets are links that lead, one of them by way of another link,
to the same place, where nothing is.  The name of the directory is no text. -/
def aliasedTree : FileTree :=
  ⟨[([[119]], .directory), ([[0xFF], [119]], .directory),
    ([Text.encode "Dockerfile.ubuntu.18.04.cpu", [0xFF], [119]], .link (Text.encode "new")),
    ([Text.encode "Dockerfile.ubuntu.20.04.cpu", [0xFF], [119]], .link (Text.encode "by/way")),
    ([Text.encode "by", [0xFF], [119]], .directory),
    ([Text.encode "way", Text.encode "by", [0xFF], [119]], .link (Text.encode "../new")),
    ([Text.encode "old", [0xFF], [119]], .file (Text.encode "left alone"))]⟩

/-- The request for all Dockerfiles of a hardware in the directory of `aliasedTree`. -/
def aliasedRequest : Request := ⟨.ubuntu, .cpu, none, [0xFF], false⟩

/-- Two of these Dockerfiles resolve to the same place, where the later one stays. -/
theorem run_stores_all_aliased :
    aliasedRequest.dryRun = false ∧ Keeps [[119]] aliasedRequest.directory aliasedTree ∧
      (run [[119]] aliasedTree aliasedRequest).failure = none ∧
      ∃ targets, aliasedRequest.targets = .ok targets ∧
        StoredFor [[119]] aliasedRequest.directory targets aliasedTree
          (run [[119]] aliasedTree aliasedRequest).tree := by
  have hk : Keeps [[119]] aliasedRequest.directory aliasedTree := keeps_of_forall_entries (by decide)
  have hok : (run [[119]] aliasedTree aliasedRequest).failure = none := by decide +kernel
  obtain ⟨targets, ht, -, -, hs⟩ := run_stores_all rfl hk hok
  exact ⟨rfl, hk, hok, targets, ht, hs⟩

/-- What a run that stores prints for targets. -/
theorem printed_announcing (r : Request) (targets : List Target) :
    Status.printed .output false (targets.flatMap (announcing r)) =
      String.join (targets.map fun t =>
        "OS: " ++ t.os.name ++ ", version: " ++ t.version ++ "\n" ++
          "Storing at: " ++ Path.display (t.artifact.destination r.directory) ++ "\n") := by
  induction targets with
  | nil => simp
  | cons target rest ih =>
    rw [List.flatMap_cons, Status.printed_append, ih, List.map_cons, String.join_cons]
    congr 1
    simp only [announcing, turn, storingAt, Status.printed_cons, Status.printed_nil,
      Status.Message.on_information, String.append_empty, String.append_assoc]

/-- An error of storing a Dockerfile names the path, and the cause behind it. -/
theorem store_error_chain {e : StorageError}
    (he : target.artifact.store tree here directory = .error e) :
    ∃ stage, (stage = "could not create " ∨ stage = "could not write ") ∧
      e.chain = [stage ++ Path.display (target.artifact.destination directory),
        e.cause.message] := by
  rcases write_eq_error_iff.1 he with ⟨cause, rfl, -⟩ | ⟨rfl, -, -⟩
  · exact ⟨_, Or.inl rfl, rfl⟩
  · exact ⟨_, Or.inr rfl, rfl⟩

/-- **A run that fails while it stores leaves a prefix of its work.**  The Dockerfiles of the
targets before the one it fails at are stored and nothing else; it has said what it does for them
and for that one; and of the three messages of its failure the first names the target, the second
the path, and the third is the system's. -/
theorem run_fails_after_prefix {e : StorageError}
    (hfail : (run here tree r).failure = some (.storage target e)) :
    ∃ targets k, r.targets = .ok targets ∧ targets[k]? = some target ∧
      storeAll here r.directory tree (targets.take k) = .ok (run here tree r).tree ∧
      (Keeps here r.directory tree →
        StoredFor here r.directory (targets.take k) tree (run here tree r).tree) ∧
      target.artifact.store (run here tree r).tree here r.directory = .error e ∧
      (run here tree r).messages =
        banner r.hardware :: (targets.take (k + 1)).flatMap (announcing r) ∧
      (run here tree r).printed .output false =
        (banner r.hardware).text ++ "\n" ++ String.join ((targets.take (k + 1)).map fun t =>
          "OS: " ++ t.os.name ++ ", version: " ++ t.version ++ "\n" ++
            "Storing at: " ++ Path.display (t.artifact.destination r.directory) ++ "\n") ∧
      ∃ stage, (stage = "could not create " ∨ stage = "could not write ") ∧
        (Failure.storage target e).chain =
          ["failed to store dockerfile for " ++ target.display,
            stage ++ Path.display (target.artifact.destination r.directory), e.cause.message] := by
  have hc := run_course here tree r
  generalize run here tree r = o at hc hfail ⊢
  cases hc with
  | refused => cases hfail
  | printed => cases hfail
  | stored => cases hfail
  | broken before _ later tree' _ ht _ hs he =>
    cases hfail
    have hk : (before ++ target :: later).take before.length = before := by simp
    have hk₁ : (before ++ target :: later).take (before.length + 1) = before ++ [target] := by
      rw [List.append_cons]
      exact List.take_left' (by simp)
    refine ⟨before ++ target :: later, before.length, ht, by simp, ?_, ?_, he, ?_, ?_, ?_⟩
    · rw [hk]
      exact hs
    · intro hkeeps
      rw [hk]
      exact storedFor_of_storeAll hkeeps hs
    · rw [hk₁]
    · rw [hk₁, Outcome.printed, Status.printed_cons, printed_announcing]
      rfl
    · obtain ⟨stage, hstage, hchain⟩ := store_error_chain he
      exact ⟨stage, hstage, congrArg _ hchain⟩

/-- A tree where the path of the second target is a link to itself. -/
def loopedTree : FileTree :=
  ⟨[([[119]], .directory),
    ([Text.encode "Dockerfile.ubuntu.18.04", [119]], .file (Text.encode "stale")),
    ([Text.encode "Dockerfile.ubuntu.20.04", [119]],
      .link (Text.encode "Dockerfile.ubuntu.20.04"))]⟩

/-- The request for all Dockerfiles of a hardware in the working directory of `loopedTree`. -/
def loopedRequest : Request := ⟨.ubuntu, .gpu, none, Text.encode "../w/", false⟩

/-- The target that the request fails at. -/
def loopedTarget : Target := ⟨.ubuntu, "20.04", .gpu, by decide⟩

/-- Storing stops at a link to itself, with the Dockerfiles before it in place. -/
theorem run_fails_at_loop :
    let e : StorageError :=
      ⟨.create, Text.encode "../w/Dockerfile.ubuntu.20.04", .tooManyLinks⟩
    (run [[119]] loopedTree loopedRequest).failure = some (.storage loopedTarget e) ∧
      ∃ targets k, loopedRequest.targets = .ok targets ∧ targets[k]? = some loopedTarget ∧
        storeAll [[119]] loopedRequest.directory loopedTree (targets.take k) =
          .ok (run [[119]] loopedTree loopedRequest).tree := by
  intro e
  have hfail : (run [[119]] loopedTree loopedRequest).failure =
      some (.storage loopedTarget e) := by decide +kernel
  obtain ⟨targets, k, ht, hk, hs, -⟩ := run_fails_after_prefix hfail
  exact ⟨hfail, targets, k, ht, hk, hs⟩

end Generation
end DockerMatrix
