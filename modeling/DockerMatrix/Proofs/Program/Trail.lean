/-
# The trail of a run

The log tells what a run did (`log_tells_run`).  Under the filter `trace` it has one event for the
beginning, one for every target that was attempted, and one more behind it for every target whose
Dockerfile was stored; so it tells a dry run from one that stores, and the target at which a run fails
from those before it (`exists_trail_run`).  Under any other filter it has some of these events, in the
same order, and it has none where no filter is given or no directive is found in it.
-/

import DockerMatrix.Proofs.Program.Ending

namespace DockerMatrix

open Log (Event Level)

/-! ## Events that a filter shows -/

namespace Log

/-- An event without the span that it happens in. -/
def Event.unspanned (e : Event) : Event := { e with span := none }

namespace Filter

/-- A filter that sets one level for everything shows the events of that level. -/
theorem passes_uniform (level : Level) (e : Event) : (uniform level).passes e = level.admits e.level := by
  have hlocal : ∀ span : Span, ((uniform level).levels.any fun d =>
      d.1.isLocal && d.1.isSatisfiedBy span && d.2.admits e.level) = false := fun _ => rfl
  have hgeneral : ((uniform level).generalLevel fun s => s.covers e) = level := rfl
  rw [passes, hgeneral]
  cases e.span with
  | none => exact Bool.or_false _
  | some span =>
    dsimp only
    rw [hlocal, Bool.or_false]

/-- The text `trace` is the filter that shows everything. -/
theorem filter_read_trace : (read (some "trace")).filter = .ok (uniform .trace) := by decide

/-- That filter shows everything. -/
theorem filter_passes_trace (events : List Event) : events.filter (uniform .trace).passes = events := by
  refine List.filter_eq_self.2 fun e _ => ?_
  rw [passes_uniform]
  cases e.level <;> rfl

/-- Texts that are no directives leave a filter as it was, unless reading them panics. -/
theorem filter_readFrom_of_no_directive (f : Filter) {texts : List (List Char)}
    (h : ∀ text ∈ texts, ∀ d, Directive.ofText text ≠ .ok d) :
    (∃ panic, (f.readFrom texts).filter = .error panic) ∨
      (f.readFrom texts).filter = .ok (if f.levels.isEmpty then standard else f) := by
  induction texts with
  | nil => exact Or.inr rfl
  | cons text rest ih =>
    have hrest := ih fun text' hm => h text' (List.mem_cons_of_mem _ hm)
    rw [readFrom]
    cases hd : Directive.ofText text with
    | ok d => exact absurd hd (h text (List.mem_cons_self ..) d)
    | error problem =>
      cases problem with
      | splitCharacter panic => exact Or.inl ⟨panic, rfl⟩
      | malformed => exact hrest
      | unknownLevel => exact hrest
      | unusableValue e => exact hrest

end Filter
end Log

/-! ## What a run leaves in the log -/

namespace Generation

variable {here : Location} {tree : FileTree} {r : Request} {o : Outcome}
  {stored unstored : List Target} {e : Event}

/-- A run begins, with what it is asked for. -/
def beginning (r : Request) : Event where
  source := "dockergen"
  level := .info
  message := "starting generation"
  fields :=
    [⟨"os", r.os.name⟩, ⟨"hardware", r.hardware.name⟩, ⟨"directory", Path.display r.directory⟩,
     ⟨"dry_run", toString r.dryRun⟩]
  span := none

/-- The Dockerfile of a target is composed, with its size in bytes. -/
def composition (target : Target) : Event where
  source := "dockergen::composer"
  level := .debug
  message := "composed dockerfile"
  fields := [⟨"bytes", toString target.dockerfile.utf8ByteSize⟩]
  span := none

/-- The Dockerfile of a target is stored, with its path and its size. -/
def storing (r : Request) (target : Target) : Event where
  source := "dockergen::output"
  level := .debug
  message := "stored dockerfile"
  fields :=
    [⟨"path", Path.display (Path.join r.directory (Text.encode target.fileName))⟩,
     ⟨"bytes", toString target.dockerfile.utf8ByteSize⟩]
  span := none

/-- The events of a run that has stored the Dockerfiles of some targets and composed those of others
behind them. -/
def trail (r : Request) (stored unstored : List Target) : List Event :=
  beginning r ::
    (stored.flatMap (fun target => [composition target, storing r target]) ++
      unstored.map composition)

/-- What a run did: it stored the Dockerfiles of some targets, one after the other, and those of
others behind them were attempted and not stored. -/
structure WorkedThrough (here : Location) (tree : FileTree) (r : Request) (o : Outcome)
    (stored unstored : List Target) : Prop where
  /-- The files are what storing has made of them. -/
  tree : storeAll here r.directory tree stored = .ok o.tree
  /-- No target is attempted for a version that is not registered. -/
  refused : ∀ e, r.targets = .error e → stored = [] ∧ unstored = []
  dry : r.dryRun = true → ∀ targets, r.targets = .ok targets → stored = [] ∧ unstored = targets
  complete : r.dryRun = false → ∀ targets, r.targets = .ok targets → o.failure = none →
    stored = targets ∧ unstored = []
  /-- A run fails at the one target that it has attempted and not stored. -/
  broken : ∀ targets, r.targets = .ok targets → ∀ f, o.failure = some f →
    ∃ target e, f = .storage target e ∧ unstored = [target] ∧ stored ++ [target] <+: targets ∧
      target.artifact.store o.tree here r.directory = .error e

/-- Apart from its span, composing a Dockerfile logs the composition of its target. -/
theorem unspanned_composed (target : Target) :
    target.artifact.composed.unspanned = composition target := by
  have hsize : target.artifact.bytes.length = target.dockerfile.utf8ByteSize :=
    Text.length_encode target.dockerfile
  unfold Event.unspanned Artifact.composed Artifact.sizeField composition
  rw [hsize]

/-- Apart from its span, storing a Dockerfile logs the storing of its target. -/
theorem unspanned_stored (r : Request) (target : Target) :
    (target.artifact.stored r.directory).unspanned = storing r target := by
  have hsize : target.artifact.bytes.length = target.dockerfile.utf8ByteSize :=
    Text.length_encode target.dockerfile
  unfold Event.unspanned Artifact.stored Artifact.sizeField storing
  rw [hsize]
  rfl

/-- Apart from its span, the beginning of a run logs what is asked for. -/
theorem unspanned_started (r : Request) : r.started.unspanned = beginning r := by
  unfold Event.unspanned Request.started beginning
  cases r.dryRun <;> rfl

/-- The events that a run notes for targets, and then for others, are its trail. -/
theorem map_unspanned_eq (r : Request) (stored unstored : List Target) :
    (r.started :: (stored.flatMap (noting r) ++ unstored.map fun t => t.artifact.composed)).map
      Event.unspanned = trail r stored unstored := by
  have hnoting : ∀ target, (noting r target).map Event.unspanned =
      [composition target, storing r target] := fun target => by
    rw [noting, List.map_cons, List.map_singleton, unspanned_composed, unspanned_stored]
  have hcomposed : (Event.unspanned ∘ fun t : Target => t.artifact.composed) = composition :=
    funext unspanned_composed
  simp only [List.map_cons, List.map_append, List.map_flatMap, hnoting, List.map_map, hcomposed,
    unspanned_started, trail]

/-- **A run leaves the trail of what it did.** -/
theorem exists_trail_run (here : Location) (tree : FileTree) (r : Request) :
    ∃ stored unstored, WorkedThrough here tree r (run here tree r) stored unstored ∧
      (run here tree r).events.map Event.unspanned = trail r stored unstored := by
  have hc := run_course here tree r
  generalize run here tree r = o at hc ⊢
  cases hc with
  | refused e ht =>
    refine ⟨[], [], ?_, map_unspanned_eq r [] []⟩
    have hno : ∀ targets, r.targets ≠ .ok targets := by simp [ht]
    exact ⟨rfl, fun _ _ => ⟨rfl, rfl⟩, fun _ targets h => absurd h (hno targets),
      fun _ targets h => absurd h (hno targets), fun targets h => absurd h (hno targets)⟩
  | printed targets ht hdry =>
    refine ⟨[], targets, ?_, map_unspanned_eq r [] targets⟩
    exact ⟨rfl, by simp [ht], fun _ targets' h => ⟨rfl, Except.ok.inj (ht.symm.trans h)⟩,
      by simp [hdry], fun _ _ _ => nofun⟩
  | stored targets tree' ht hdry hs =>
    refine ⟨targets, [], ?_, ?_⟩
    · exact ⟨hs, by simp [ht], by simp [hdry],
        fun _ targets' h _ => ⟨Except.ok.inj (ht.symm.trans h), rfl⟩, fun _ _ _ => nofun⟩
    · rw [← map_unspanned_eq, List.map_nil, List.append_nil]
  | broken before target after tree' e ht hdry hs he =>
    refine ⟨before, [target], ?_, map_unspanned_eq r before [target]⟩
    refine ⟨hs, by simp [ht], by simp [hdry], fun _ _ _ => nofun, ?_⟩
    intro targets h f hf
    obtain rfl := Except.ok.inj (ht.symm.trans h)
    exact ⟨target, e, (Option.some.inj hf).symm, rfl, ⟨after, by simp⟩, he⟩

/-- No event of a run is a warning or an error. -/
theorem level_of_mem_trail (h : e ∈ trail r stored unstored) :
    e.level = .info ∨ e.level = .debug := by
  simp only [trail, List.mem_cons, List.mem_append, List.mem_flatMap, List.mem_map,
    List.not_mem_nil, or_false] at h
  rcases h with rfl | ⟨target, -, rfl | rfl⟩ | ⟨target, -, rfl⟩
  · exact Or.inl rfl
  all_goals exact Or.inr rfl

/-- So the filter that counts where none is given shows nothing of a run. -/
theorem filter_passes_standard {events : List Event}
    (h : events.map Event.unspanned = trail r stored unstored) :
    events.filter Log.Filter.standard.passes = [] := by
  refine List.filter_eq_nil_iff.2 fun e he => ?_
  have hmem : e.unspanned ∈ trail r stored unstored := h ▸ List.mem_map_of_mem he
  rw [Log.Filter.standard, Log.Filter.passes_uniform]
  rcases level_of_mem_trail hmem with hlevel | hlevel <;> rw [show e.level = _ from hlevel] <;> decide

end Generation

namespace Program

open Generation Log

variable {w : World} {env loaded : Environment} {arguments : List Text.Bytes} {a : Arguments}

/-- A text in which there is no directive. -/
def NoDirective (filter : String) : Prop :=
  ∀ text ∈ Filter.pieces [] filter.toList, ∀ d, Directive.ofText text ≠ .ok d

/-- The events that are shown are those of the run that pass the filter, if there is one. -/
theorem events_carryOut (w : World) (env : Environment) (a : Arguments) :
    (carryOut w env a).events =
      match (Filter.read a.logFilter).filter with
      | .error _ => []
      | .ok filter => (outcome w a).events.filter filter.passes := by
  unfold carryOut
  dsimp only
  cases (Filter.read a.logFilter).filter <;> rfl

/-- Without a directive, the filter is the one that counts where none is given, unless reading it
panics. -/
theorem filter_read_of_noDirective {filter : Option String} (h : ∀ text ∈ filter, NoDirective text) :
    (∃ panic, (Filter.read filter).filter = .error panic) ∨
      (Filter.read filter).filter = .ok Filter.standard := by
  cases filter with
  | none => exact Or.inr rfl
  | some text => exact Filter.filter_readFrom_of_no_directive ⟨[], .off⟩ (h text rfl)

/-- **The log tells what a run did.**  Under the filter `trace` it is the trail of the targets that are
stored and of those that are attempted and not stored; under any filter it has events of that trail, in
its order; and it has none without a filter, or under one without a directive. -/
theorem log_tells_run (w : World) (a : Arguments) :
    ∃ stored unstored,
      WorkedThrough w.workingDirectory w.tree (Request.ofArguments w.programDirectory a)
        (outcome w a) stored unstored ∧
      ∀ env loaded arguments filter, Loads w env loaded →
        Accepts w loaded arguments { a with logFilter := filter } →
        let shown := (run w env arguments).events.map Event.unspanned
        let whole := trail (Request.ofArguments w.programDirectory a) stored unstored
        (filter = some "trace" → shown = whole) ∧ shown.Sublist whole ∧
          ((∀ text ∈ filter, NoDirective text) → shown = []) := by
  obtain ⟨stored, unstored, hworked, htrail⟩ := exists_trail_run w.workingDirectory w.tree
    (Request.ofArguments w.programDirectory a)
  refine ⟨stored, unstored, hworked, fun env loaded arguments filter hl ha => ?_⟩
  intro shown whole
  have hwhole : (outcome w a).events.map Event.unspanned = whole := htrail
  have hshown : (run w env arguments).events = match (Filter.read filter).filter with
      | .error _ => []
      | .ok f => (outcome w a).events.filter f.passes := by
    rw [run_of_accepts hl ha]
    exact events_carryOut w loaded { a with logFilter := filter }
  refine ⟨fun htrace => ?_, ?_, fun hno => ?_⟩
  · rw [htrace, Filter.filter_read_trace] at hshown
    dsimp only at hshown
    rw [Filter.filter_passes_trace] at hshown
    exact (congrArg (List.map Event.unspanned) hshown).trans hwhole
  · rw [← hwhole]
    refine List.Sublist.map _ ?_
    rw [hshown]
    cases (Filter.read filter).filter with
    | error panic => exact List.nil_sublist _
    | ok f => exact List.filter_sublist
  · refine List.map_eq_nil_iff.2 (hshown.trans ?_)
    rcases filter_read_of_noDirective hno with ⟨panic, hread⟩ | hread <;> rw [hread]
    exact filter_passes_standard hwhole

/-- A root directory where a directory has the name of the second Dockerfile for Ubuntu. -/
def blockedWorld : World :=
  ⟨⟨[([Text.encode "Dockerfile.ubuntu.20.04"], .directory)]⟩, [], [Path.slash]⟩

/-- The run that fails there at its second target leaves four events. -/
theorem log_tells_run_blocked :
    let a : Arguments := ⟨.ubuntu, .gpu, none, none, false, some "trace"⟩
    let arguments := ["-o", "ubuntu", "-t", "gpu", "--log-level", "trace"].map Text.encode
    let events := (run blockedWorld Environment.empty arguments).events
    Loads blockedWorld Environment.empty Environment.empty ∧
      Accepts blockedWorld Environment.empty arguments a ∧ events.length = 4 ∧
      ∃ stored unstored, (unstored.map Target.version = ["20.04"]) ∧
        events.map Event.unspanned =
          trail (Request.ofArguments blockedWorld.programDirectory a) stored unstored := by
  intro a arguments events
  have hl : Loads blockedWorld Environment.empty Environment.empty := by
    unfold Loads
    decide +kernel
  have ha : Accepts blockedWorld Environment.empty arguments a := by
    unfold Accepts
    decide +kernel
  have hfails : ((outcome blockedWorld a).failure.map fun
      | .storage target _ => target.version
      | .unregistered _ => "") = some "20.04" := by decide +kernel
  refine ⟨hl, ha, by decide +kernel, ?_⟩
  obtain ⟨stored, unstored, hworked, hshown⟩ := log_tells_run blockedWorld a
  obtain ⟨f, hf, hversion⟩ := Option.map_eq_some_iff.1 hfails
  obtain ⟨target, e, rfl, rfl, -, -⟩ := hworked.broken _ rfl f hf
  exact ⟨stored, [target], congrArg (fun version => [version]) hversion,
    (hshown Environment.empty Environment.empty arguments (some "trace") hl ha).1 rfl⟩

end Program
end DockerMatrix
