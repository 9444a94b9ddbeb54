/-
# Diagnostics do not interfere

Starts of the program that differ in the log filter, and in nothing else, accept the same arguments,
and they end alike in everything but the diagnostics (`diagnostics_do_not_interfere`).  The filter may
be given by the option or by the variable, which the environment file may set, and it may be any text,
a filter or not.  Diagnostics are printed on standard error only: the remarks about the filter and the
lines of the log at its beginning, and a span trace at the end of its error report.

Three things stand against the wish that filters decide on remarks and log lines alone.

* Reading a filter panics where an offset lies inside a character (`SplitsCharacter`), which happens only
  behind a blank that one of its texts begins with (`exists_piece_of_splitsCharacter`).
* A file that assigns a value with a NUL character to the variable for the filter is given up on, unless
  the variable is set (`AssignsNulFilter`).
* Where a Dockerfile cannot be stored, the error report has a span trace if the filter shows the span of
  storing, and none otherwise (`TracedAlike`).
-/

import DockerMatrix.Proofs.Log.Directive
import DockerMatrix.Proofs.Program.Directory
import Mathlib.Data.List.Nodup

namespace DockerMatrix

open Text (Bytes)

/-! ## Groups but for those of one setting -/

namespace Arguments

variable {t : FileTree} {here : Location} {env env' : Environment} {s s' : Setting}
  {groups groups' : List Group} {a : Arguments}

/-- The groups that are not for a setting. -/
def others (s : Setting) (groups : List Group) : List Group :=
  groups.filter fun group => group.item ≠ .setting s

/-- Leaving out the groups for one setting leaves the value of another. -/
theorem given_others (hs : s' ≠ s) (groups : List Group) :
    given s' (others s groups) = given s' groups := by
  unfold others
  induction groups with
  | nil => rfl
  | cons group groups ih =>
    rw [given_cons s' group groups, ← ih]
    by_cases hg : group.item = .setting s
    · rw [List.filter_cons_of_neg (by simpa using hg)]
      cases group with
      | setting s₀ value =>
        cases hg
        rw [given, if_neg hs.symm, given, Option.none_or]
      | dryRun => cases hg
    · rw [List.filter_cons_of_pos (by simpa using hg), given_cons]

/-- Leaving out the groups for one setting leaves the switch for a dry run. -/
theorem dryRun_mem_others : .dryRun ∈ others s groups ↔ .dryRun ∈ groups := by
  simp [others, Group.item]

/-- No option is given twice, if the setting is not and no other option is. -/
theorem nodup_of_others (hnd : ((others s groups).map Group.item).Nodup)
    (hs : (groups.map Group.item).count (.setting s) ≤ 1) : (groups.map Group.item).Nodup := by
  rw [List.nodup_iff_count_le_one]
  intro item
  by_cases hi : item = .setting s
  · rwa [hi]
  · have hothers : (others s groups).map Group.item =
        (groups.map Group.item).filter fun item => item ≠ .setting s := by
      rw [others, List.filter_map]
      rfl
    rw [← List.count_filter (p := fun item => decide (item ≠ .setting s)) (by simpa using hi),
      ← hothers]
    exact List.nodup_iff_count_le_one.1 hnd item

/-- **Arguments with another log filter mean the same**, but for the filter. -/
theorem Means.of_others {filter : Option String} (h : Means t here env groups a)
    (ho : others .logFilter groups' = others .logFilter groups)
    (hs : (groups'.map Group.item).count (.setting .logFilter) ≤ 1)
    (hd : env'.get? "OUTPUT_DIR" = env.get? "OUTPUT_DIR")
    (hf : valueOf env' groups' .logFilter = filter.map Text.encode) (hne : filter ≠ some "") :
    Means t here env' groups' { a with logFilter := filter } := by
  have hvalue : ∀ s, s ≠ .logFilter → valueOf env' groups' s = valueOf env groups s := by
    intro s hs
    rw [valueOf, valueOf, ← given_others hs groups', ho, given_others hs]
    cases s with
    | outputDirectory => exact congrArg ((given .outputDirectory groups).or ·) hd
    | logFilter => exact absurd rfl hs
    | os => rfl
    | hardware => rfl
    | osVersion => rfl
  refine ⟨nodup_of_others ?_ hs, fun s value hv => ?_, fun s => ?_, ?_⟩
  · rw [ho]
    exact h.distinct.sublist (List.filter_sublist.map _)
  · by_cases hs : s = .logFilter
    · subst hs
      obtain ⟨text, rfl, rfl⟩ := Option.map_eq_some_iff.1 (hf.symm.trans hv)
      refine ⟨fun hempty => hne (congrArg some ?_), text, rfl⟩
      exact Text.encode_injective (show Text.encode text = Text.encode "" from hempty)
    · exact h.accepted s value (hvalue s hs ▸ hv)
  · by_cases hs : s = .logFilter
    · subst hs
      exact hf.symm
    · rw [hvalue s hs, ← h.value s]
      cases s with
      | logFilter => exact absurd rfl hs
      | os => rfl
      | hardware => rfl
      | osVersion => rfl
      | outputDirectory => rfl
  · rw [← dryRun_mem_others (s := .logFilter), ho, dryRun_mem_others]
    exact h.dryRun

end Arguments

/-! ## Starts that differ in the log filter -/

/-- No line of the environment file in force refers to a variable. -/
def World.NeverRefersTo (w : World) (name : String) : Prop :=
  ∀ line, .ok line ∈ w.environmentLines → ¬Environment.RefersTo name line

namespace Program

open Arguments (Group Spells others valueOf Means means_of_read read_of_means)

variable {w : World} {env env' loaded : Environment} {arguments : List Bytes}
  {groups : List Group} {a : Arguments} {filter : Option String}

/-- What the program is started with in a world. -/
structure Start where
  environment : Environment
  arguments : List Bytes

/-- How the program ends after a start. -/
def Start.ending (w : World) (s : Start) : Ending :=
  run w s.environment s.arguments

variable {s : Start}

/-- A start is like another one but for the log filter.  The environments differ in `LOG_LEVEL` at
most, and the groups that spell the arguments in those for `--log-level`, of which there is one at
most.  The environment file can be used, and then the option, or else the variable, has the text of
the filter; neither is set if there is none. -/
structure HasFilter (w : World) (env : Environment) (groups : List Group) (filter : Option String)
    (s : Start) : Prop where
  environment : Environment.SameBut "LOG_LEVEL" env s.environment
  filter : ∃ loaded groups', Loads w s.environment loaded ∧ Spells groups' s.arguments ∧
    others .logFilter groups' = others .logFilter groups ∧
    (groups'.map Group.item).count (.setting .logFilter) ≤ 1 ∧
    valueOf loaded groups' .logFilter = filter.map Text.encode

/-- A start whose arguments are accepted, and what they ask for. -/
def Start.AcceptedAs (w : World) (s : Start) (a : Arguments) : Prop :=
  ∃ loaded, Loads w s.environment loaded ∧ Accepts w loaded s.arguments a

/-- The program has been given up over a panic, and nothing has been done. -/
def IsAbandoned (w : World) (e : Ending) : Prop :=
  e.exit = .signal 6 ∧ e.output = "" ∧ e.chain = [] ∧ e.tree w.tree = w.tree

/-- The environment file in force assigns a value with a NUL character to `LOG_LEVEL`. -/
def AssignsNulFilter (w : World) (env : Environment) : Prop :=
  ∃ b ∈ w.assignments env, b.name = "LOG_LEVEL" ∧ '\x00' ∈ b.value.toList

/-- The lines about the log filter and of the log, as they are printed. -/
def Ending.diagnostics (e : Ending) : String :=
  String.join ((e.remarks.map Log.Remark.message ++ e.logLines).map (· ++ "\n"))

/-- Two endings that are the same but for the diagnostics: on standard error, the lines that it begins
with and the span trace that it ends with may differ. -/
structure SameButDiagnostics (e e' : Ending) : Prop where
  exit : e.exit = e'.exit
  output : e.output = e'.output
  tree : ∀ before, e.tree before = e'.tree before
  chain : e.chain = e'.chain
  errorOutput : ∃ rest, e.errorOutput = e.diagnostics ++ rest ++ e.spanTrace ∧
    e'.errorOutput = e'.diagnostics ++ rest ++ e'.spanTrace

/-- Two filters show the same of a failure: both show the span in which a Dockerfile cannot be stored,
or neither does. -/
def TracedAlike (read read' : Log.Filter) (o : Generation.Outcome) : Prop :=
  ∀ target e, o.failure = some (.storage target e) →
    read.shows target.artifact.writing = read'.shows target.artifact.writing

/-- What the environment file in force makes of another environment, if it can be used in one. -/
theorem inDirectory_eq (hl : Loads w env loaded) (env' : Environment) :
    env'.inDirectory w.tree w.workingDirectory =
      (env'.assignmentsIn w.environmentLines).map fun found =>
        found.foldl Environment.adopt env' := by
  unfold Loads Environment.inDirectory at hl
  unfold Environment.inDirectory World.environmentLines
  cases hfile : w.tree.environmentFile? w.workingDirectory with
  | error e =>
    rw [hfile] at hl
    cases hl
  | ok file => cases file <;> rfl

/-- **The environment file can be used in all environments that differ in the log filter**, unless it
assigns a value with a NUL character to the variable. -/
theorem exists_loads (hr : w.NeverRefersTo "LOG_LEVEL") (hl : Loads w env loaded)
    (h : Environment.SameBut "LOG_LEVEL" env env') :
    (∃ loaded', Loads w env' loaded' ∧ Environment.SameBut "LOG_LEVEL" loaded loaded') ∨
      AssignsNulFilter w env ∧
        ∃ bad, env'.inDirectory w.tree w.workingDirectory = .error (.nulCharacter bad) := by
  obtain ⟨hfound, rfl⟩ := hl.spec
  rcases h.assignmentsIn hr hfound with hf | ⟨bad, hbad, hf, hnul⟩
  · refine Or.inl ⟨_, ?_, h.foldl_adopt rfl⟩
    rw [Loads, inDirectory_eq hl, hf]
    rfl
  · refine Or.inr ⟨⟨bad, hbad, hnul⟩, bad, ?_⟩
    rw [inDirectory_eq hl, hf]
    rfl

/-- **Arguments are accepted under any log filter**, and ask for the same but for the filter. -/
theorem HasFilter.accepted (hr : w.NeverRefersTo "LOG_LEVEL") (hl : Loads w env loaded)
    (hg : Spells groups arguments) (ha : Accepts w loaded arguments a)
    (h : HasFilter w env groups filter s) (hne : filter ≠ some "") :
    ∃ loaded', Loads w s.environment loaded' ∧
      Accepts w loaded' s.arguments { a with logFilter := filter } ∧
      loaded'.showsColor = loaded.showsColor := by
  obtain ⟨loaded', groups', hl', hg', ho, hs, hf⟩ := h.filter
  have hsame : Environment.SameBut "LOG_LEVEL" loaded loaded' := by
    rcases exists_loads hr hl h.environment with ⟨loaded₁, hl₁, hsame⟩ | ⟨-, bad, hnul⟩
    · obtain rfl : loaded' = loaded₁ := Except.ok.inj (hl'.symm.trans hl₁)
      exact hsame
    · exact absurd (hl'.symm.trans hnul) nofun
  refine ⟨loaded', hl', ?_, (hsame.showsColor_eq_of_notMem (by decide +kernel)).symm⟩
  exact read_of_means hg' ((means_of_read hg ha).of_others ho hs
    (hsame.get?_eq (by decide)).symm hf hne)

/-! ## Endings -/

/-- A request is carried out alike under all filters. -/
theorem sameButDiagnostics_carriedOut (remarks remarks' : List Log.Remark)
    (filter filter' : Log.Filter) (colored : Bool) (o : Generation.Outcome) :
    SameButDiagnostics (.carriedOut remarks filter colored o)
      (.carriedOut remarks' filter' colored o) := by
  have herror : ∀ remarks filter, (Ending.carriedOut remarks filter colored o).errorOutput =
      (Ending.carriedOut remarks filter colored o).diagnostics ++
        (Status.printed .error colored (Ending.carriedOut [] .standard colored o).messages ++
          (Ending.carriedOut [] .standard colored o).chainReport) ++
        (Ending.carriedOut remarks filter colored o).spanTrace := by
    intro remarks filter
    rw [String.append_assoc, String.append_assoc, ← String.append_assoc]
    rfl
  exact ⟨rfl, rfl, fun _ => rfl, rfl, _, herror remarks filter, herror remarks' filter'⟩

/-- **Span traces differ where one filter shows the span of a failure** and the other one does not. -/
theorem spanTrace_eq_iff (remarks remarks' : List Log.Remark) (read read' : Log.Filter)
    (colored : Bool) (o : Generation.Outcome) :
    (Ending.carriedOut remarks read colored o).spanTrace =
        (Ending.carriedOut remarks' read' colored o).spanTrace ↔ TracedAlike read read' o := by
  obtain ⟨tree, messages, events, failure⟩ := o
  rcases failure with _ | (e | ⟨target, e⟩)
  · exact iff_of_true rfl nofun
  · exact iff_of_true rfl nofun
  · have hspan : ∀ remarks (read : Log.Filter), (Ending.carriedOut remarks read colored
        ⟨tree, messages, events, some (.storage target e)⟩).tracedSpan =
          if read.shows target.artifact.writing then some target.artifact.writing else none :=
      fun _ read => Option.filter_some
    have halike : TracedAlike read read' ⟨tree, messages, events, some (.storage target e)⟩ ↔
        read.shows target.artifact.writing = read'.shows target.artifact.writing := by
      refine ⟨fun h => h target e rfl, fun h target' e' he => ?_⟩
      obtain ⟨rfl, -⟩ := Generation.Failure.storage.inj (Option.some.inj he)
      exact h
    rw [halike, Ending.spanTrace, Ending.spanTrace, hspan, hspan]
    cases read.shows target.artifact.writing <;> cases read'.shows target.artifact.writing <;> simp

/-- A start whose filter can be read is carried out, in the colors of the environment. -/
theorem HasFilter.ending_eq (hr : w.NeverRefersTo "LOG_LEVEL") (hl : Loads w env loaded)
    (hg : Spells groups arguments) (ha : Accepts w loaded arguments a)
    (h : HasFilter w env groups filter s) (hne : filter ≠ some "")
    (hs : ¬SplitsCharacter { a with logFilter := filter }) :
    ∃ read, (Log.Filter.read filter).filter = .ok read ∧
      s.ending w = .carriedOut (Log.Filter.read filter).remarks read loaded.showsColor
        (outcome w a) := by
  obtain ⟨loaded', hl', ha', hcolor⟩ := h.accepted hr hl hg ha hne
  obtain ⟨read, hread⟩ := exists_filter_read_eq_ok hs
  refine ⟨read, hread, ?_⟩
  rw [Start.ending, run_of_accepts hl' ha', ← hcolor, carryOut, hread]
  rfl

/-- After a panic nothing has been done. -/
theorem isAbandoned_abandoned (w : World) (remarks : List Log.Remark) (panic : Panic) :
    IsAbandoned w (.abandoned remarks panic) := ⟨rfl, rfl, rfl, rfl⟩

/-- **Reading a filter is given up only over a text that begins with a blank** and has a character
which is not ASCII. -/
theorem exists_piece_of_splitsCharacter (hs : SplitsCharacter a) :
    ∃ text, a.logFilter = some text ∧ ∃ piece ∈ Log.Filter.pieces [] text.toList,
      (∃ c rest, piece = c :: rest ∧ Text.isBlank c) ∧ ∃ c ∈ piece, 0x80 ≤ c.toNat := by
  obtain ⟨text, htext, piece, hm, panic, hsplit⟩ := hs
  exact ⟨text, htext, piece, hm, Log.Directive.begins_blank_of_splitCharacter hsplit⟩

/-- **Diagnostics do not interfere.**  Where no line of the environment file refers to the variable
for the log filter and arguments are accepted, they are accepted under any other filter that is not
empty, and ask for the same.  Two starts that differ in the filter end alike in everything but the
diagnostics, unless reading one of the filters panics, which takes a text of it that begins with a
blank; and the environment file can be used under any filter, unless it assigns a value with a NUL
character to the variable.  Of the diagnostics, the span traces are the same if and only if both filters
show the span in which storing fails, or neither does, or storing does not fail. -/
theorem diagnostics_do_not_interfere (hr : w.NeverRefersTo "LOG_LEVEL") (hl : Loads w env loaded)
    (hg : Spells groups arguments) (ha : Accepts w loaded arguments a) :
    (∀ env', Environment.SameBut "LOG_LEVEL" env env' → (∃ loaded', Loads w env' loaded') ∨
      AssignsNulFilter w env ∧ ∀ arguments', IsAbandoned w (run w env' arguments')) ∧
    (∀ filter s, filter ≠ some "" → HasFilter w env groups filter s →
      s.AcceptedAs w { a with logFilter := filter } ∧
      (SplitsCharacter { a with logFilter := filter } → IsAbandoned w (s.ending w) ∧
        ∃ text, filter = some text ∧ ∃ piece ∈ Log.Filter.pieces [] text.toList,
          (∃ c rest, piece = c :: rest ∧ Text.isBlank c) ∧ ∃ c ∈ piece, 0x80 ≤ c.toNat)) ∧
    ∀ filter filter' s s', filter ≠ some "" → filter' ≠ some "" →
      HasFilter w env groups filter s → HasFilter w env groups filter' s' →
      ¬SplitsCharacter { a with logFilter := filter } →
      ¬SplitsCharacter { a with logFilter := filter' } →
      SameButDiagnostics (s.ending w) (s'.ending w) ∧
      ∃ read read', (Log.Filter.read filter).filter = .ok read ∧
        (Log.Filter.read filter').filter = .ok read' ∧
        ((s.ending w).spanTrace = (s'.ending w).spanTrace ↔ TracedAlike read read' (outcome w a)) := by
  refine ⟨fun env' h => ?_, fun filter s hne h => ⟨?_, fun hs => ?_⟩, ?_⟩
  · rcases exists_loads hr hl h with ⟨loaded', hl', -⟩ | ⟨hnul, bad, herror⟩
    · exact Or.inl ⟨loaded', hl'⟩
    · refine Or.inr ⟨hnul, fun arguments' => ?_⟩
      rw [run_of_nul herror]
      exact isAbandoned_abandoned ..
  · obtain ⟨loaded', hl', ha', -⟩ := h.accepted hr hl hg ha hne
    exact ⟨loaded', hl', ha'⟩
  · obtain ⟨loaded', hl', ha', -⟩ := h.accepted hr hl hg ha hne
    obtain ⟨remarks, panic, hending⟩ := @carryOut_of_splits w loaded' _ hs
    rw [Start.ending, run_of_accepts hl' ha', hending]
    exact ⟨isAbandoned_abandoned .., exists_piece_of_splitsCharacter hs⟩
  · intro filter filter' s s' hne hne' h h' hs hs'
    obtain ⟨read, hread, he⟩ := h.ending_eq hr hl hg ha hne hs
    obtain ⟨read', hread', he'⟩ := h'.ending_eq hr hl hg ha hne' hs'
    rw [he, he']
    exact ⟨sameButDiagnostics_carriedOut .., read, read', hread, hread', spanTrace_eq_iff ..⟩

/-- Arguments without the option for the filter, and the groups that they are. -/
def unfilteredArguments : List Bytes :=
  ["-o", "ubuntu", "--target=cpu"].map Text.encode

def unfilteredGroups : List Group :=
  [.setting .os (Text.encode "ubuntu"), .setting .hardware (Text.encode "cpu")]

/-- The file of this world holds no reference at all. -/
theorem shadowedWorld_neverRefersTo : shadowedWorld.NeverRefersTo "LOG_LEVEL" := by
  have hlines : shadowedWorld.environmentLines =
      [.ok "OUTPUT_DIR=/w".toList, .ok "LOG_LEVEL=$LEVEL".toList] := by decide +kernel
  have hdirectory : Environment.parts "OUTPUT_DIR=/w".toList =
      .ok (some ("OUTPUT_DIR", "/w".toList)) := by decide +kernel
  have hfilter : Environment.parts "LOG_LEVEL=$LEVEL".toList =
      .ok (some ("LOG_LEVEL", "$LEVEL".toList)) := by decide +kernel
  unfold World.NeverRefersTo
  rw [hlines]
  rintro line (_ | ⟨_, _ | ⟨_, _ | _⟩⟩)
  · refine Environment.not_refersTo_of_parts hdirectory ?_
    unfold Environment.Reaches
    decide +kernel
  · refine Environment.not_refersTo_of_parts hfilter ?_
    unfold Environment.Reaches
    decide +kernel

/-- A filter of the variable, of which one text is no directive, and a filter of the option. -/
theorem diagnostics_do_not_interfere_shadowed :
    let a : Arguments := ⟨.ubuntu, .cpu, none, some (Text.encode "/w"), false, some "info"⟩
    let named : Start :=
      ⟨shadowedEnvironment.set "LOG_LEVEL" (Text.encode "trace,é=x"), unfilteredArguments⟩
    let given : Start :=
      ⟨shadowedEnvironment, ["-o", "ubuntu", "--target=cpu", "--log-level=off"].map Text.encode⟩
    shadowedWorld.NeverRefersTo "LOG_LEVEL" ∧ Spells unfilteredGroups unfilteredArguments ∧
      (∃ loaded, Loads shadowedWorld shadowedEnvironment loaded ∧
        Accepts shadowedWorld loaded unfilteredArguments a) ∧
      HasFilter shadowedWorld shadowedEnvironment unfilteredGroups (some "trace,é=x") named ∧
      HasFilter shadowedWorld shadowedEnvironment unfilteredGroups (some "off") given ∧
      SameButDiagnostics (named.ending shadowedWorld) (given.ending shadowedWorld) ∧
      (named.ending shadowedWorld).diagnostics ≠ (given.ending shadowedWorld).diagnostics := by
  intro a named given
  have hr := shadowedWorld_neverRefersTo
  have hl : Loads shadowedWorld shadowedEnvironment
      (shadowedEnvironment.set "LOG_LEVEL" (Text.encode "info")) := by
    unfold Loads
    decide +kernel
  have hl' : Loads shadowedWorld named.environment named.environment := by
    unfold Loads
    decide +kernel
  have hg : Spells unfilteredGroups unfilteredArguments :=
    .cons (.separate (.letter 'o' rfl) (Or.inl (by decide))) (.cons (.attached (.nameEquals _)) .nil)
  have hg' : Spells [.setting .os (Text.encode "ubuntu"), .setting .hardware (Text.encode "cpu"),
      .setting .logFilter (Text.encode "off")] given.arguments :=
    .cons (.separate (.letter 'o' rfl) (Or.inl (by decide))) (.cons (.attached (.nameEquals _))
      (.cons (.attached (.nameEquals _)) .nil))
  have ha : Accepts shadowedWorld (shadowedEnvironment.set "LOG_LEVEL" (Text.encode "info"))
      unfilteredArguments a := by
    unfold Accepts
    decide +kernel
  have hvariable : HasFilter shadowedWorld shadowedEnvironment unfilteredGroups
      (some "trace,é=x") named :=
    ⟨rfl, _, _, hl', hg, rfl, by decide, by decide +kernel⟩
  have hoption : HasFilter shadowedWorld shadowedEnvironment unfilteredGroups (some "off") given :=
    ⟨rfl, _, _, hl, hg', by decide +kernel, by decide, by decide +kernel⟩
  have hread : ∀ text ∈ ["trace,é=x", "off"],
      ¬SplitsCharacter { a with logFilter := some text } := by
    have hread : ∀ text ∈ ["trace,é=x", "off"],
        (Log.Filter.read (some text)).filter.toOption.isSome := by
      decide +kernel
    intro text hm hs
    obtain ⟨panic, hpanic⟩ := exists_filter_read_eq_error_iff.2 hs
    have hsome := hread text hm
    rw [show (Log.Filter.read (some text)).filter = _ from hpanic] at hsome
    cases hsome
  obtain ⟨-, -, hsame⟩ := diagnostics_do_not_interfere hr hl hg ha
  refine ⟨hr, hg, ⟨_, hl, ha⟩, hvariable, hoption, ?_, by decide +kernel⟩
  exact (hsame _ _ _ _ (by decide) (by decide) hvariable hoption (hread _ (by decide))
    (hread _ (by decide))).1

/-- A directory in the place of a Dockerfile, which cannot be stored there. -/
def obstructedWorld : World where
  tree := ⟨[([[119]], .directory), ([Text.encode "Dockerfile.ubuntu.20.04", [119]], .directory)]⟩
  workingDirectory := [[119]]
  programDirectory := Text.encode "/w"

/-- Arguments that ask for that Dockerfile. -/
def obstructedArguments : List Bytes :=
  ["-o", "ubuntu", "-t", "gpu", "--os-version", "20.04"].map Text.encode

/-- Two ways in which the filter interferes.  Arguments are accepted with the filter that `blankFilter`
ends with and without it, but with it the program is given up.  And where a Dockerfile cannot be stored,
the error report has a span trace under the filter `info` and none without a filter. -/
theorem filter_interferes :
    let w : World := { nulWorld with tree := ⟨[([[119]], .directory)]⟩ }
    let plain : Start := ⟨Environment.empty, blankFilter.take 4⟩
    let filtered : Start := ⟨Environment.empty, blankFilter⟩
    let a : Arguments := ⟨.windows, .cpu, none, none, false, none⟩
    let silent := run obstructedWorld Environment.empty obstructedArguments
    let traced := run obstructedWorld Environment.empty
      (obstructedArguments ++ ["--log-level", "info"].map Text.encode)
    w.NeverRefersTo "LOG_LEVEL" ∧ plain.AcceptedAs w a ∧
      filtered.AcceptedAs w { a with logFilter := some " é=x" } ∧
      (plain.ending w).exit = .status 0 ∧ (filtered.ending w).exit = .signal 6 ∧
      (plain.ending w).output ≠ (filtered.ending w).output ∧
      silent.exit = .status 1 ∧ traced.exit = .status 1 ∧
      silent.spanTrace = "" ∧ traced.spanTrace ≠ "" := by
  intro w plain filtered a silent traced
  have hlines : w.environmentLines = [] := by decide +kernel
  have hl : Loads w Environment.empty Environment.empty := by
    unfold Loads
    decide +kernel
  refine ⟨fun line hm => ?_, ⟨_, hl, ?_⟩, ⟨_, hl, ?_⟩, by decide +kernel, by decide +kernel,
    by decide +kernel, by decide +kernel, by decide +kernel, by decide +kernel, by decide +kernel⟩
  · rw [hlines] at hm
    cases hm
  · unfold Accepts
    decide +kernel
  · unfold Accepts
    decide +kernel

end Program
end DockerMatrix
