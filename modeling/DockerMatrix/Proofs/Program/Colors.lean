/-
# Colors are only decoration

Whether the streams show colors decides nothing but whether color sequences are printed
(`colors_only_decorate`).  Any messages print the same without them (`Status.strip_printed`), so does
a run, whatever its directory is called, and so does the program from the environment on, with its log
lines and its report (`sameButColors_carryOut`).  Dockerfiles that a dry run prints are plain messages
and have no color to lose.
-/

import DockerMatrix.Proofs.Program.Ending
import DockerMatrix.Proofs.Status.Decoration

namespace DockerMatrix

open Status (Message printed)
open Text (strip EndsLine)

/-! ## Runs -/

namespace Generation

/-- A run has nothing for standard error. -/
theorem printed_error_run (here : Location) (tree : FileTree) (r : Request) (colored : Bool) :
    (run here tree r).printed .error colored = "" := by
  have hnone : ∀ ms : List Message, (∀ m ∈ ms, m.tone.stream = .output) →
      printed .error colored ms = "" := by
    intro ms h
    induction ms with
    | nil => exact Status.printed_nil ..
    | cons m ms ih =>
      have hm : m.on .error colored = "" :=
        if_neg (by rw [h m (List.mem_cons_self ..)]; decide)
      rw [Status.printed_cons, hm, String.empty_append,
        ih fun m' hm' => h m' (List.mem_cons_of_mem _ hm')]
  exact hnone _ fun _ => stream_of_mem_run

/-- **A dry run prints every Dockerfile as it is**, with colors or without. -/
theorem exists_printed_eq_of_dryRun {r : Request} {targets : List Target} {target : Target}
    (here : Location) (tree : FileTree) (hdry : r.dryRun = true) (ht : r.targets = .ok targets)
    (hm : target ∈ targets) :
    ∃ before after, ∀ colored, (run here tree r).printed .output colored =
      printed .output colored before ++ (target.dockerfile ++ "\n") ++
        printed .output colored after := by
  obtain ⟨first, rest, rfl⟩ := List.append_of_mem hm
  refine ⟨opening r (first ++ target :: rest) ++ first.flatMap (printing r) ++
      [turn target, wouldStoreAt target.artifact r.directory],
    rest.flatMap (printing r) ++ [complete], fun colored => ?_⟩
  rw [← Status.printed_plain, Outcome.printed, run_printed ht hdry]
  simp only [List.flatMap_append, List.flatMap_cons, printing, List.append_assoc, List.cons_append,
    List.nil_append]
  rfl

end Generation

namespace Program

/-! ## Endings -/

/-- Two endings that are the same, but for the color sequences in what is printed. -/
structure SameButColors (e e' : Ending) : Prop where
  exit : e.exit = e'.exit
  tree : ∀ before, e.tree before = e'.tree before
  messages : e.messages = e'.messages
  remarks : e.remarks = e'.remarks
  events : e.events = e'.events
  logLines : e.logLines = e'.logLines
  chain : e.chain = e'.chain
  output : strip e.output = strip e'.output
  errorOutput : strip e.errorOutput = strip e'.errorOutput

/-- An ending is like itself. -/
theorem SameButColors.refl (e : Ending) : SameButColors e e :=
  ⟨rfl, fun _ => rfl, rfl, rfl, rfl, rfl, rfl, rfl, rfl⟩

/-- Being alike but for colors goes both ways. -/
theorem SameButColors.symm {e e' : Ending} (h : SameButColors e e') : SameButColors e' e :=
  ⟨h.exit.symm, fun before => (h.tree before).symm, h.messages.symm, h.remarks.symm,
    h.events.symm, h.logLines.symm, h.chain.symm, h.output.symm, h.errorOutput.symm⟩

/-- A request is carried out alike on streams that show colors and on others. -/
theorem sameButColors_carriedOut (remarks : List Log.Remark) (filter : Log.Filter)
    (o : Generation.Outcome) :
    SameButColors (.carriedOut remarks filter true o) (.carriedOut remarks filter false o) := by
  refine ⟨rfl, fun _ => rfl, rfl, rfl, rfl, rfl, rfl, ?_, ?_⟩
  · rw [Ending.output_carriedOut, Ending.output_carriedOut]
    exact Status.strip_printed ..
  -- The log lines and the report are the same, so only the messages between them count.
  · have hmessages : ∀ (lines : List String) (ms : List Message) (report : String),
        strip (String.join (lines.map (· ++ "\n")) ++ printed .error true ms ++ report) =
          strip (String.join (lines.map (· ++ "\n")) ++ printed .error false ms ++ report) := by
      intro lines ms report
      have hlines : EndsLine (String.join (lines.map (· ++ "\n"))) := by
        refine Text.endsLine_join fun s hs => ?_
        obtain ⟨line, -, rfl⟩ := List.mem_map.1 hs
        exact Text.endsLine_newline line
      rw [Text.strip_append (hlines.append Status.endsLine_printed),
        Text.strip_append (hlines.append Status.endsLine_printed), Text.strip_append hlines,
        Text.strip_append hlines, Status.strip_printed]
    exact hmessages _ _ _

/-- **The program does the same whatever its environment says about colors.** -/
theorem sameButColors_carryOut (w : World) (env env' : Environment) (a : Arguments) :
    SameButColors (carryOut w env a) (carryOut w env' a) := by
  unfold carryOut
  dsimp only
  cases (Log.Filter.read a.logFilter).filter with
  | error panic => exact .refl _
  | ok filter =>
    have hcolors := sameButColors_carriedOut (Log.Filter.read a.logFilter).remarks filter
      (Generation.run w.workingDirectory w.tree (Request.ofArguments w.programDirectory a))
    cases env.showsColor <;> cases env'.showsColor
    · exact .refl _
    · exact hcolors.symm
    · exact hcolors
    · exact .refl _

/-- **Colors are only decoration.**  Without color sequences, any messages print the same on streams
that show colors and on others; a plain message is printed as it is on both, and only errors are
printed on standard error.  So it is with the messages of a run, which has none for standard error, and
with all that the program prints; and nothing else depends on colors. -/
theorem colors_only_decorate :
    (∀ stream ms, strip (printed stream true ms) = strip (printed stream false ms)) ∧
    (∀ before text after colored,
      printed .output colored (before ++ ⟨.plain, text⟩ :: after) =
          printed .output colored before ++ (text ++ "\n") ++ printed .output colored after ∧
        printed .error colored (before ++ ⟨.plain, text⟩ :: after) =
          printed .error colored before ++ printed .error colored after) ∧
    (∀ (m : Message) colored, m.on .error colored = "" ↔ m.tone ≠ .error) ∧
    (∀ here tree r, let o := Generation.run here tree r
      (∀ stream, strip (o.printed stream true) = strip (o.printed stream false)) ∧
      (∀ colored, o.printed .error colored = "") ∧
      (r.dryRun = true → ∀ targets, r.targets = .ok targets → ∀ target ∈ targets,
        ∃ before after, ∀ colored, o.printed .output colored =
          printed .output colored before ++ (target.dockerfile ++ "\n") ++
            printed .output colored after)) ∧
    ∀ w env env' a, SameButColors (carryOut w env a) (carryOut w env' a) := by
  refine ⟨Status.strip_printed, fun before text after colored => ⟨?_, ?_⟩, ?_, ?_,
    sameButColors_carryOut⟩
  · exact Status.printed_plain before after text colored
  · have hplain : (Message.mk .plain text).on .error colored = "" := rfl
    rw [Status.printed_append, Status.printed_cons, hplain, String.empty_append]
  · exact fun m colored => Status.on_error_eq_empty_iff
  · intro here tree r o
    exact ⟨fun stream => Status.strip_printed stream o.messages,
      Generation.printed_error_run here tree r, fun hdry targets ht target hm =>
        Generation.exists_printed_eq_of_dryRun here tree hdry ht hm⟩

end Program
end DockerMatrix
