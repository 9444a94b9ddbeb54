/-
# Three ways of naming the directory

The directory can be named by the option, by the variable, and by a line of the environment file.
Where it is named once, it makes no difference how (`directory_named_alike`): the program ends alike,
with the same text on both streams, the same events and the same files, and whether what is named is a
directory or not.

| named by | the name reaches the check |
| --- | --- |
| `--output-dir=NAME` | behind the first `=` of the argument |
| the variable `OUTPUT_DIR` | as the value of the variable |
| `OUTPUT_DIR='NAME'` | out of strong quotes, over all lines of the file that they span |

The first two are read alike because an option behind the arguments does what its variable does
(`read_option_eq`), the last two because the line assigns the name as it is.  Arguments that are
accepted without a name are accepted with one, or it is the name that is rejected (`read_named`), so
that no help is shown, which would tell the three apart.
-/

import DockerMatrix.Proofs.Arguments.Fallback
import DockerMatrix.Proofs.Environment.StrongQuotes
import DockerMatrix.Proofs.Generation.AcceptedDirectory
import DockerMatrix.Proofs.Program.Exported

namespace DockerMatrix

open Text (Bytes)

/-! ## Exporting one variable -/

namespace Environment

variable {env exported : Environment} {name : String} {p : Bytes}

/-- An environment is another one with a variable exported. -/
def Exports (env : Environment) (name : String) (value : Bytes) (exported : Environment) : Prop :=
  ∀ key, exported.get? key = if name = key then some value else env.get? key

/-- Setting a variable exports it. -/
theorem exports_set (env : Environment) (name : String) (value : Bytes) :
    env.Exports name value (env.set name value) := fun key => Table.get?_put name key value env.values

/-- Exporting a variable is setting it. -/
theorem Exports.sameValues_set (h : env.Exports name p exported) :
    SameValues exported (env.set name p) := fun key =>
  (h key).trans (exports_set env name p key).symm

/-- A variable that is not set is set by an assignment. -/
theorem adopt_eq_set (hunset : env.get? name = none) (d : String) :
    env.adopt ⟨name, d⟩ = env.set name (Text.encode d) := by
  rw [adopt, text?, hunset]
  rfl

/-- The variable for the directory does not decide whether messages are colored. -/
theorem Exports.showsColor_eq (h : env.Exports "OUTPUT_DIR" p exported) :
    env.showsColor = exported.showsColor := by
  have hset : SameBut "OUTPUT_DIR" (env.set "OUTPUT_DIR" p) env := Table.filter_put_self p env.values
  exact (h.sameValues_set.showsColor_eq.trans hset.showsColor_eq).symm

/-- Nor whether help and usage errors are styled. -/
theorem Exports.showsStyles_eq (h : env.Exports "OUTPUT_DIR" p exported) :
    env.showsStyles = exported.showsStyles := by
  have hforce : exported.get? "CLICOLOR_FORCE" = env.get? "CLICOLOR_FORCE" := h _
  have hno : exported.get? "NO_COLOR" = env.get? "NO_COLOR" := h _
  simp only [showsStyles, isFilled, hforce, hno]

end Environment

namespace Arguments

variable {kindOf : Path → PathKind} {t : FileTree} {here : Location} {env exported : Environment}
  {g g' : Gathered} {arguments : List Bytes} {p : Path} {a : Arguments}

/-! ## Reading -/

/-- The log filter falls back on a variable of its own. -/
theorem fallBack_logFilter_eq (h : env.Exports "OUTPUT_DIR" p exported) (g : Gathered) :
    g.fallBack kindOf env .logFilter = g.fallBack kindOf exported .logFilter := by
  have hget : exported.get? "LOG_LEVEL" = env.get? "LOG_LEVEL" := h _
  simp only [Gathered.fallBack, Setting.fallback?, Option.bind_some, hget]

/-- Where no argument names the directory and the variable is not set, the option behind the arguments
is read like the variable. -/
theorem read_option_eq (h : terminator ∉ arguments)
    (hnamed : Setting.outputDirectory.isNamedIn arguments = false)
    (hunset : env.get? "OUTPUT_DIR" = none) (hexported : env.Exports "OUTPUT_DIR" p exported) :
    read (t.kindOf here) env (arguments ++ [Setting.outputDirectory.option p]) =
      read (t.kindOf here) exported arguments := by
  have hwritten : Setting.outputDirectory.writtenOut exported arguments =
      [Setting.outputDirectory.option p] := by
    have hvalue : Setting.outputDirectory.fallback?.bind exported.get? = some p := hexported _
    rw [Setting.writtenOut, hnamed, if_neg Bool.false_ne_true, hvalue]
    rfl
  rw [read_eq, read_eq, bind_fallBack_of_unset _ (s := .outputDirectory) hunset, ← hwritten,
    Progress.read_append h]
  simp only [fallBack_logFilter_eq hexported]
  cases hq : Progress.start.read (t.kindOf here) arguments with
  | error e => rfl
  | ok q =>
    have hsettled := settled_read_writtenOut (p := q) (s := .outputDirectory) exported
      fun g hg => has_eq_isNamedIn (s := .outputDirectory) rfl ⟨q, hq, hg⟩
    exact congrArg (fun settled => (settled.bind fun g =>
      g.fallBack (t.kindOf here) exported .logFilter).bind Gathered.complete) hsettled

/-- The log filter falls back on its variable in the same way, whatever the directory is. -/
theorem Gathered.fallBack_logFilter_with (h : g.fallBack (t.kindOf here) env .logFilter = .ok g')
    (directory : Option Path) :
    ({ g with outputDirectory := directory } : Gathered).fallBack (t.kindOf here) env .logFilter =
      .ok { g' with outputDirectory := directory } := by
  obtain ⟨haccepts, hvalue, hdry⟩ := fallBack_ok_iff.1 h
  refine fallBack_ok_iff.2 ⟨haccepts, fun s => ?_, hdry⟩
  cases s with
  | outputDirectory => exact Option.or_none.symm
  | os => exact hvalue .os
  | hardware => exact hvalue .hardware
  | osVersion => exact hvalue .osVersion
  | logFilter => exact hvalue .logFilter

/-- Where the directory is not settled, it is settled with the value that is exported. -/
theorem read_exported_eq {q : Progress}
    (hq : Progress.start.read kindOf arguments = .ok q) (hg : q.settled kindOf = .ok g)
    (hnone : g.outputDirectory = none) (hexported : env.Exports "OUTPUT_DIR" p exported) :
    read kindOf exported arguments =
      ((g.settle kindOf .outputDirectory (some p)).bind fun g =>
        g.fallBack kindOf exported .logFilter).bind Gathered.complete := by
  have hfallBack : g.fallBack kindOf exported .outputDirectory =
      g.settle kindOf .outputDirectory (some p) := by
    have hvalue : Setting.outputDirectory.fallback?.bind exported.get? = some p := hexported _
    rw [Gathered.fallBack, hvalue, if_neg (by simp [Gathered.has, hnone])]
  rw [read_eq, hq, ← hfallBack]
  show (((q.settled _).bind _).bind _).bind _ = _
  rw [hg]
  rfl

/-- **Arguments that are accepted without a directory**, read with one: they are accepted with it, or
it is the directory that is rejected. -/
theorem read_named (ha : read (t.kindOf here) env arguments = .ok a) (hp : p ≠ [])
    (hnamed : Setting.outputDirectory.isNamedIn arguments = false)
    (hunset : env.get? "OUTPUT_DIR" = none) (hexported : env.Exports "OUTPUT_DIR" p exported) :
    (t.StandsAt here p .directory → read (t.kindOf here) exported arguments =
      .ok { a with outputDirectory := some p }) ∧
    (¬t.StandsAt here p .directory → ∃ problem, read (t.kindOf here) exported arguments =
      .error (.noDirectory p problem)) := by
  obtain ⟨g, ⟨q, hq, hg⟩, g₁, hkept, hlog⟩ := read_ok_iff.1 ha
  have hnone : g.outputDirectory = none := by
    have hhas : g.has .outputDirectory = false :=
      (has_eq_isNamedIn (s := .outputDirectory) rfl ⟨q, hq, hg⟩).trans hnamed
    simpa [Gathered.has] using hhas
  obtain rfl : g = g₁ :=
    Except.ok.inj ((bind_fallBack_of_unset _ (s := .outputDirectory) hunset (.ok g)).symm.trans hkept)
  have hlog' : g.fallBack (t.kindOf here) exported .logFilter = .ok a.gathered := by
    rw [← fallBack_logFilter_eq hexported, hlog]
  obtain ⟨haccepted, hrejected, -, -⟩ := directory_checked t here hnone hp
  rw [read_exported_eq hq hg hnone hexported]
  cases hs : g.settle (t.kindOf here) .outputDirectory (some p) with
  | ok g' =>
    obtain ⟨rfl, hstands⟩ := (haccepted g').1 hs
    refine ⟨fun _ => ?_, fun hno => absurd hstands hno⟩
    show (Gathered.fallBack _ _ _ _).bind _ = _
    rw [Gathered.fallBack_logFilter_with hlog']
    exact Gathered.complete_ok_iff.2 rfl
  | error stop =>
    refine ⟨fun hstands => ?_, fun _ => ?_⟩
    · rw [(haccepted _).2 ⟨rfl, hstands⟩] at hs
      cases hs
    · rcases (hrejected stop).1 hs with ⟨rfl, -⟩ | ⟨rfl, -⟩ <;> exact ⟨_, rfl⟩

end Arguments

/-! ## Starting the program -/

/-- The world where the file at a location holds something else. -/
def World.filled (w : World) (l : Location) (contents : Bytes) : World :=
  { w with tree := w.tree.place l (.file contents) }

namespace Program

open FileTree
open Environment (IsStrong strongLine lineEnds)
open Arguments (Setting)

variable {w : World} {env exported : Environment} {l : Location} {arguments : List Bytes}
  {a : Arguments} {d ending : String}

/-- Filling a file changes what is in this file only. -/
theorem get?_filled {contents : Bytes} (h : w.tree.get? l = some (.file contents))
    (contents' : Bytes) (l' : Location) :
    (w.filled l contents').tree.get? l' =
      if l = l' then some (.file contents') else w.tree.get? l' :=
  get?_place w.tree (TakesFile.ne_nil (Or.inr ⟨contents, h⟩)) _ l'

/-- The environment file in force may hold anything, and still is the one in force. -/
theorem environmentFileAt_filled {contents : Bytes}
    (h : w.tree.EnvironmentFileAt w.workingDirectory l contents) (contents' : Bytes) :
    (w.filled l contents').tree.EnvironmentFileAt w.workingDirectory l contents' := by
  refine h.of_sameShape (SameShape.place h.get?_eq contents') ?_
  rw [get?_filled h.get?_eq, if_pos rfl]

/-- What is loaded is what the assignments of an environment file set, if it is the one in force. -/
theorem loads_of_environmentFileAt {contents : Bytes} {found : List Assignment}
    (h : w.tree.EnvironmentFileAt w.workingDirectory l contents)
    (hfound : env.assignments contents = .ok found) :
    Loads w env (found.foldl Environment.adopt env) :=
  loads_of_assignments (environmentFile?_eq_some_iff.2 ⟨l, h⟩) hfound

/-- Accepted arguments are carried out alike where messages are colored alike. -/
theorem carryOut_congr (h : env.showsColor = exported.showsColor) (w : World) (a : Arguments) :
    carryOut w env a = carryOut w exported a := by
  rw [carryOut, carryOut, h]

/-- The endings of three starts, which name the directory by the option, by the variable and by the
environment file at a location, are the same in all that can be seen. -/
structure NamedAlike (w w' : World) (l : Location) (byOption byVariable byFile : Ending) : Prop where
  option_eq : byOption = byVariable
  sameEnding : SameEnding w.tree w'.tree byVariable byFile
  /-- All files but the environment file are the same afterwards. -/
  files : ∀ l' ≠ l, (byVariable.tree w.tree).get? l' = (byFile.tree w'.tree).get? l'

/-- What a start comes to where the directory is named and everything else is accepted. -/
structure Decided (w : World) (env : Environment) (a : Arguments) (p : Path) (e : Ending) : Prop where
  directory : w.tree.StandsAt w.workingDirectory p .directory →
    e = carryOut w env { a with outputDirectory := some p }
  noDirectory : ¬w.tree.StandsAt w.workingDirectory p .directory →
    ∃ problem text, e = .stopped (.noDirectory p problem) text

/-- **The option does what the variable does**, and it is the directory that decides. -/
theorem run_option_eq {p : Path} (hl : Loads w env env) (hl' : Loads w exported exported)
    (ha : Accepts w env arguments a) (hterminator : Arguments.terminator ∉ arguments)
    (hnamed : Setting.outputDirectory.isNamedIn arguments = false) (hp : p ≠ [])
    (hunset : env.get? "OUTPUT_DIR" = none) (hexported : env.Exports "OUTPUT_DIR" p exported) :
    run w env (arguments ++ [Setting.outputDirectory.option p]) = run w exported arguments ∧
      Decided w env a p (run w exported arguments) := by
  have hread : Arguments.read (w.tree.kindOf w.workingDirectory) env
      (arguments ++ [Setting.outputDirectory.option p]) =
        Arguments.read (w.tree.kindOf w.workingDirectory) exported arguments :=
    Arguments.read_option_eq hterminator hnamed hunset hexported
  obtain ⟨haccepted, hrejected⟩ := Arguments.read_named ha hp hnamed hunset hexported
  by_cases hstands : w.tree.StandsAt w.workingDirectory p .directory
  · have hexport := haccepted hstands
    have hrun : run w exported arguments = carryOut w env { a with outputDirectory := some p } := by
      rw [run_of_accepts hl' hexport, carryOut_congr hexported.showsColor_eq]
    exact ⟨(run_of_accepts hl (hread.trans hexport)).trans hrun.symm, fun _ => hrun,
      fun hno => absurd hstands hno⟩
  · obtain ⟨problem, hexport⟩ := hrejected hstands
    have hrun := run_of_stop hl' hexport
    refine ⟨?_, fun h => absurd h hstands, fun _ => ⟨problem, _, hrun⟩⟩
    rw [hrun, run_of_stop hl (hread.trans hexport), hexported.showsStyles_eq,
      @Arguments.Stop.printedText_eq env exported _ rfl]

/-- The variable for the directory has a name that a line can assign to. -/
theorem isName_outputDirectory : Environment.IsName "OUTPUT_DIR" where
  first := ⟨'O', "UTPUT_DIR".toList, by decide, by decide⟩
  characters := List.all_eq_true.1 (by decide)

/-- **The directory is named alike by the option, the variable and the environment file.**  The name is
any text that strong quotes can hold, and the environment file in force is empty but for it.  Where the
name is that of a directory, the arguments are carried out with it, and otherwise it is rejected. -/
theorem directory_named_alike (hfile : w.tree.EnvironmentFileAt w.workingDirectory l [])
    (hunset : env.get? "OUTPUT_DIR" = none) (ha : Accepts w env arguments a)
    (hterminator : Arguments.terminator ∉ arguments)
    (hnamed : Setting.outputDirectory.isNamedIn arguments = false)
    (hd : d ≠ "") (hstrong : IsStrong d.toList) (hnul : '\x00' ∉ d.toList)
    (hexported : env.Exports "OUTPUT_DIR" (Text.encode d) exported) (hend : ending ∈ lineEnds) :
    let w' := w.filled l (Text.encode (strongLine "OUTPUT_DIR" d ++ ending))
    NamedAlike w w' l (run w env (arguments ++ [Setting.outputDirectory.option (Text.encode d)]))
        (run w exported arguments) (run w' env arguments) ∧
      Decided w env a (Text.encode d) (run w exported arguments) := by
  intro w'
  have hl : Loads w env env := loads_of_environmentFileAt hfile rfl
  have hl' : Loads w exported exported := loads_of_environmentFileAt hfile rfl
  have hfilled : Loads w' env (env.set "OUTPUT_DIR" (Text.encode d)) := by
    rw [← Environment.adopt_eq_set hunset]
    exact loads_of_environmentFileAt (environmentFileAt_filled hfile _)
      (Environment.assignments_strongLine isName_outputDirectory hstrong hnul hend)
  have hp : Text.encode d ≠ [] := Text.encode_ne_nil (by simpa using hd)
  obtain ⟨hoption, hdecided⟩ := run_option_eq hl hl' ha hterminator hnamed hp hunset hexported
  have hshape : w.tree.SameShape w'.tree := SameShape.place hfile.get?_eq _
  have hdirectory : w'.workingDirectory = w.workingDirectory := rfl
  have hprogram : w'.programDirectory = w.programDirectory := rfl
  have hsame := sameEnding_run hdirectory hprogram hshape hl' hfilled hexported.sameValues_set arguments
  refine ⟨⟨hoption, hsame, fun l' hl' => hsame.changes.get?_eq ?_⟩, hdecided⟩
  rw [get?_filled hfile.get?_eq, if_neg (Ne.symm hl')]

/-- A directory whose name looks like an option, a reference to a variable and a comment, in two lines
and with weak quotes. -/
def hardName : String := "--dry-run=$A \"#\"\n\u00E9"

/-- A world with that directory, where the environment file is empty and found through a link. -/
def hardWorld : World where
  tree := ⟨[([[119]], .directory), ([Text.encode hardName, [119]], .directory),
    ([Environment.fileName, [119]], .link [101]), ([[101], [119]], .file [])]⟩
  workingDirectory := [[119]]
  programDirectory := Text.encode "/bin"

/-- An environment with the variable that the name looks like a reference to. -/
def hardEnvironment : Environment := ⟨[("A", Text.encode "a"), ("LOG_LEVEL", Text.encode "info")]⟩

/-- Nothing in the name is taken for a sign of the arguments or of the file. -/
theorem directory_named_alike_hard :
    let arguments := ["-o", "ubuntu", "--target=cpu", "--os-version", "20.04"].map Text.encode
    let exported := hardEnvironment.set "OUTPUT_DIR" (Text.encode hardName)
    let world' := hardWorld.filled [[101], [119]]
      (Text.encode (strongLine "OUTPUT_DIR" hardName ++ "\r\n"))
    let ending := run hardWorld exported arguments
    let a : Arguments := ⟨.ubuntu, .cpu, some "20.04", none, false, some "info"⟩
    hardWorld.tree.EnvironmentFileAt hardWorld.workingDirectory [[101], [119]] [] ∧
      Accepts hardWorld hardEnvironment arguments a ∧
      IsStrong hardName.toList ∧
      hardEnvironment.Exports "OUTPUT_DIR" (Text.encode hardName) exported ∧
      NamedAlike hardWorld world' [[101], [119]]
        (run hardWorld hardEnvironment
          (arguments ++ [Setting.outputDirectory.option (Text.encode hardName)]))
        ending (run world' hardEnvironment arguments) ∧
      ending.exit = .status 0 ∧ ending.events ≠ [] ∧
      ((ending.tree hardWorld.tree).get?
        [Text.encode "Dockerfile.ubuntu.20.04.cpu", Text.encode hardName, [119]]).isSome := by
  intro arguments exported world' ending a
  have hfile : hardWorld.tree.EnvironmentFileAt hardWorld.workingDirectory [[101], [119]] [] :=
    .here (by decide +kernel) (by decide +kernel)
  have ha : Accepts hardWorld hardEnvironment arguments a := by
    unfold Accepts
    decide +kernel
  have hstrong : IsStrong hardName.toList := by
    unfold IsStrong
    decide +kernel
  have hexported : hardEnvironment.Exports "OUTPUT_DIR" (Text.encode hardName) exported :=
    Environment.exports_set _ _ _
  obtain ⟨halike, hdecided⟩ := directory_named_alike hfile rfl ha (by decide +kernel)
    (by decide +kernel) (by decide +kernel) hstrong (by decide +kernel) hexported
    (show "\r\n" ∈ lineEnds by decide)
  have hstands : hardWorld.tree.StandsAt hardWorld.workingDirectory (Text.encode hardName) .directory :=
    kindOf_directory_iff.1 (by decide +kernel)
  refine ⟨hfile, ha, hstrong, hexported, halike, ?_⟩
  rw [show ending = _ from hdecided.directory hstands]
  decide +kernel

end Program
end DockerMatrix
