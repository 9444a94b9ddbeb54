/-
# Starts that come to the same

The program may be started in two trees of the same shape, which differ in what files hold, and in two
environments.  Once the environment file has been read, nothing counts but the values that the names
have then: if they are the same, the program ends alike in every part of which something can be seen
(`sameEnding_run`).
-/

import DockerMatrix.Proofs.Environment.Values
import DockerMatrix.Proofs.Generation.Contents
import DockerMatrix.Proofs.Program.Ending

namespace DockerMatrix
namespace Program

open FileTree Generation

variable {w w' : World} {env env' loaded loaded' : Environment} {a : Arguments}

/-- Two endings, each of a start in a tree of its own, that are the same in all that can be seen: the
exit, what is printed, the events of the log, the error report, and what has changed. -/
structure SameEnding (t t' : FileTree) (e e' : Ending) : Prop where
  exit : e.exit = e'.exit
  output : e.output = e'.output
  errorOutput : e.errorOutput = e'.errorOutput
  events : e.events = e'.events
  logLines : e.logLines = e'.logLines
  chain : e.chain = e'.chain
  changes : SameChanges t t' (e.tree t) (e'.tree t')

/-- A stop with the same text is the same ending. -/
theorem sameEnding_stopped (t t' : FileTree) (s : Arguments.Stop) (text : String) :
    SameEnding t t' (.stopped s text) (.stopped s text) :=
  ⟨rfl, rfl, rfl, rfl, rfl, rfl, SameChanges.refl t t'⟩

/-- **The same request is carried out alike** in trees of the same shape. -/
theorem sameEnding_carryOut (hd : w'.workingDirectory = w.workingDirectory)
    (hs : w.tree.SameShape w'.tree) (hcolor : env.showsColor = env'.showsColor)
    (hr : Request.ofArguments w.programDirectory a = Request.ofArguments w'.programDirectory a) :
    SameEnding w.tree w'.tree (carryOut w env a) (carryOut w' env' a) := by
  have ho := @execute_agrees w.workingDirectory _ _ hs
    (plan (Request.ofArguments w.programDirectory a))
  unfold carryOut Generation.run
  rw [hd, ← hr, hcolor]
  dsimp only
  cases (Log.Filter.read a.logFilter).filter with
  | error panic => exact ⟨rfl, rfl, rfl, rfl, rfl, rfl, SameChanges.refl _ _⟩
  | ok filter =>
    dsimp only
    generalize execute w.workingDirectory w.tree _ = o at ho ⊢
    generalize execute w.workingDirectory w'.tree _ = o' at ho ⊢
    obtain ⟨tree, messages, events, failure⟩ := o
    obtain ⟨tree', messages', events', failure'⟩ := o'
    obtain ⟨rfl, rfl, rfl, hchanges⟩ := ho
    exact ⟨rfl, rfl, rfl, rfl, rfl, rfl, hchanges⟩

/-- **The values of names decide**, once the environment file has been read. -/
theorem sameEnding_run (hd : w'.workingDirectory = w.workingDirectory)
    (hp : w'.programDirectory = w.programDirectory) (hs : w.tree.SameShape w'.tree)
    (hl : Loads w env loaded) (hl' : Loads w' env' loaded')
    (hv : Environment.SameValues loaded loaded') (arguments : List Text.Bytes) :
    SameEnding w.tree w'.tree (run w env arguments) (run w' env' arguments) := by
  have hread : Arguments.read (w'.tree.kindOf w'.workingDirectory) loaded' arguments =
      Arguments.read (w.tree.kindOf w.workingDirectory) loaded arguments := by
    rw [hd, ← hs.kindOf_eq, hv.read_eq]
  cases ha : Arguments.read (w.tree.kindOf w.workingDirectory) loaded arguments with
  | error stop =>
    rw [run_of_stop hl ha, run_of_stop hl' (hread.trans ha), hv.printedText_eq]
    exact sameEnding_stopped ..
  | ok a =>
    rw [run_of_accepts hl ha, run_of_accepts hl' (hread.trans ha)]
    exact sameEnding_carryOut hd hs hv.showsColor_eq (by rw [hp])

end Program
end DockerMatrix
