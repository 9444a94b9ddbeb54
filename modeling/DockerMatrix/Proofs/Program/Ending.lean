/-
# Exit status, messages and effects agree

Whatever the files, the environment and the arguments are, the exit status, what is printed and what
is stored say the same about how the program ends (`run_agrees`).

| ending | exit | standard output | files |
| --- | ---: | --- | --- |
| the environment file cannot be used | 1 | nothing | as they were |
| a usage error | 2 | nothing | as they were |
| help or version asked for | 0 | the answer | as they were |
| a run that fails | 1 | another last line | what was stored before |
| a run that does not fail | 0 | the line that it is complete is the last one | what is stored |
| the program is given up | signal 6 | nothing | as they were |

Every run takes one of the courses that lead there (`run_course`).  The last row is not meant to be:
the program panics, and the process is aborted.  It is reached in two ways, and in no other (`GivenUp`):
a line of the environment file assigns a value with a NUL character, or an offset in a text of the log
filter lies inside a character.
-/

import DockerMatrix.Program
import DockerMatrix.Proofs.Environment.NulValue
import DockerMatrix.Proofs.Generation.Completion

namespace DockerMatrix

open Text (Bytes lastLine)

/-- **When reading a log filter is given up**: an offset in one of its texts lies inside a
character. -/
theorem Log.Filter.exists_filter_readFrom_eq_error_iff (f : Log.Filter) (texts : List (List Char)) :
    (∃ panic, (f.readFrom texts).filter = .error panic) ↔
      ∃ text ∈ texts, ∃ panic, Log.Directive.ofText text = .error (.splitCharacter panic) := by
  induction texts generalizing f with
  | nil => simp [readFrom]
  | cons text rest ih =>
    rw [readFrom]
    cases hd : Log.Directive.ofText text with
    | ok d => simp [hd, ih]
    | error problem => cases problem <;> simp [hd, ih]

namespace Program

variable {w : World} {env env' : Environment} {arguments : List Bytes} {a : Arguments}

/-- An offset in a text of the log filter lies inside a character. -/
def SplitsCharacter (a : Arguments) : Prop :=
  ∃ filter, a.logFilter = some filter ∧ ∃ text ∈ Log.Filter.pieces [] filter.toList,
    ∃ panic, Log.Directive.ofText text = .error (.splitCharacter panic)

/-- The environment file in force is read, and gives an environment. -/
def Loads (w : World) (env env' : Environment) : Prop :=
  env.inDirectory w.tree w.workingDirectory = .ok env'

/-- The arguments are accepted in an environment. -/
def Accepts (w : World) (env : Environment) (arguments : List Bytes) (a : Arguments) : Prop :=
  Arguments.read (w.tree.kindOf w.workingDirectory) env arguments = .ok a

/-- The run of the request that arguments make. -/
def outcome (w : World) (a : Arguments) : Generation.Outcome :=
  Generation.run w.workingDirectory w.tree (Request.ofArguments w.programDirectory a)

/-- Reading the log filter of the arguments panics if an offset lies inside a character. -/
theorem exists_filter_read_eq_error_iff :
    (∃ panic, (Log.Filter.read a.logFilter).filter = .error panic) ↔ SplitsCharacter a := by
  unfold Log.Filter.read SplitsCharacter
  cases a.logFilter with
  | none => simp
  | some filter =>
    simp only [Option.some.injEq, exists_eq_left']
    exact Log.Filter.exists_filter_readFrom_eq_error_iff _ _

/-- Otherwise it gives a filter. -/
theorem exists_filter_read_eq_ok (hs : ¬SplitsCharacter a) :
    ∃ filter, (Log.Filter.read a.logFilter).filter = .ok filter := by
  cases hf : (Log.Filter.read a.logFilter).filter with
  | error panic => exact absurd (exists_filter_read_eq_error_iff.1 ⟨panic, hf⟩) hs
  | ok filter => exact ⟨filter, rfl⟩

/-- An environment file that cannot be used ends the program. -/
theorem run_of_error {error : Environment.FileError}
    (h : env.inDirectory w.tree w.workingDirectory = .error error)
    (hne : ∀ bad, error ≠ .nulCharacter bad) : run w env arguments = .environmentFile error := by
  rw [run, h]
  cases error with
  | nulCharacter bad => exact absurd rfl (hne bad)
  | line => rfl
  | notText => rfl
  | access => rfl

/-- An assignment of a value with a NUL character ends it with a panic. -/
theorem run_of_nul {bad : Assignment}
    (h : env.inDirectory w.tree w.workingDirectory = .error (.nulCharacter bad)) :
    run w env arguments = .abandoned [] bad.panic := by
  rw [run, h]

/-- A stop of the command line ends it with a text. -/
theorem run_of_stop {s : Arguments.Stop} (hl : Loads w env env')
    (hs : Arguments.read (w.tree.kindOf w.workingDirectory) env' arguments = .error s) :
    run w env arguments = .stopped s (s.printedText env' env'.showsStyles) := by
  rw [run, show _ = _ from hl]
  dsimp only
  rw [hs]

/-- Accepted arguments are carried out. -/
theorem run_of_accepts (hl : Loads w env env') (ha : Accepts w env' arguments a) :
    run w env arguments = carryOut w env' a := by
  rw [run, show _ = _ from hl]
  dsimp only
  rw [show _ = _ from ha]

/-- A request is carried out if the log filter can be read. -/
theorem carryOut_of_not_splits (hs : ¬SplitsCharacter a) :
    ∃ remarks filter, carryOut w env a =
      .carriedOut remarks filter env.showsColor (outcome w a) := by
  obtain ⟨filter, hf⟩ := exists_filter_read_eq_ok hs
  rw [carryOut, hf]
  exact ⟨_, filter, rfl⟩

/-- Otherwise the program is given up. -/
theorem carryOut_of_splits (hs : SplitsCharacter a) :
    ∃ remarks panic, carryOut w env a = .abandoned remarks panic := by
  obtain ⟨panic, hf⟩ := exists_filter_read_eq_error_iff.2 hs
  rw [carryOut, hf]
  exact ⟨_, panic, rfl⟩

/-- How the program comes to its end, stage by stage, and what is known where it does. -/
inductive Course (w : World) (env : Environment) (arguments : List Bytes) : Ending → Prop
  | environmentFile {error : Environment.FileError}
      (herror : env.inDirectory w.tree w.workingDirectory = .error error)
      (hne : ∀ bad, error ≠ .nulCharacter bad) : Course w env arguments (.environmentFile error)
  | nul {bad : Assignment}
      (hnul : env.inDirectory w.tree w.workingDirectory = .error (.nulCharacter bad)) :
      Course w env arguments (.abandoned [] bad.panic)
  | stopped {env' : Environment} {s : Arguments.Stop} (hl : Loads w env env')
      (hs : Arguments.read (w.tree.kindOf w.workingDirectory) env' arguments = .error s) :
      Course w env arguments (.stopped s (s.printedText env' env'.showsStyles))
  | split {env' : Environment} {a : Arguments} {remarks : List Log.Remark} {panic : Panic}
      (hl : Loads w env env') (ha : Accepts w env' arguments a) (hs : SplitsCharacter a) :
      Course w env arguments (.abandoned remarks panic)
  | carriedOut {env' : Environment} {a : Arguments} {remarks : List Log.Remark} {filter : Log.Filter}
      (hl : Loads w env env') (ha : Accepts w env' arguments a) (hs : ¬SplitsCharacter a) :
      Course w env arguments (.carriedOut remarks filter env'.showsColor (outcome w a))

/-- **Every run takes one of these courses.** -/
theorem run_course (w : World) (env : Environment) (arguments : List Bytes) :
    Course w env arguments (run w env arguments) := by
  cases hl : env.inDirectory w.tree w.workingDirectory with
  | error error =>
    by_cases hbad : ∃ bad, error = .nulCharacter bad
    · obtain ⟨bad, rfl⟩ := hbad
      rw [run_of_nul hl]
      exact .nul hl
    · have hne : ∀ bad, error ≠ .nulCharacter bad := fun bad he => hbad ⟨bad, he⟩
      rw [run_of_error hl hne]
      exact .environmentFile hl hne
  | ok env' =>
    cases ha : Arguments.read (w.tree.kindOf w.workingDirectory) env' arguments with
    | error s =>
      rw [run_of_stop hl ha]
      exact .stopped hl ha
    | ok a =>
      rw [run_of_accepts hl ha]
      by_cases hs : SplitsCharacter a
      · obtain ⟨_, _, hc⟩ := @carryOut_of_splits w env' a hs
        rw [hc]
        exact .split hl ha hs
      · obtain ⟨_, _, hc⟩ := @carryOut_of_not_splits w env' a hs
        rw [hc]
        exact .carriedOut hl ha hs

/-- What a request that is carried out prints on standard output is what its run says. -/
theorem Ending.output_carriedOut (remarks : List Log.Remark) (filter : Log.Filter) (colored : Bool)
    (o : Generation.Outcome) :
    (Ending.carriedOut remarks filter colored o).output = o.printed .output colored := by
  have hfailed : failed.on .output colored = "" := rfl
  show "" ++ Status.printed .output colored (o.messages ++ if o.failure.isSome then [failed] else [])
    = Status.printed .output colored o.messages
  rw [String.empty_append, Status.printed_append]
  split_ifs
  · rw [Status.printed_cons, Status.printed_nil, hfailed, String.append_empty, String.append_empty]
  · rw [Status.printed_nil, String.append_empty]

/-- **What the program leaves of the files**: they are as they were, or as the run of the request
leaves them. -/
theorem tree_run (w : World) (env : Environment) (arguments : List Bytes) :
    (run w env arguments).tree w.tree = w.tree ∨
      ∃ env' a, Loads w env env' ∧ Accepts w env' arguments a ∧
        (run w env arguments).tree w.tree = (outcome w a).tree := by
  have hcourse := run_course w env arguments
  generalize run w env arguments = e at hcourse ⊢
  cases hcourse with
  | environmentFile => exact Or.inl rfl
  | nul => exact Or.inl rfl
  | stopped => exact Or.inl rfl
  | split => exact Or.inl rfl
  | carriedOut hl ha => exact Or.inr ⟨_, _, hl, ha, rfl⟩

/-- A directory with an environment file that assigns a value with a NUL character. -/
def nulWorld : World :=
  ⟨⟨[([[119]], .directory),
    ([Environment.fileName, [119]], .file (Text.encode "A=\x00\n"))]⟩, [[119]], Text.encode "/bin"⟩

/-- Arguments with a log filter whose directive begins behind a blank. -/
def blankFilter : List Bytes :=
  ["-o", "windows", "-t", "cpu", "--log-level", " é=x"].map Text.encode

end Program
end DockerMatrix
