/-
# Where the files go

The directory of the Dockerfiles has four sources, and the first one that names a path is chosen
(`chosen`).

| source | path |
| --- | --- |
| option | the value of `--output-dir` |
| variable | `OUTPUT_DIR`, as the program is started with it |
| file | the first assignment to `OUTPUT_DIR` in the environment file in force |
| program | the directory of the program |

Every Dockerfile lies in the directory that the chosen path leads to, under its own name
(`StoresIn`), and the other sources have no influence: whatever they say, the same arguments are
accepted, and the same is done (`chosen_directory_decides`).

The environment file has two ways to give a source more influence, and both are ruled out where they
count.  A value of `OUTPUT_DIR` that is no text is replaced by an assignment, so it may not be such if
the option is not given (`VariableIsText`).  And an assignment to another variable may refer to
`OUTPUT_DIR`; in two starts that are compared, the other assignments have to be the same
(`DiffersInSources`).
-/

import DockerMatrix.Proofs.Arguments.Accepted
import DockerMatrix.Proofs.Environment.Reference
import DockerMatrix.Proofs.Generation.Footprint
import DockerMatrix.Proofs.Program.Agreement

namespace DockerMatrix

open Text (Bytes)

/-! ## The environment file in force -/

/-- The logical lines of the environment file in force, none if there is no such file. -/
def World.environmentLines (w : World) : List (Except Environment.FileError (List Char)) :=
  match w.tree.environmentFile? w.workingDirectory with
  | .ok (some contents) => Environment.logicalLines contents
  | _ => []

/-- The assignments of the environment file in force, none if it cannot be used. -/
def World.assignments (w : World) (env : Environment) : List Assignment :=
  match env.assignmentsIn w.environmentLines with
  | .ok found => found
  | .error _ => []

namespace Program

open Arguments (Group Spells given valueOf)
open FileTree Generation

variable {w w' : World} {env env' loaded loaded' : Environment} {arguments : List Bytes}
  {groups : List Group} {a : Arguments}

/-- **What it means that the environment file is read**: its assignments are carried out. -/
theorem Loads.spec (h : Loads w env loaded) :
    env.assignmentsIn w.environmentLines = .ok (w.assignments env) ∧
      loaded = (w.assignments env).foldl Environment.adopt env := by
  unfold Loads Environment.inDirectory at h
  unfold World.assignments World.environmentLines
  cases hfile : w.tree.environmentFile? w.workingDirectory with
  | error e =>
    rw [hfile] at h
    cases h
  | ok file =>
    rw [hfile] at h
    cases file with
    | none =>
      cases h
      exact ⟨rfl, rfl⟩
    | some contents =>
      dsimp only at h ⊢
      rw [Environment.extend, Environment.assignments] at h
      cases hfound : env.assignmentsIn (Environment.logicalLines contents) with
      | error e =>
        rw [hfound] at h
        cases h
      | ok found =>
        rw [hfound] at h
        exact ⟨rfl, (Except.ok.inj h).symm⟩

/-! ## The chosen directory -/

/-- Where the path of the directory can come from. -/
inductive Source
  | option
  | variable
  | file
  | program
  deriving DecidableEq, Repr

/-- The path of the directory, and its source. -/
def chosen (w : World) (env : Environment) (groups : List Group) : Source × Path :=
  match given .outputDirectory groups, env.get? "OUTPUT_DIR",
      (w.assignments env).find? fun a => a.name = "OUTPUT_DIR" with
  | some path, _, _ => (.option, path)
  | none, some path, _ => (.variable, path)
  | none, none, some a => (.file, Text.encode a.value)
  | none, none, none => (.program, w.programDirectory)

/-- The path of the directory that is set, if it is not that of the program. -/
def setDirectory : Source × Path → Option Path
  | (.program, _) => none
  | (_, path) => some path

/-- The variable for the directory is text where the environment file in force assigns to it, unless
the option is given. -/
def VariableIsText (w : World) (env : Environment) (groups : List Group) : Prop :=
  given .outputDirectory groups = none → env.IsTextIfAssigned (w.assignments env) "OUTPUT_DIR"

/-- **The directory that is set is the chosen one**, once the environment file has been read. -/
theorem or_get?_eq (hl : Loads w env loaded) (ht : VariableIsText w env groups) :
    (given .outputDirectory groups).or (loaded.get? "OUTPUT_DIR") =
      setDirectory (chosen w env groups) := by
  unfold chosen
  cases hgiven : given .outputDirectory groups with
  | some path => rfl
  | none =>
    rw [hl.spec.2, Environment.get?_foldl_adopt (ht hgiven), Option.none_or]
    cases env.get? "OUTPUT_DIR" with
    | some path => rfl
    | none =>
      rw [Option.none_or]
      cases (w.assignments env).find? fun a => a.name = "OUTPUT_DIR" <;> rfl

/-- The chosen directory is the one that was set, or the one that the program starts in. -/
theorem getD_setDirectory (w : World) (env : Environment) (groups : List Group) :
    (setDirectory (chosen w env groups)).getD w.programDirectory = (chosen w env groups).2 := by
  unfold chosen
  split <;> rfl

/-- **Accepted arguments go with the chosen directory.** -/
theorem outputDirectory_of_accepts (hl : Loads w env loaded) (hg : Spells groups arguments)
    (ht : VariableIsText w env groups) (ha : Accepts w loaded arguments a) :
    a.outputDirectory = setDirectory (chosen w env groups) := by
  rw [← or_get?_eq hl ht]
  exact Arguments.value?_of_read hg ha .outputDirectory

/-! ## What is stored -/

/-- A target is one that arguments ask for. -/
def AskedFor (a : Arguments) (target : Target) : Prop :=
  target.os = a.os ∧ target.hardware = a.hardware ∧
    ∀ version, a.osVersion = some version → target.version = version

/-- Dockerfiles are stored in the directory that a path leads to, and nothing else changes. -/
structure StoresIn (w : World) (directory : Path) (a : Arguments) (after : FileTree) : Prop where
  /-- The Dockerfiles of some targets that are asked for are stored, one after the other, and the
  destinations of all of them are the entries of the directory under the Dockerfiles' names. -/
  stored : ∃ targets : List Target, (∀ target ∈ targets, AskedFor a target) ∧
    storeAll w.workingDirectory directory w.tree targets = .ok after ∧
    (targets = [] ∨ ∃ d, w.tree.LeadsIn w.workingDirectory directory d ∧ ∀ target ∈ targets,
      destinationIn w.workingDirectory directory w.tree target = .ok (target.entryName :: d))
  /-- What has changed is such an entry, and the Dockerfile stands there. -/
  changed : ∀ l, after.get? l ≠ w.tree.get? l → ∃ target d, AskedFor a target ∧
    w.tree.LeadsIn w.workingDirectory directory d ∧ l = target.entryName :: d ∧
    after.get? l = some (.file (Text.encode target.dockerfile))

/-- **What a run stores, it stores in its directory.** -/
theorem storesIn_outcome (hn : w.tree.NoLinkedDockerfile) (a : Arguments) :
    StoresIn w (a.outputDirectory.getD w.programDirectory) a (outcome w a).tree where
  stored := by
    obtain ⟨targets, hasked, hs⟩ := exists_storeAll_run w.workingDirectory w.tree
      (Request.ofArguments w.programDirectory a)
    refine ⟨targets, fun target hm => ?_, hs, exists_directory_of_storeAll hn hs⟩
    obtain ⟨hos, hhardware, hversion⟩ := hasked target hm
    exact ⟨hos, hhardware, hversion⟩
  changed := by
    intro l hne
    rcases run_onlyGenerates w.workingDirectory (Request.ofArguments w.programDirectory a) hn l with
      he | ⟨-, target, d, ⟨⟨hos, hhardware, hversion⟩, hd⟩, rfl, hfile⟩
    · exact absurd he.symm hne
    · exact ⟨target, d, ⟨hos, hhardware, hversion⟩, hd, rfl, hfile⟩

/-- **What the program stores, it stores in the chosen directory.** -/
theorem storesIn_run (hn : w.tree.NoLinkedDockerfile) (hl : Loads w env loaded)
    (hg : Spells groups arguments) (ht : VariableIsText w env groups)
    (ha : Accepts w loaded arguments a) :
    StoresIn w (chosen w env groups).2 a ((run w env arguments).tree w.tree) := by
  rcases tree_run w env arguments with hsame | ⟨loaded', a', hl', ha', hrun⟩
  · rw [hsame]
    exact ⟨⟨[], nofun, rfl, Or.inl rfl⟩, fun l hne => absurd rfl hne⟩
  · obtain rfl : loaded = loaded' := Except.ok.inj (hl.symm.trans hl')
    obtain rfl : a = a' := Except.ok.inj (ha.symm.trans ha')
    rw [hrun, ← getD_setDirectory, ← outputDirectory_of_accepts hl hg ht ha]
    exact storesIn_outcome hn a

/-! ## Two starts -/

/-- Two starts of the program that differ in the sources of the directory, apart from the arguments,
and in nothing else that counts.  The variable may have any value in each or be unset, the directory
of the program may be any, and files may hold anything, as long as the environment files in force make
the same assignments to other variables.  They do so if no line but those that assign to `OUTPUT_DIR`
is different, and no other line refers to it. -/
structure DiffersInSources (w : World) (env : Environment) (w' : World) (env' : Environment) :
    Prop where
  workingDirectory : w'.workingDirectory = w.workingDirectory
  tree : w.tree.SameShape w'.tree
  environment : Environment.SameBut "OUTPUT_DIR" env env'
  assignments :
    Environment.SameLinesBut "OUTPUT_DIR" w.environmentLines w'.environmentLines ∨
      ((w.assignments env).filter fun a => a.name ≠ "OUTPUT_DIR") =
        (w'.assignments env').filter fun a => a.name ≠ "OUTPUT_DIR"

/-- Two starts of the program have the same effects: how they end, what they print, and what they
have changed. -/
structure SameEffects (w w' : World) (e e' : Ending) : Prop where
  exit : e.exit = e'.exit
  output : e.output = e'.output
  errorOutput : e.errorOutput = e'.errorOutput
  changes : SameChanges w.tree w'.tree (e.tree w.tree) (e'.tree w'.tree)

/-- What is loaded from either side differs in the variable for the directory only. -/
theorem DiffersInSources.sameBut (h : DiffersInSources w env w' env') (hl : Loads w env loaded)
    (hl' : Loads w' env' loaded') : Environment.SameBut "OUTPUT_DIR" loaded loaded' := by
  rw [hl.spec.2, hl'.spec.2]
  refine h.environment.foldl_adopt ?_
  rcases h.assignments with hlines | hfilter
  · exact hlines.filter_eq h.environment hl.spec.1 hl'.spec.1
  · exact hfilter

/-- Arguments that are accepted at one start are accepted at the other, if the same directory is
chosen from the same source. -/
theorem DiffersInSources.accepts (h : DiffersInSources w env w' env') (hg : Spells groups arguments)
    (hl : Loads w env loaded) (hl' : Loads w' env' loaded') (ht : VariableIsText w env groups)
    (ht' : VariableIsText w' env' groups) (hc : chosen w' env' groups = chosen w env groups) :
    Accepts w' loaded' arguments a ↔ Accepts w loaded arguments a := by
  have hdirectory := (or_get?_eq hl' ht').trans ((congrArg setDirectory hc).trans
    (or_get?_eq hl ht).symm)
  have hsame : ∀ s, given s groups = none →
      s.fallback?.bind loaded'.get? = s.fallback?.bind loaded.get? := by
    intro s hs
    cases s with
    | outputDirectory =>
      rw [hs, Option.none_or, Option.none_or] at hdirectory
      exact hdirectory
    | logFilter => exact ((h.sameBut hl hl').get?_eq (by decide)).symm
    | os => rfl
    | hardware => rfl
    | osVersion => rfl
  unfold Accepts
  rw [h.workingDirectory, ← h.tree.kindOf_eq]
  exact ⟨Arguments.read_ok_of_fallback_eq hg hsame,
    Arguments.read_ok_of_fallback_eq hg fun s hs => (hsame s hs).symm⟩

/-- The same request is carried out alike in trees of the same shape. -/
theorem sameEffects_carryOut (hd : w'.workingDirectory = w.workingDirectory)
    (hs : w.tree.SameShape w'.tree) (hcolor : env.showsColor = env'.showsColor)
    (hr : Request.ofArguments w.programDirectory a = Request.ofArguments w'.programDirectory a) :
    SameEffects w w' (carryOut w env a) (carryOut w' env' a) := by
  obtain ⟨hexit, houtput, herror, -, -, -, hchanges⟩ := sameEnding_carryOut hd hs hcolor hr
  exact ⟨hexit, houtput, herror, hchanges⟩

/-- **The chosen directory decides, and nothing else does.**  Where no link bears the name of a
Dockerfile, accepted arguments lead to Dockerfiles in the directory that is chosen.  A start that
chooses the same directory from the same source, whatever the sources behind it say, accepts the same
arguments and has the same effects.  The groups are those that the arguments are spelled by, as all
arguments are that can be accepted. -/
theorem chosen_directory_decides (hn : w.tree.NoLinkedDockerfile) (hl : Loads w env loaded)
    (hg : Spells groups arguments) (ht : VariableIsText w env groups) :
    (∀ a, Accepts w loaded arguments a →
      StoresIn w (chosen w env groups).2 a ((run w env arguments).tree w.tree)) ∧
    ∀ w' env' loaded', DiffersInSources w env w' env' → Loads w' env' loaded' →
      VariableIsText w' env' groups → chosen w' env' groups = chosen w env groups →
      (∀ a, Accepts w' loaded' arguments a ↔ Accepts w loaded arguments a) ∧
      ((∃ a, Accepts w loaded arguments a) →
        SameEffects w w' (run w env arguments) (run w' env' arguments)) := by
  refine ⟨fun a ha => storesIn_run hn hl hg ht ha, fun w' env' loaded' h hl' ht' hc => ?_⟩
  have haccepts : ∀ a, Accepts w' loaded' arguments a ↔ Accepts w loaded arguments a :=
    fun a => h.accepts hg hl hl' ht ht' hc
  refine ⟨haccepts, ?_⟩
  rintro ⟨a, ha⟩
  have ha' := (haccepts a).2 ha
  rw [run_of_accepts hl ha, run_of_accepts hl' ha']
  refine sameEffects_carryOut h.workingDirectory h.tree (h.sameBut hl hl').showsColor_eq ?_
  have hpath : a.outputDirectory.getD w.programDirectory =
      a.outputDirectory.getD w'.programDirectory := by
    have hdirectory := getD_setDirectory w env groups
    have hdirectory' := getD_setDirectory w' env' groups
    rw [← outputDirectory_of_accepts hl hg ht ha] at hdirectory
    rw [← outputDirectory_of_accepts hl' hg ht' ha'] at hdirectory'
    rw [hdirectory, hdirectory', hc]
  rw [Request.ofArguments, Request.ofArguments, hpath]

/-- A world with an environment file that assigns to the variable for the directory and to another
variable, and with a directory that the option can name. -/
def shadowedWorld : World where
  tree := ⟨[([[119]], .directory),
    ([Environment.fileName, [119]], .file (Text.encode "OUTPUT_DIR=/w\nLOG_LEVEL=$LEVEL\n")),
    ([[100]], .directory),
    ([Text.encode "Dockerfile.ubuntu.18.04.cpu", [100]], .file (Text.encode "stale"))]⟩
  workingDirectory := [[119]]
  programDirectory := Text.encode "/bin"

/-- An environment where the variable for the directory is set. -/
def shadowedEnvironment : Environment :=
  ⟨[("OUTPUT_DIR", Text.encode "/w"), ("LEVEL", Text.encode "info")]⟩

/-- The same world, but for an environment file where the directory is none, and for the directory
of the program. -/
def shadowedWorld' : World where
  tree := shadowedWorld.tree.place [Environment.fileName, [119]]
    (.file (Text.encode "LOG_LEVEL=$LEVEL\nexport OUTPUT_DIR=''\n"))
  workingDirectory := [[119]]
  programDirectory := []

/-- The same environment, but for a directory that is no text. -/
def shadowedEnvironment' : Environment :=
  ⟨[("LEVEL", Text.encode "info"), ("OUTPUT_DIR", [0xFF])]⟩

/-- Arguments with the option, and the groups that they are. -/
def shadowingArguments : List Bytes :=
  ["-o", "ubuntu", "--target=cpu", "--output-dir", "/d"].map Text.encode

def shadowingGroups : List Group :=
  [.setting .os (Text.encode "ubuntu"), .setting .hardware (Text.encode "cpu"),
    .setting .outputDirectory (Text.encode "/d")]

/-- These two sides differ in lower sources than the option. -/
theorem shadowed_differsInSources :
    DiffersInSources shadowedWorld shadowedEnvironment shadowedWorld' shadowedEnvironment' where
  workingDirectory := rfl
  tree := SameShape.place (show shadowedWorld.tree.get? _ = some (.file _) from rfl) _
  environment := rfl
  assignments := by
    have hlines : shadowedWorld.environmentLines =
        [.ok "OUTPUT_DIR=/w".toList, .ok "LOG_LEVEL=$LEVEL".toList] := by decide +kernel
    have hlines' : shadowedWorld'.environmentLines =
        [.ok "LOG_LEVEL=$LEVEL".toList, .ok "export OUTPUT_DIR=''".toList] := by decide +kernel
    have hassigns : Environment.Assigns "OUTPUT_DIR" "OUTPUT_DIR=/w".toList :=
      ⟨"/w".toList, by decide +kernel⟩
    have hassigns' : Environment.Assigns "OUTPUT_DIR" "export OUTPUT_DIR=''".toList :=
      ⟨"''".toList, by decide +kernel⟩
    have hother : ¬Environment.RefersTo "OUTPUT_DIR" "LOG_LEVEL=$LEVEL".toList := by
      have hparts : Environment.parts "LOG_LEVEL=$LEVEL".toList =
          .ok (some ("LOG_LEVEL", "$LEVEL".toList)) := by decide +kernel
      refine Environment.not_refersTo_of_parts hparts ?_
      unfold Environment.Reaches
      decide +kernel
    rw [hlines, hlines']
    exact Or.inl (.left hassigns (.same hother (.right hassigns' .nil)))

/-- The option decides although the variable and the file name other directories. -/
theorem chosen_directory_decides_shadowed :
    shadowedWorld.tree.NoLinkedDockerfile ∧ Spells shadowingGroups shadowingArguments ∧
      VariableIsText shadowedWorld shadowedEnvironment shadowingGroups ∧
      ∃ loaded a, Loads shadowedWorld shadowedEnvironment loaded ∧
        Accepts shadowedWorld loaded shadowingArguments a ∧
        StoresIn shadowedWorld (Text.encode "/d") a
          ((run shadowedWorld shadowedEnvironment shadowingArguments).tree shadowedWorld.tree) ∧
        SameEffects shadowedWorld shadowedWorld'
          (run shadowedWorld shadowedEnvironment shadowingArguments)
          (run shadowedWorld' shadowedEnvironment' shadowingArguments) ∧
        (((run shadowedWorld shadowedEnvironment shadowingArguments).tree shadowedWorld.tree).get?
          [Text.encode "Dockerfile.ubuntu.20.04.cpu", [100]]).isSome := by
  have hn : shadowedWorld.tree.NoLinkedDockerfile :=
    noLinkedDockerfile_of_entries (by decide +kernel)
  have hl : Loads shadowedWorld shadowedEnvironment
      (shadowedEnvironment.set "LOG_LEVEL" (Text.encode "info")) := by
    unfold Loads
    decide +kernel
  have hl' : Loads shadowedWorld' shadowedEnvironment'
      ((shadowedEnvironment'.set "LOG_LEVEL" (Text.encode "info")).set "OUTPUT_DIR" []) := by
    unfold Loads
    decide +kernel
  have hg : Spells shadowingGroups shadowingArguments :=
    .cons (.separate (.letter 'o' rfl) (Or.inl (by decide))) (.cons (.attached (.nameEquals _))
      (.cons (.separate .name (Or.inl (by decide))) .nil))
  have ha : Accepts shadowedWorld (shadowedEnvironment.set "LOG_LEVEL" (Text.encode "info"))
      shadowingArguments ⟨.ubuntu, .cpu, none, some (Text.encode "/d"), false, some "info"⟩ := by
    unfold Accepts
    decide +kernel
  have ht : VariableIsText shadowedWorld shadowedEnvironment shadowingGroups := nofun
  have ht' : VariableIsText shadowedWorld' shadowedEnvironment' shadowingGroups := nofun
  have hc : ∀ w env, chosen w env shadowingGroups = (.option, Text.encode "/d") := fun _ _ => rfl
  obtain ⟨hstores, hshadowed⟩ := chosen_directory_decides hn hl hg ht
  obtain ⟨-, heffects⟩ :=
    hshadowed _ _ _ shadowed_differsInSources hl' ht' ((hc _ _).trans (hc _ _).symm)
  exact ⟨hn, hg, ht, _, _, hl, ha, hstores _ ha, heffects ⟨_, ha⟩, by decide +kernel⟩

end Program
end DockerMatrix
