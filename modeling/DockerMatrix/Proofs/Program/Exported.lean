/-
# The environment file as exported variables

An environment file acts as if its assignments had been exported before the program was started
(`environmentFile_is_exported`).  It may as well be emptied then, and whatever the arguments are, the
program ends alike: also where they are rejected, where there are none, and where the help is asked
for, which shows variables.

Of several assignments to a name the first one is exported, and of a name that is set none is.  The
file is the one in force: the first regular file of its name in the working directory and those above
it, which may be found there through links (`EnvironmentFileAt`).
-/

import DockerMatrix.Proofs.Program.Agreement

namespace DockerMatrix

open Text (Bytes)

/-! ## Where the file is -/

namespace FileTree

variable {t t' : FileTree} {here l : Location} {contents contents' : Bytes}

/-- A directory is passed over in the search for the environment file: nothing of its name can be
reached in it, or what is reached is no regular file. -/
def PassesOver (t : FileTree) (here : Location) : Prop :=
  match t.find here Environment.fileName with
  | .ok (.file _) => False
  | .ok _ => True
  | .error e => e = .notFound

/-- The location of the environment file that is in force in a directory, and what it holds. -/
inductive EnvironmentFileAt (t : FileTree) : Location → Location → Bytes → Prop
  | here {here l : Location} {contents : Bytes}
      (hl : t.locate .read here Environment.fileName = .ok l)
      (hfile : t.get? l = some (.file contents)) : EnvironmentFileAt t here l contents
  | above {name : Name} {parent l : Location} {contents : Bytes} (hover : t.PassesOver (name :: parent))
      (h : EnvironmentFileAt t parent l contents) : EnvironmentFileAt t (name :: parent) l contents

/-- The contents of an environment file are those of the file there. -/
theorem EnvironmentFileAt.get?_eq (h : t.EnvironmentFileAt here l contents) :
    t.get? l = some (.file contents) := by
  induction h with
  | here _ hfile => exact hfile
  | above _ _ ih => exact ih

/-- A file is found by a path if the path resolves to it. -/
theorem find_eq_file_iff {p : Path} :
    t.find here p = .ok (.file contents) ↔
      ∃ l, t.locate .read here p = .ok l ∧ t.get? l = some (.file contents) := by
  unfold find
  cases t.locate .read here p with
  | error e => simp
  | ok l => cases hl : t.get? l <;> simp [hl]

/-- **Where the search goes on**: above a directory that is passed over. -/
theorem environmentFile?_of_passesOver {name : Name} (h : t.PassesOver (name :: here)) :
    t.environmentFile? (name :: here) = t.environmentFile? here := by
  rw [environmentFile?.eq_def]
  unfold PassesOver at h
  generalize t.find (name :: here) Environment.fileName = found at h ⊢
  rcases found with e | (_ | _ | _ | _)
  · subst h
    rfl
  · rfl
  · exact h.elim
  · rfl
  · rfl

/-- **Where the search ends**: in a directory that is not passed over, or in the root. -/
theorem find_of_environmentFile? (h : t.environmentFile? here = .ok (some contents))
    (hend : here = [] ∨ ¬t.PassesOver here) :
    t.find here Environment.fileName = .ok (.file contents) := by
  rw [environmentFile?.eq_def] at h
  unfold PassesOver at hend
  generalize t.find here Environment.fileName = found at h hend
  rcases found with e | (_ | _ | _ | _)
  · rcases hend with rfl | hend
    · cases e <;> cases h
    · cases e <;> first | cases h | exact absurd rfl hend
  case ok.file =>
    cases h
    rfl
  all_goals
    rcases hend with rfl | hend
    · cases h
    · exact absurd trivial hend

/-- **The environment file in force is at a location.** -/
theorem environmentFile?_eq_some_iff :
    t.environmentFile? here = .ok (some contents) ↔ ∃ l, t.EnvironmentFileAt here l contents := by
  constructor
  · intro h
    have hthere : ∀ here, t.environmentFile? here = .ok (some contents) →
        here = [] ∨ ¬t.PassesOver here → ∃ l, t.EnvironmentFileAt here l contents := by
      intro here h hend
      obtain ⟨l, hl, hfile⟩ := find_eq_file_iff.1 (find_of_environmentFile? h hend)
      exact ⟨l, .here hl hfile⟩
    induction here with
    | nil => exact hthere [] h (Or.inl rfl)
    | cons name parent ih =>
      by_cases hover : t.PassesOver (name :: parent)
      · obtain ⟨l, hl⟩ := ih ((environmentFile?_of_passesOver hover).symm.trans h)
        exact ⟨l, .above hover hl⟩
      · exact hthere _ h (Or.inr hover)
  · rintro ⟨l, h⟩
    induction h with
    | @here here l contents hl hfile =>
      rw [environmentFile?.eq_def, find_eq_file_iff.2 ⟨l, hl, hfile⟩]
    | above hover _ ih => exact (environmentFile?_of_passesOver hover).trans ih

/-- In a tree of the same shape the environment file is at the same location. -/
theorem EnvironmentFileAt.of_sameShape (h : t.EnvironmentFileAt here l contents)
    (hs : t.SameShape t') (hfile : t'.get? l = some (.file contents')) :
    t'.EnvironmentFileAt here l contents' := by
  induction h with
  | here hl _ => exact .here ((hs.locate_eq ..).symm.trans hl) hfile
  | above hover _ ih =>
    refine .above ?_ (ih hfile)
    unfold PassesOver find at hover ⊢
    rw [← hs.locate_eq]
    cases hl : t.locate .read _ Environment.fileName with
    | error e => simpa only [hl] using hover
    | ok l' =>
      rw [hl] at hover
      dsimp only at hover ⊢
      rcases hs l' with he | ⟨c, c', hc, -⟩
      · rwa [← he]
      · rw [hc] at hover
        exact hover.elim

end FileTree

/-! ## Exporting -/

/-- The world where the file at a location is empty. -/
def World.emptied (w : World) (l : Location) : World :=
  { w with tree := w.tree.place l (.file []) }

namespace Program

open FileTree

variable {w : World} {env env' : Environment} {l : Location} {contents : Bytes}
  {found : List Assignment}

/-- What is loaded is what the assignments of the file in force set. -/
theorem loads_of_assignments (hfile : w.tree.environmentFile? w.workingDirectory = .ok (some contents))
    (hfound : env.assignments contents = .ok found) :
    Loads w env (found.foldl Environment.adopt env) := by
  unfold Loads Environment.inDirectory
  rw [hfile]
  dsimp only
  rw [Environment.extend, hfound]
  rfl

/-- **An environment file acts as if its assignments were exported.**  It may be emptied, if each name
that it assigns to, and that is not set, is set to the first value assigned.  The program then ends
alike, and every other file is the same after it. -/
theorem environmentFile_is_exported
    (hfile : w.tree.environmentFile? w.workingDirectory = .ok (some contents))
    (hfound : env.assignments contents = .ok found)
    (htext : ∀ name, env.IsTextIfAssigned found name) (hext : env.IsExtendedBy found env')
    (arguments : List Bytes) :
    ∃ l, w.tree.EnvironmentFileAt w.workingDirectory l contents ∧
      SameEnding w.tree (w.emptied l).tree (run w env arguments)
        (run (w.emptied l) env' arguments) ∧
      ∀ l' ≠ l, ((run w env arguments).tree w.tree).get? l' =
        ((run (w.emptied l) env' arguments).tree (w.emptied l).tree).get? l' := by
  obtain ⟨l, hl⟩ := environmentFile?_eq_some_iff.1 hfile
  have hne : l ≠ [] := TakesFile.ne_nil (Or.inr ⟨contents, hl.get?_eq⟩)
  have hshape : w.tree.SameShape (w.emptied l).tree := SameShape.place hl.get?_eq []
  have hempty : (w.emptied l).tree.get? l = some (.file []) := by
    rw [World.emptied, get?_place w.tree hne, if_pos rfl]
  have hfile' : (w.emptied l).tree.environmentFile? (w.emptied l).workingDirectory =
      .ok (some []) :=
    environmentFile?_eq_some_iff.2 ⟨l, hl.of_sameShape hshape hempty⟩
  have hloads' : Loads (w.emptied l) env' env' := loads_of_assignments hfile' rfl
  have hd : (w.emptied l).workingDirectory = w.workingDirectory := rfl
  have hp : (w.emptied l).programDirectory = w.programDirectory := rfl
  have hsame := sameEnding_run hd hp hshape (loads_of_assignments hfile hfound) hloads'
    (Environment.sameValues_foldl_adopt htext hext) arguments
  refine ⟨l, hl, hsame, fun l' hl' => ?_⟩
  have hother : (w.emptied l).tree.get? l' = w.tree.get? l' := by
    rw [World.emptied, get?_place w.tree hne, if_neg (Ne.symm hl')]
  rcases hsame.changes l' with ⟨hkept, hkept'⟩ | hchanged
  · rw [hkept, hkept', hother]
  · exact hchanged

/-- An environment file with quotes, references to variables, two assignments to one name, and one to
a name that is set. -/
def exportingFile : Bytes :=
  Text.encode "OUTPUT_DIR=\"/$\x7bDIR\x7d\"\nLOG_LEVEL=$LEVEL\nOUTPUT_DIR=x\nLEVEL=off\n"

/-- A world where the file is found above the working directory, through a link, and past a directory
of its name. -/
def exportingWorld : World where
  tree := ⟨[([[119]], .directory), ([[115], [119]], .directory),
    ([Environment.fileName, [115], [119]], .directory),
    ([Environment.fileName, [119]], .link (Text.encode "e")),
    ([[101], [119]], .file exportingFile), ([[100]], .directory)]⟩
  workingDirectory := [[115], [119]]
  programDirectory := Text.encode "/bin"

/-- An environment where one of the names is set, and another variable to bytes that are no text. -/
def exportingEnvironment : Environment :=
  ⟨[("LEVEL", Text.encode "info"), ("DIR", Text.encode "d"), ("PS1", [0xFF])]⟩

/-- The assignments of the file there. -/
def exportedAssignments : List Assignment :=
  [⟨"OUTPUT_DIR", "/d"⟩, ⟨"LOG_LEVEL", "info"⟩, ⟨"OUTPUT_DIR", "x"⟩, ⟨"LEVEL", "off"⟩]

/-- The environment with the names exported that are not set. -/
def exportedEnvironment : Environment :=
  ⟨[("LEVEL", Text.encode "info"), ("DIR", Text.encode "d"), ("PS1", [0xFF]),
    ("OUTPUT_DIR", Text.encode "/d"), ("LOG_LEVEL", Text.encode "info")]⟩

/-- The file sets the directory and the log filter, which the arguments do not. -/
theorem environmentFile_is_exported_linked :
    let arguments := ["-o", "ubuntu", "--target=cpu"].map Text.encode
    let ending := run exportingWorld exportingEnvironment arguments
    exportingWorld.tree.environmentFile? exportingWorld.workingDirectory =
        .ok (some exportingFile) ∧
      exportingEnvironment.assignments exportingFile = .ok exportedAssignments ∧
      (∀ name, exportingEnvironment.IsTextIfAssigned exportedAssignments name) ∧
      exportingEnvironment.IsExtendedBy exportedAssignments exportedEnvironment ∧
      (∃ l, exportingWorld.tree.EnvironmentFileAt exportingWorld.workingDirectory l exportingFile ∧
        SameEnding exportingWorld.tree (exportingWorld.emptied l).tree ending
          (run (exportingWorld.emptied l) exportedEnvironment arguments)) ∧
      ending.exit = .status 0 ∧ ending.events ≠ [] ∧
      ((ending.tree exportingWorld.tree).get?
        [Text.encode "Dockerfile.ubuntu.20.04.cpu", [100]]).isSome := by
  intro arguments ending
  have hfile : exportingWorld.tree.environmentFile? exportingWorld.workingDirectory =
      .ok (some exportingFile) := by decide +kernel
  have hfound : exportingEnvironment.assignments exportingFile = .ok exportedAssignments := by
    decide +kernel
  have htext : ∀ name, exportingEnvironment.IsTextIfAssigned exportedAssignments name :=
    Environment.isTextIfAssigned_of_values (by decide +kernel)
  have hloaded : exportedAssignments.foldl Environment.adopt exportingEnvironment =
      exportedEnvironment := by decide +kernel
  have hext : exportingEnvironment.IsExtendedBy exportedAssignments exportedEnvironment := by
    intro name
    rw [← hloaded]
    exact Environment.get?_foldl_adopt (htext name)
  have hloads : Loads exportingWorld exportingEnvironment exportedEnvironment :=
    hloaded ▸ loads_of_assignments hfile hfound
  have ha : Accepts exportingWorld exportedEnvironment arguments
      ⟨.ubuntu, .cpu, none, some (Text.encode "/d"), false, some "info"⟩ := by
    unfold Accepts
    decide +kernel
  obtain ⟨l, hl, hsame, -⟩ := environmentFile_is_exported hfile hfound htext hext arguments
  refine ⟨hfile, hfound, htext, hext, ⟨l, hl, hsame⟩, ?_⟩
  rw [show ending = _ from run_of_accepts hloads ha]
  decide +kernel

end Program
end DockerMatrix
