/-
# Storing in an accepted directory

While the command line is read, the directory's path is resolved and checked; while Dockerfiles are
stored, other paths are resolved, each of them the directory's path with a name behind it.  The check
is enough for storing (`directory_check_suffices`): it accepts a path if and only if the path resolves
to a directory, and a run into an accepted directory fails at no target whose name is free there, or
is that of a file, and whose path is not too long.

The Dockerfiles that have been stored before change nothing about this, because no walk looks at
files.  A link that bears a Dockerfile's name stands in the way only if it stands in that directory,
because such a name is looked up nowhere else.
-/

import DockerMatrix.Proofs.FileTree.Resolution
import DockerMatrix.Proofs.Generation.Footprint
import DockerMatrix.Proofs.Text.Sequences

namespace DockerMatrix

open FileTree

/-! ## The check -/

namespace Arguments

/-- The text about a stop ends in a reason, on streams that show styles and on others. -/
def Stop.Reports (stop : Stop) (reason : String) : Prop :=
  ∀ env styles, ∃ before, stop.printedText env styles = before ++ "\n\n  reason: " ++ reason

/-- The value in front of the reason is text from outside.  Whatever sequences it begins, they are over
at the reset behind the option's name. -/
theorem Stop.reports_of_styledText {stop : Stop} {start reason : String}
    (hs : ∀ env, stop.styledText env = start ++ Status.sequence "0" ++ "'" ++ "\n\n  reason: " ++ reason)
    (hr : Text.printed ("'" ++ "\n\n  reason: " ++ reason) = "'" ++ "\n\n  reason: " ++ reason) :
    stop.Reports reason := by
  intro env styles
  rw [Stop.printedText, hs]
  cases styles with
  | true => exact ⟨_, rfl⟩
  | false =>
    have hreset := Text.printed_append_reset start ("'" ++ "\n\n  reason: " ++ reason)
    rw [hr] at hreset
    refine ⟨Text.printed start ++ "'", ?_⟩
    simp only [String.append_assoc] at hreset ⊢
    exact hreset

/-- A rejected directory is reported with what is the matter with it. -/
theorem Stop.reports_noDirectory (p : Path) (problem : DirectoryProblem) :
    (Stop.noDirectory p problem).Reports
      (match problem with
        | .notDirectory => "not a directory"
        | .absent => "directory does not exist") := by
  have hstyled : ∀ reason, usageError ("invalid value " ++ quotedValue (Text.lossy p) ++ " for " ++
      quotedOption Setting.outputDirectory.label ++ "\n\n  reason: " ++ reason) =
      (Style.alarm.apply "error:" ++ " " ++ "invalid value " ++ quotedValue (Text.lossy p) ++ " for " ++
        "'" ++ Status.sequence "1" ++ Setting.outputDirectory.label) ++ Status.sequence "0" ++ "'" ++
        "\n\n  reason: " ++ reason := by
    intro reason
    have hliteral : Style.literal.apply Setting.outputDirectory.label =
      Status.sequence "1" ++ Setting.outputDirectory.label ++ Status.sequence "0" := rfl
    simp only [usageError, quotedOption, hliteral, String.append_assoc]
  cases problem with
  | notDirectory => exact reports_of_styledText (fun _ => hstyled _) (by decide)
  | absent => exact reports_of_styledText (fun _ => hstyled _) (by decide)

/-- What the check of a directory makes of a path: the path is accepted as it is, or there is one of
two reasons against it. -/
structure DirectoryChecked (t : FileTree) (here : Location) (g : Gathered) (p : Path) : Prop where
  accepted : ∀ g', g.settle (t.kindOf here) .outputDirectory (some p) = .ok g' ↔
    g' = { g with outputDirectory := some p } ∧ t.StandsAt here p .directory
  rejected : ∀ stop, g.settle (t.kindOf here) .outputDirectory (some p) = .error stop ↔
    stop = .noDirectory p .notDirectory ∧ (∃ e, t.StandsAt here p e ∧ e ≠ .directory) ∨
      stop = .noDirectory p .absent ∧ ∀ e, ¬t.StandsAt here p e
  notDirectory : (Stop.noDirectory p .notDirectory).Reports "not a directory"
  absent : (Stop.noDirectory p .absent).Reports "directory does not exist"

/-- **The check of a directory sees what its path resolves to.** -/
theorem directory_checked (t : FileTree) (here : Location) {g : Gathered} {p : Path}
    (hg : g.outputDirectory = none) (hp : p ≠ []) : DirectoryChecked t here g p := by
  have hsettle : g.settle (t.kindOf here) .outputDirectory (some p) =
      g.assign (t.kindOf here) .outputDirectory p := by
    simp [Gathered.settle, Gathered.has, hg, hp]
  refine ⟨fun g' => ?_, fun stop => ?_, Stop.reports_noDirectory p .notDirectory,
    Stop.reports_noDirectory p .absent⟩
  · rw [hsettle, ← kindOf_directory_iff, Gathered.assign]
    cases t.kindOf here p <;> simp [eq_comm]
  · rw [hsettle, ← kindOf_other_iff, ← kindOf_absent_iff, Gathered.assign]
    cases t.kindOf here p <;> simp [eq_comm]

end Arguments

/-! ## Storing -/

namespace Generation

open Arguments (Gathered DirectoryChecked directory_checked)

variable {here d : Location} {p : Path} {t u : FileTree} {r : Request} {target : Target}
  {targets : List Target}

/-- There is room for a target's Dockerfile in a directory: the path is not too long, and no entry but
a file bears the name. -/
structure HasRoom (t : FileTree) (p : Path) (d : Location) (target : Target) : Prop where
  fits : (target.artifact.destination p).length < pathLimit
  takesFile : t.TakesFile (target.entryName :: d)

/-- **A Dockerfile is stored where there is room for it**, whatever files have been stored before. -/
theorem exists_store_of_hasRoom (hd : t.LeadsIn here p d) (hr : HasRoom t p d target)
    (hf : t.SameFrame u) : ∃ u', target.artifact.store u here p = .ok u' := by
  have hl : destinationIn here p u target = .ok (target.entryName :: d) := by
    rw [destinationIn_eq hd hf hr.takesFile.ne_link, if_pos hr.fits]
  exact ⟨_, write_eq_ok_iff.2 ⟨_, hl, Or.inl ⟨hf.takesFile hr.takesFile, rfl⟩⟩⟩

/-- **A run into a directory fails at a target for which there is no room.** -/
theorem exists_not_hasRoom_of_failure (hd : t.LeadsIn here r.directory d)
    (ht : r.targets = .ok targets) {f : Failure} (hfail : (run here t r).failure = some f) :
    ∃ target ∈ targets, ∃ e, f = .storage target e ∧ ¬HasRoom t r.directory d target := by
  have hc := run_course here t r
  generalize run here t r = o at hc hfail
  cases hc with
  | refused e hno => rw [ht] at hno; cases hno
  | printed => cases hfail
  | stored => cases hfail
  | broken before target after tree' e hall hdry hs he =>
    obtain rfl := Except.ok.inj (ht.symm.trans hall)
    refine ⟨target, by simp, e, (Option.some.inj hfail).symm, fun hroom => ?_⟩
    obtain ⟨u', hu⟩ := exists_store_of_hasRoom hd hroom (storeAll_onlyStores hs).sameFrame
    rw [hu] at he
    cases he

/-- **The check of a directory is enough for storing.**  A path that is not empty is accepted, as it
is, if and only if it resolves to a directory, and the reason against it says whether it resolves to
anything.  A run into an accepted directory that has room for the Dockerfile of each target does not
fail, and a run that fails there fails at a target whose path is too long, or whose name is borne by
something that is no file. -/
theorem directory_check_suffices (t : FileTree) (here : Location) {g : Gathered} {p : Path}
    (hg : g.outputDirectory = none) (hp : p ≠ []) :
    DirectoryChecked t here g p ∧
      ∀ d, t.ResolvesTo here p d → t.get? d = some .directory →
        ∀ r : Request, r.directory = p → ∀ targets, r.targets = .ok targets →
          ((∀ target ∈ targets, HasRoom t p d target) → (run here t r).failure = none) ∧
          ∀ f, (run here t r).failure = some f →
            ∃ target ∈ targets, ∃ e, f = .storage target e ∧
              (pathLimit ≤ (target.artifact.destination p).length ∨
                ∃ entry, t.get? (target.entryName :: d) = some entry ∧
                  ∀ contents, entry ≠ .file contents) := by
  refine ⟨directory_checked t here hg hp, ?_⟩
  rintro d hd hdirectory r rfl targets ht
  have hleads : t.LeadsIn here r.directory d :=
    ⟨hdirectory, by rw [if_neg hp]; exact locate_read_ok_iff.2 hd⟩
  refine ⟨fun hroom => ?_, fun f hf => ?_⟩
  · cases hf : (run here t r).failure with
    | none => rfl
    | some f =>
      obtain ⟨target, hm, -, -, hno⟩ := exists_not_hasRoom_of_failure hleads ht hf
      exact absurd (hroom target hm) hno
  · obtain ⟨target, hm, e, rfl, hno⟩ := exists_not_hasRoom_of_failure hleads ht hf
    refine ⟨target, hm, e, rfl, ?_⟩
    by_contra hroom
    obtain ⟨hfits, hentry⟩ := not_or.1 hroom
    refine hno ⟨Nat.lt_of_not_le hfits, ?_⟩
    cases he : t.get? (target.entryName :: d) with
    | none => exact Or.inl he
    | some entry =>
      by_cases hfile : ∃ contents, entry = .file contents
      · obtain ⟨contents, rfl⟩ := hfile
        exact Or.inr ⟨contents, he⟩
      · exact absurd ⟨entry, he, fun contents h => hfile ⟨contents, h⟩⟩ hentry

/-- A tree where two links lead to a directory with a file in it, and a third one bears the name of a
Dockerfile outside that directory and leads nowhere. -/
def linkedTree : FileTree :=
  ⟨[([[119]], .directory), ([[108]], .link [119, 47, 46]), ([[109]], .link [108, 47]),
    ([Text.encode "Dockerfile.ubuntu.18.04"], .link [120, 47]),
    ([Text.encode "Dockerfile.ubuntu.20.04", [119]], .file [1])]⟩

/-- The run for all versions, into the directory by a path through both links. -/
theorem directory_check_suffices_linked :
    let p := Text.encode "m/../l//"
    let r : Request := ⟨.ubuntu, .gpu, none, p, false⟩
    Gathered.empty.settle (linkedTree.kindOf []) .outputDirectory (some p) =
        .ok { Gathered.empty with outputDirectory := some p } ∧
      (run [] linkedTree r).failure = none := by
  intro p r
  obtain ⟨hchecked, hruns⟩ := directory_check_suffices linkedTree [] (g := .empty) (p := p) rfl
    (by decide +kernel)
  have hd : linkedTree.ResolvesTo [] p [[119]] := locate_read_ok_iff.1 (by decide +kernel)
  have hdirectory : linkedTree.get? [[119]] = some .directory := by decide +kernel
  have hroom : ∀ target ∈ OperatingSystem.ubuntu.targets .gpu,
      (target.artifact.destination p).length < pathLimit ∧
        (linkedTree.get? [target.entryName, [119]] = none ∨
          linkedTree.get? [target.entryName, [119]] = some (.file [1])) := by decide +kernel
  refine ⟨(hchecked.accepted _).2 ⟨rfl, _, hd, hdirectory⟩, ?_⟩
  refine (hruns _ hd hdirectory r rfl _ rfl).1 fun target hm => ?_
  exact ⟨(hroom target hm).1, (hroom target hm).2.imp_right fun h => ⟨_, h⟩⟩

end Generation
end DockerMatrix
