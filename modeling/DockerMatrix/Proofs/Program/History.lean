/-
# What the program leaves after any history

The program is started again and again in one tree, each time in some working directory, with some
environment and some arguments.  Whatever it does at each start, the tree evolves in one way
(`history_evolves`): Dockerfiles come, and a file that bears the name of a Dockerfile may become that
Dockerfile, all of it; nothing else changes, and nothing goes.

One start stores Dockerfiles under their own names or changes nothing (`onlyGenerates_after`), so the
same holds from any point of a history to any later one.  As every Dockerfile has a name of its own, no
history mixes two of them.
-/

import DockerMatrix.Proofs.Generation.Footprint
import DockerMatrix.Proofs.Program.Ending

namespace DockerMatrix

open Text (Bytes)

/-- A start of the program. -/
structure Invocation where
  workingDirectory : Location
  environment : Environment
  arguments : List Bytes
  deriving DecidableEq, Repr

/-- The world after a start of the program in it. -/
def World.after (w : World) (i : Invocation) : World :=
  let started := { w with workingDirectory := i.workingDirectory }
  { started with tree := (Program.run started i.environment i.arguments).tree w.tree }

/-- The world after the program has been started several times. -/
def World.afterAll (w : World) (history : List Invocation) : World :=
  history.foldl World.after w

/-- Invocations follow one after the other. -/
theorem World.afterAll_append (w : World) (earlier later : List Invocation) :
    w.afterAll (earlier ++ later) = (w.afterAll earlier).afterAll later :=
  List.foldl_append

namespace FileTree

variable {t t' : FileTree}

/-- A file at a location is a Dockerfile: it bears the name of a target's Dockerfile, and holds that
Dockerfile and nothing else. -/
structure IsDockerfile (l : Location) (contents : Bytes) : Prop where
  named : ∃ target : Target, l.head? = some target.entryName
  whole : ∀ target : Target, l.head? = some target.entryName →
    contents = Text.encode target.dockerfile

/-- The name of a Dockerfile decides for which target it is. -/
theorem isDockerfile_cons (target : Target) (d : Location) :
    IsDockerfile (target.entryName :: d) (Text.encode target.dockerfile) where
  named := ⟨target, rfl⟩
  whole := by
    intro target' hl
    have hname : target.entryName = target'.entryName := Option.some.inj hl
    rw [Target.fileName_injective (Text.encode_injective hname)]

/-- How a tree evolves while Dockerfiles are generated in it. -/
structure Evolves (before after : FileTree) : Prop where
  /-- A file is as it was, or it is a Dockerfile. -/
  file : ∀ l contents, after.get? l = some (.file contents) →
    before.get? l = some (.file contents) ∨ IsDockerfile l contents
  /-- What has been created is a file, and a Dockerfile. -/
  created : ∀ l e, before.get? l = none → after.get? l = some e →
    ∃ contents, e = .file contents ∧ IsDockerfile l contents
  /-- Nothing has been removed, and what was a file is one still. -/
  kept : ∀ l e, before.get? l = some e →
    after.get? l = some e ∨ (∃ old, e = .file old) ∧ ∃ new, after.get? l = some (.file new)
  /-- No directory, link or device has been created or changed. -/
  frame : ∀ l e, (∀ contents, e ≠ .file contents) →
    (after.get? l = some e ↔ before.get? l = some e)

/-- **How a tree evolves if only Dockerfiles are stored in it.** -/
theorem OnlyGenerates.evolves {into : Target → Location → Prop} (h : t.OnlyGenerates into t') :
    t.Evolves t' where
  file := by
    intro l contents hfile
    rcases h l with he | ⟨-, target, d, -, rfl, hstored⟩
    · exact Or.inl (he.trans hfile)
    · rw [hstored, Option.some.injEq, Entry.file.injEq] at hfile
      exact Or.inr (hfile ▸ isDockerfile_cons target d)
  created := by
    intro l e hnone he
    rcases h l with heq | ⟨-, target, d, -, rfl, hstored⟩
    · rw [← heq, hnone] at he
      cases he
    · rw [hstored, Option.some.injEq] at he
      exact ⟨_, he.symm, isDockerfile_cons target d⟩
  kept := by
    intro l e he
    rcases h l with heq | ⟨hnone | ⟨old, hold⟩, target, d, -, -, hstored⟩
    · exact Or.inl (heq.symm.trans he)
    · rw [hnone] at he
      cases he
    · rw [hold, Option.some.injEq] at he
      exact Or.inr ⟨⟨old, he.symm⟩, _, hstored⟩
  frame := fun _ _ he => h.onlyStores.sameFrame.get?_eq_some_iff he

end FileTree

namespace Program

open FileTree

variable {w : World}

/-- **One start of the program** stores Dockerfiles under their own names, or changes nothing. -/
theorem onlyGenerates_after (hn : w.tree.NoLinkedDockerfile) (i : Invocation) :
    w.tree.OnlyGenerates (fun _ _ => True) (w.after i).tree := by
  rcases tree_run { w with workingDirectory := i.workingDirectory } i.environment i.arguments with
    hsame | ⟨env', a, -, -, hrun⟩
  · rw [World.after, hsame]
    exact OnlyGenerates.refl _ w.tree
  · rw [World.after, hrun]
    exact (Generation.run_onlyGenerates _ _ hn).mono fun _ _ _ => trivial

/-- Several starts of the program store Dockerfiles under their own names, and change nothing else. -/
theorem onlyGenerates_afterAll (hn : w.tree.NoLinkedDockerfile) (history : List Invocation) :
    w.tree.OnlyGenerates (fun _ _ => True) (w.afterAll history).tree := by
  induction history generalizing w with
  | nil => exact OnlyGenerates.refl _ w.tree
  | cons i rest ih =>
    have hfirst := onlyGenerates_after hn i
    exact hfirst.trans (ih (hfirst.onlyStores.sameFrame.noLinkedDockerfile hn))

/-- **The history of a tree.**  In a world where no link bears the name of a Dockerfile, the tree
evolves by Dockerfiles alone, from the first start of the program to the last and from any point in
between to any later one, and still no link bears such a name. -/
theorem history_evolves (hn : w.tree.NoLinkedDockerfile) (earlier later : List Invocation) :
    w.tree.Evolves (w.afterAll (earlier ++ later)).tree ∧
      (w.afterAll earlier).tree.Evolves (w.afterAll (earlier ++ later)).tree ∧
      (w.afterAll (earlier ++ later)).tree.NoLinkedDockerfile := by
  have hearlier := onlyGenerates_afterAll hn earlier
  have hn' := hearlier.onlyStores.sameFrame.noLinkedDockerfile hn
  have hlater := onlyGenerates_afterAll hn' later
  rw [World.afterAll_append]
  refine ⟨(hearlier.trans hlater).evolves, hlater.evolves, ?_⟩
  exact hlater.onlyStores.sameFrame.noLinkedDockerfile hn'

/-- A world with a stale Dockerfile, a directory in the place of another one, a directory with an
environment file that cannot be used, and a link to the first of the two directories. -/
def workedWorld : World where
  tree := ⟨[([[119]], .directory),
    ([Text.encode "Dockerfile.ubuntu.18.04", [119]], .file (Text.encode "stale")),
    ([Text.encode "Dockerfile.ubuntu.20.04.cpu", [119]], .directory),
    ([[120]], .directory), ([Environment.fileName, [120]], .file (Text.encode "=\n")),
    ([[108]], .link (Text.encode "w"))]⟩
  workingDirectory := [[119]]
  programDirectory := Text.encode "/w"

/-- A dry run, arguments that are not accepted, an environment file that cannot be used, a run that
fails at its second target, and one that does not fail. -/
def workedHistory : List Invocation :=
  [⟨[[119]], .empty, ["-o", "ubuntu", "-t", "gpu", "--dry-run"].map Text.encode⟩,
   ⟨[[119]], .empty, ["-o", "beos", "-t", "gpu"].map Text.encode⟩,
   ⟨[[120]], .empty, ["-o", "ubuntu", "-t", "gpu"].map Text.encode⟩,
   ⟨[[119]], .empty, ["-o", "ubuntu", "-t", "cpu", "--output-dir", "/l"].map Text.encode⟩,
   ⟨[[120], [119]], .empty, ["-o", "ubuntu", "-t", "gpu", "--output-dir", "/l/"].map Text.encode⟩]

/-- A history that stores its first Dockerfile on the way. -/
theorem history_evolves_worked :
    workedWorld.tree.NoLinkedDockerfile ∧
      workedWorld.tree.get? [Text.encode "Dockerfile.ubuntu.18.04.cpu", [119]] = none ∧
      ((workedWorld.afterAll workedHistory).tree.get?
        [Text.encode "Dockerfile.ubuntu.18.04.cpu", [119]]).isSome ∧
      workedWorld.tree.Evolves (workedWorld.afterAll workedHistory).tree := by
  have hn : workedWorld.tree.NoLinkedDockerfile := noLinkedDockerfile_of_entries (by decide +kernel)
  obtain ⟨hevolves, -⟩ := history_evolves hn [] workedHistory
  exact ⟨hn, by decide +kernel, by decide +kernel, hevolves⟩

end Program
end DockerMatrix
