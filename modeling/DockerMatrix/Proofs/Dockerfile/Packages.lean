/-
# Package lists

A package list is one command, and it is written in the way that packages are added to a command: each
package but the first one continues what stands before it (`install_eq`).  So it is a command that
further packages can be added to (`isCommand_install`), and with them it is one complete command, with
all packages in order (`reads_patch_install`), which begins on a line of its own like the list.
-/

import DockerMatrix.Proofs.Dockerfile.Command

namespace DockerMatrix
namespace Dockerfile

/-- The characters that names of packages are usually made of. -/
def isPackageCharacter (c : Char) : Bool :=
  c.isAlphanum || c == '+' || c == '-' || c == '.'

/-- The characters of package names are visible ASCII characters behind `*`, and none is a
backslash. -/
theorem toNat_of_isPackageCharacter {c : Char} (h : isPackageCharacter c = true) :
    0x2B ≤ c.toNat ∧ c.toNat ≤ 0x7A ∧ c.toNat ≠ 0x5C := by
  simp only [isPackageCharacter, Bool.or_eq_true, beq_iff_eq] at h
  rcases h with ((h | rfl) | rfl) | rfl
  · obtain ⟨hlow, hhigh, hne⟩ := Text.toNat_of_isAlphanum h
    exact ⟨by omega, hhigh, hne⟩
  · decide
  · decide
  · decide

/-- Words of these characters are names of packages. -/
theorem isPackageName_of_all {name : List Char} (hne : name ≠ [])
    (h : name.all isPackageCharacter = true) : IsPackageName name := by
  have hcode : ∀ c ∈ name, 0x2B ≤ c.toNat ∧ c.toNat ≤ 0x7A ∧ c.toNat ≠ 0x5C := fun c hc =>
    toNat_of_isPackageCharacter (List.all_eq_true.1 h c hc)
  refine ⟨⟨hne, fun c hc => ⟨?_, ?_⟩⟩, fun hhash => ?_⟩
  · obtain ⟨hlow, hhigh, -⟩ := hcode c hc
    exact Text.isBlank_eq_false (by omega) (by omega)
  · rintro rfl
    exact (hcode _ hc).2.2 rfl
  · exact absurd (hcode _ hhash).1 (by decide)

/-! ## The package list -/

namespace Block

/-- The command up to its first package. -/
def opening (first : String) : String :=
  ofLines ["", "RUN apt-get update && \\"] ++ ("    apt-get install -y " ++ first)

/-- The words of the command. -/
def command (packages : List String) : List String :=
  ["RUN", "apt-get", "update", "&&", "apt-get", "install", "-y"] ++ packages

end Block

/-- The command up to its first package ends in that package. -/
theorem endsInWord_opening {first : String} (h : IsWord first.toList) :
    EndsInWord (Block.opening first).toList [] ((Block.command [first]).map String.toList) := by
  have hskipped : isSkipped "    apt-get install -y ".toList = false := by decide +kernel
  have hlines : linesFrom [] (ofLines ["", "RUN apt-get update && \\"]).toList =
      ["".toList, "RUN apt-get update && \\".toList] := linesFrom_ofLines (by decide)
  have hread : readOn [] ["".toList, "RUN apt-get update && \\".toList] =
      ([], "RUN apt-get update && ".toList) := by decide +kernel
  have hends := EndsInWord.intro (linesFrom_ofLines_append _) (by decide)
    (isSkipped_append hskipped _) h (hlines ▸ hread)
  have hinstall : wordsFrom [] ("RUN apt-get update && ".toList ++
      ("    apt-get install -y ".toList ++ first.toList)) =
        ["RUN", "apt-get", "update", "&&", "apt-get", "install", "-y"].map String.toList ++
          [first.toList] := by
    have hblank : "    apt-get install -y ".toList = "    apt-get install -y".toList ++ [' '] := by
      decide +kernel
    have hwords : wordsFrom [] ("RUN apt-get update && ".toList ++ "    apt-get install -y".toList) =
      ["RUN", "apt-get", "update", "&&", "apt-get", "install", "-y"].map String.toList := by
        decide +kernel
    rw [hblank, ← List.append_assoc, ← List.append_assoc, List.append_assoc,
      List.singleton_append, wordsFrom_append_blank (by decide), wordsFrom_word h, hwords]
  rw [hinstall] at hends
  rwa [Block.opening, String.toList_append, String.toList_append]

/-- A continuation ends the line before it. -/
theorem continuation_eq (package : String) :
    Block.continuation package = " \\" ++ ("\n" ++ (Block.packageIndent ++ package)) := by
  have hend : " \\" ++ "\n" = " \\\n" := by decide +kernel
  rw [Block.continuation, ← String.append_assoc, hend, String.append_assoc]

/-- The lines of a package list, with the backslash before them, are its packages as continuations.
-/
theorem ofLines_packageLines (package : String) (rest : List String) :
    " \\" ++ ("\n" ++ ofLines (Block.packageLines (package :: rest))) =
      Block.continuations (package :: rest) ++ "\n" := by
  induction rest generalizing package with
  | nil =>
    rw [continuations_cons, continuation_eq, Block.packageLines, ofLines, ofLines,
      Block.continuations, List.map_nil, String.join_nil]
    simp only [String.append_assoc, String.append_empty]
  | cons next rest ih =>
    have hlines : Block.packageLines (package :: next :: rest) =
        (Block.packageIndent ++ package ++ " \\") :: Block.packageLines (next :: rest) := rfl
    rw [continuations_cons, continuation_eq, String.append_assoc, ← ih next, hlines, ofLines]
    simp only [String.append_assoc]

/-- **A package list is its command up to the first package, continued by the others.** -/
theorem install_eq (first : String) {others : List String} (h : others ≠ []) :
    Block.install first others =
      Block.opening first ++ Block.continuations others ++ "\n" := by
  obtain ⟨package, rest, rfl⟩ := List.exists_cons_of_ne_nil h
  rw [String.append_assoc, ← ofLines_packageLines, Block.install, Block.opening]
  simp only [ofLines, String.append_assoc, String.append_empty]

/-- A command ends in the last of its packages. -/
theorem endsInWord_command {first : String} {packages : List String}
    (hp : ∀ package ∈ first :: packages, IsPackageName package.toList) :
    EndsInWord (Block.opening first ++ Block.continuations packages).toList []
      ((Block.command (first :: packages)).map String.toList) := by
  have hfirst := hp first List.mem_cons_self
  have hall := (endsInWord_opening hfirst.toIsWord).continuations
    fun p hm => hp p (List.mem_cons_of_mem _ hm)
  rwa [String.toList_append]

variable {first : String} {others extra : List String}

/-- **A package list is a command.** -/
theorem isCommand_install (hothers : others ≠ [])
    (hp : ∀ package ∈ first :: others, IsPackageName package.toList) :
    IsCommand (Block.install first others) (Block.command (first :: others)) := by
  have hblank : ∀ c ∈ ['\n'], Text.isBlank c = true := List.forall_mem_singleton.2 (by decide)
  have htext : (Block.install first others).toList =
      (Block.opening first ++ Block.continuations others).toList ++ ['\n'] := by
    rw [install_eq first hothers, String.toList_append]
    rfl
  rw [isCommand_iff, htext, Text.trimEnd_append_blanks hblank, (endsInWord_command hp).trimEnd_eq]
  exact endsInWord_command hp

/-- A command that begins with a blank line does so with more packages, too. -/
theorem IsCommand.beginsBlank_patch {block : String} {command : List String}
    (h : IsCommand block command) (hb : BeginsBlank block) (extra : List String) :
    BeginsBlank (Block.patch block extra) := by
  by_cases hextra : extra = []
  · subst hextra
    exact hb
  · obtain ⟨blanks, -, hblock⟩ := Text.exists_eq_trimEnd_append block.toList
    have hne : Text.trimEnd block.toList ≠ [] := h.endsInWord.ne_nil
    rw [BeginsBlank, hblock, List.head?_append_of_ne_nil _ hne] at hb
    rw [BeginsBlank, toList_patch block hextra, List.head?_append_of_ne_nil _ hne, hb]

/-- A package list begins on a line of its own, with more packages or without. -/
theorem beginsBlank_patch_install (hothers : others ≠ [])
    (hp : ∀ package ∈ first :: (others ++ extra), IsPackageName package.toList) :
    BeginsBlank (Block.patch (Block.install first others) extra) := by
  rw [← List.cons_append, List.forall_mem_append] at hp
  exact (isCommand_install hothers hp.1).beginsBlank_patch (beginsBlank_ofLines _) extra

/-- **A package list, with more packages or without,** is read as the command with all of them. -/
theorem reads_patch_install (hothers : others ≠ [])
    (hp : ∀ package ∈ first :: (others ++ extra), IsPackageName package.toList) :
    Reads (Block.patch (Block.install first others) extra)
      [Block.command (first :: (others ++ extra))] := by
  rw [← List.cons_append, List.forall_mem_append] at hp
  exact ((isCommand_install hothers hp.1).patch hp.2).endsInWord.reads

end Dockerfile
end DockerMatrix
