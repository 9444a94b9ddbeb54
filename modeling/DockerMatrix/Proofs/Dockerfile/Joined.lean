/-
# The instructions of a Dockerfile are those of its blocks

A Dockerfile is its blocks, one directly behind the other.  Whatever the operating system, the version,
the script and the further packages are called, no block changes how another one is read
(`Recipe.instructions_text`): each block is complete, also a package list that ends without a line end,
and each block but the base image begins with a blank line (`Follows`).  So the base image is the one
that the recipe names, and the script is copied under its own name.

| block | parameters | instructions |
| --- | --- | --- |
| base image | operating system, version | one `FROM` |
| package list | further packages | one `RUN` |
| scripts | script | `WORKDIR`, `COPY`, `WORKDIR`, `ENV` |
| any other | none | no `FROM` |
-/

import DockerMatrix.Dockerfile.Recipe
import DockerMatrix.Proofs.Dockerfile.Packages
import DockerMatrix.Proofs.Target.FileName

namespace DockerMatrix
namespace Dockerfile

/-- Whether an instruction names a base image. -/
def isFrom (instruction : List String) : Bool :=
  instruction.head?.any fun word => sameName true word "FROM"

/-- A block that can stand behind any other: it begins with a blank line, it is complete, and it names
no base image. -/
structure Follows (block : String) : Prop where
  beginsBlank : BeginsBlank block
  isComplete : IsComplete block
  isFrom_eq : ∀ instruction ∈ instructions block, isFrom instruction = false

/-! ## The base image -/

/-- A base image between comments is the one instruction of its block. -/
theorem reads_base {image : String} (himage : IsWord image.toList) {comments : List String}
    (hcomments : ∀ comment ∈ comments, '\n' ∉ comment.toList ∧ isSkipped comment.toList = true) :
    Reads (ofLines (Block.header :: ("FROM " ++ image) :: comments)) [["FROM", image]] := by
  have hfrom : ("FROM " ++ image).toList = "FROM".toList ++ ' ' :: image.toList := by
    rw [String.toList_append]
    rfl
  have hnewline : ∀ line ∈ Block.header :: ("FROM " ++ image) :: comments, '\n' ∉ line.toList := by
    intro line hline
    rw [List.mem_cons, List.mem_cons] at hline
    rcases hline with rfl | rfl | hline
    · decide
    · rw [hfrom, List.mem_append, List.mem_cons, not_or, not_or]
      exact ⟨by decide, by decide, himage.newline_notMem⟩
    · exact (hcomments line hline).1
  have hrest : readOn [] (comments.map String.toList) = ([], []) :=
    readOn_of_skipped (List.forall_mem_map.2 fun comment hc => (hcomments comment hc).2)
  rw [Reads, read, linesFrom_ofLines hnewline, List.map_cons, List.map_cons,
    readOn_skipped (by decide), hfrom, readOn_word (by decide) himage, hrest]
  rfl

/-! ## The scripts -/

/-- The instructions of the scripts. -/
def scriptInstructions (script : String) : List (List String) :=
  [["WORKDIR", "/home/dev/scripts"], ["COPY", "ci/scripts/" ++ script, script],
   ["WORKDIR", "/home/dev"], ["ENV", "LANG=\"C.UTF-8\""]]

/-- The scripts are read as their four instructions. -/
theorem reads_scripts {script : String} (h : IsWord script.toList) :
    Reads (Block.scripts script) (scriptInstructions script) := by
  have hcopy : ("COPY ci/scripts/" ++ script ++ " " ++ script).toList =
      ("COPY".toList ++ ' ' :: ("ci/scripts/" ++ script).toList) ++ ' ' :: script.toList := by
    rw [String.toList_append, String.toList_append, String.toList_append, String.toList_append,
      List.append_assoc]
    rfl
  have hsource : IsWord ("ci/scripts/" ++ script).toList := by
    rw [String.toList_append]
    exact IsWord.append (by decide) h
  have hwords : wordsFrom [] ("COPY".toList ++ ' ' :: ("ci/scripts/" ++ script).toList) =
      ["COPY".toList, ("ci/scripts/" ++ script).toList] := by
    rw [wordsFrom_append_blank (by decide), wordsFrom_word hsource]
    rfl
  have hbefore : readOn [] (["", "# Load scripts for build and test",
      "WORKDIR /home/dev/scripts"].map String.toList) =
      ([["WORKDIR".toList, "/home/dev/scripts".toList]], []) := by decide +kernel
  have hbehind : readOn [] (["", "WORKDIR /home/dev", "ENV LANG=\"C.UTF-8\""].map String.toList) =
      ([["WORKDIR".toList, "/home/dev".toList], ["ENV".toList, "LANG=\"C.UTF-8\"".toList]],
        []) := by decide +kernel
  have hlines : Block.scripts script = ofLines
      (["", "# Load scripts for build and test", "WORKDIR /home/dev/scripts"] ++
        ("COPY ci/scripts/" ++ script ++ " " ++ script) ::
          ["", "WORKDIR /home/dev", "ENV LANG=\"C.UTF-8\""]) := rfl
  have hnewline : ∀ line ∈ ["", "# Load scripts for build and test", "WORKDIR /home/dev/scripts"] ++
      ("COPY ci/scripts/" ++ script ++ " " ++ script) ::
        ["", "WORKDIR /home/dev", "ENV LANG=\"C.UTF-8\""], '\n' ∉ line.toList := by
    refine List.forall_mem_append.2 ⟨by decide, List.forall_mem_cons.2 ⟨?_, by decide⟩⟩
    rw [hcopy, String.toList_append]
    simp [h.newline_notMem]
  rw [Reads, read, hlines, linesFrom_ofLines hnewline, List.map_append, readOn_append, hbefore,
    List.map_cons, hcopy, readOn_word (isSkipped_append (by decide) _) h, List.nil_append, hwords,
    hbehind]
  rfl

/-! ## The blocks behind the base image -/

/-- A block can stand behind any other if it begins blank and is read as instructions none of which
names a base image. -/
theorem Follows.of_reads {block : String} {is : List (List String)} (hbegins : BeginsBlank block)
    (hreads : Reads block is) (hfrom : ∀ instruction ∈ is, isFrom instruction = false) :
    Follows block where
  beginsBlank := hbegins
  isComplete := hreads.isComplete
  isFrom_eq := by rwa [hreads.instructions_eq]

/-- The scripts can stand behind any block. -/
theorem follows_scripts {script : String} (h : IsWord script.toList) :
    Follows (Block.scripts script) :=
  .of_reads (beginsBlank_ofLines _) (reads_scripts h)
    (by simp [scriptInstructions, isFrom, sameName])

/-- A package list can stand behind any block, with more packages or without. -/
theorem follows_patch_install {first : String} {others extra : List String} (hothers : others ≠ [])
    (hp : ∀ package ∈ first :: (others ++ extra), IsPackageName package.toList) :
    Follows (Block.patch (Block.install first others) extra) :=
  .of_reads (beginsBlank_patch_install hothers hp) (reads_patch_install hothers hp)
    (by simp [Block.command, isFrom, sameName])

/-- Whether lines are complete and name no base image. -/
def standAlone (lines : List (List Char)) : Bool :=
  lines.all (fun line => !line.contains '\n') && (readOn [] lines).2.isEmpty &&
    (readOn [] lines).1.all fun words => !isFrom (words.map String.ofList)

/-- Ended lines that are complete and name no base image can stand behind any block, if they
begin with a blank one. -/
theorem follows_ofLines {lines : List String} (h : standAlone (lines.map String.toList) = true) :
    Follows (ofLines ("" :: lines)) := by
  simp only [standAlone, Bool.and_eq_true, List.all_eq_true, List.isEmpty_iff] at h
  obtain ⟨⟨hnewline, hclosed⟩, hfrom⟩ := h
  have hlines : ∀ line ∈ "" :: lines, '\n' ∉ line.toList := by
    refine List.forall_mem_cons.2 ⟨by decide, fun line hl => ?_⟩
    simpa using hnewline line.toList (List.mem_map_of_mem hl)
  have hread : read (ofLines ("" :: lines)) = readOn [] (lines.map String.toList) := by
    rw [read, linesFrom_ofLines hlines, List.map_cons, readOn_skipped (by decide)]
  have hcomplete : IsComplete (ofLines ("" :: lines)) := by rw [IsComplete, hread, hclosed]
  refine ⟨beginsBlank_ofLines _, hcomplete, fun i hi => ?_⟩
  rw [hcomplete.instructions_eq, hread] at hi
  obtain ⟨words, hwords, rfl⟩ := List.mem_map.1 hi
  simpa using hfrom words hwords

/-- The blocks without parameters. -/
def Block.fixed : List String :=
  [driverCapabilities, maintainer, cmake, llvm, vulkan, user, conda]

/-- Every block without parameters can stand behind any other. -/
theorem follows_of_mem_fixed : ∀ block ∈ Block.fixed, Follows block := by
  simp only [Block.fixed, List.forall_mem_cons, List.not_mem_nil, false_implies, implies_true,
    and_true]
  refine ⟨follows_ofLines ?_, follows_ofLines ?_, follows_ofLines ?_, follows_ofLines ?_,
    follows_ofLines ?_, follows_ofLines ?_, follows_ofLines ?_⟩
  -- The lines are read as lists of characters, because evaluating long strings is slow.
  all_goals
    simp only [List.map_cons, List.map_nil]
    repeat rw [String.toList_ofList]
    decide +kernel

end Dockerfile

/-! ## Recipes -/

namespace Recipe

open Dockerfile

/-- The base image that a recipe names. -/
def image (r : Recipe) : String :=
  match r.hardware with
  | .cpu => r.os ++ ":" ++ r.version
  | .gpu => "nvidia/cudagl:11.2.2-devel-ubuntu" ++ r.version

/-- The parameters of a recipe are words, and the packages are names.  With a graphics card the
operating system has no part in the Dockerfile, so it can be any text. -/
structure IsPlain (r : Recipe) : Prop where
  os : r.hardware = .cpu → IsWord r.os.toList
  version : IsWord r.version.toList
  script : IsWord r.script.toList
  extraPackages : ∀ package ∈ r.extraPackages, IsPackageName package.toList

/-- The package list of a recipe can stand behind any block. -/
theorem follows_install {r : Recipe} (h : r.IsPlain) : Follows r.install := by
  have hcpu : (Block.firstPackage :: Block.cpuPackages).all
      (fun package => decide (IsPackageName package.toList)) = true := by decide +kernel
  have hgpu : (Block.firstPackage :: Block.gpuPackages).all
      (fun package => decide (IsPackageName package.toList)) = true := by decide +kernel
  simp only [List.all_eq_true, decide_eq_true_iff] at hcpu hgpu
  have hall : ∀ others : List String,
      (∀ package ∈ Block.firstPackage :: others, IsPackageName package.toList) →
        ∀ package ∈ Block.firstPackage :: (others ++ r.extraPackages),
          IsPackageName package.toList := by
    intro others ho
    rw [← List.cons_append]
    exact List.forall_mem_append.2 ⟨ho, h.extraPackages⟩
  unfold install
  cases r.hardware with
  | cpu => exact follows_patch_install (by decide) (hall _ hcpu)
  | gpu => exact follows_patch_install (by decide) (hall _ hgpu)

/-- The base image without a graphics card is the one of the operating system. -/
theorem reads_cpuBase {os version : String} (hos : IsWord os.toList)
    (hversion : IsWord version.toList) :
    Reads (Block.cpuBase os version) [["FROM", os ++ ":" ++ version]] := by
  have himage : IsWord (os ++ ":" ++ version).toList := by
    rw [String.toList_append, String.toList_append]
    exact (hos.append (by decide)).append hversion
  have hbase : Block.cpuBase os version =
      ofLines (Block.header :: ("FROM " ++ (os ++ ":" ++ version)) :: []) := by
    rw [Block.cpuBase, ← String.append_assoc, ← String.append_assoc]
  rw [hbase]
  exact reads_base himage nofun

/-- The base image with a graphics card is the one for the version. -/
theorem reads_gpuBase {version : String} (hversion : IsWord version.toList) :
    Reads (Block.gpuBase version) [["FROM", "nvidia/cudagl:11.2.2-devel-ubuntu" ++ version]] := by
  have himage : IsWord ("nvidia/cudagl:11.2.2-devel-ubuntu" ++ version).toList := by
    rw [String.toList_append]
    exact IsWord.append (by decide +kernel) hversion
  have hbase : Block.gpuBase version = ofLines
      (Block.header :: ("FROM " ++ ("nvidia/cudagl:11.2.2-devel-ubuntu" ++ version)) ::
      ["# Use 11.2 instead of 11.4 to avoid forward compatibility issue on Nvidia driver 460"]) := by
    have hfrom : "FROM nvidia/cudagl:11.2.2-devel-ubuntu" =
        "FROM " ++ "nvidia/cudagl:11.2.2-devel-ubuntu" := by decide +kernel
    rw [Block.gpuBase, hfrom, String.append_assoc]
  rw [hbase]
  refine reads_base himage (List.forall_mem_singleton.2 ?_)
  rw [String.toList_ofList]
  decide +kernel

/-- **The blocks of a recipe** begin with the base image that it names, and end with its script. -/
theorem exists_blocks_eq {r : Recipe} (h : r.IsPlain) : ∃ base middle,
    r.blocks = base :: (middle ++ [Block.scripts r.script]) ∧ Reads base [["FROM", r.image]] ∧
      ∀ block ∈ middle ++ [Block.scripts r.script], Follows block := by
  have hfixed := follows_of_mem_fixed
  have hinstall := follows_install h
  simp only [Block.fixed, List.forall_mem_cons, List.not_mem_nil, false_implies, implies_true,
    and_true] at hfixed
  obtain ⟨hcapabilities, hmaintainer, hcmake, hllvm, hvulkan, huser, hconda⟩ := hfixed
  cases hardware : r.hardware with
  | cpu =>
    refine ⟨Block.cpuBase r.os r.version,
      [Block.maintainer, r.install, Block.cmake, Block.llvm, Block.user, Block.conda], ?_, ?_, ?_⟩
    · rw [blocks, hardware]
      rfl
    · rw [image, hardware]
      exact reads_cpuBase (h.os hardware) h.version
    · simp [hmaintainer, hinstall, hcmake, hllvm, huser, hconda, follows_scripts h.script]
  | gpu =>
    refine ⟨Block.gpuBase r.version, [Block.driverCapabilities, Block.maintainer, r.install,
      Block.cmake, Block.llvm, Block.vulkan, Block.user, Block.conda], ?_, ?_, ?_⟩
    · rw [blocks, hardware]
      rfl
    · rw [image, hardware]
      exact reads_gpuBase h.version
    · simp [hcapabilities, hmaintainer, hinstall, hcmake, hllvm, hvulkan, huser, hconda,
        follows_scripts h.script]

/-- **Joining blocks keeps their instructions.**  Read as a whole, a Dockerfile has the instructions that
its blocks have alone, in their order.  The first one names the base image of the recipe, and no other
one names any; the last ones are those of the scripts, of which one copies the script under its own
name. -/
theorem instructions_text {r : Recipe} (h : r.IsPlain) :
    instructions r.text = r.blocks.flatMap instructions ∧
      (instructions r.text).head? = some ["FROM", r.image] ∧
      (instructions r.text).filter isFrom = [["FROM", r.image]] ∧
      (∃ earlier, instructions r.text = earlier ++ instructions (Block.scripts r.script)) ∧
      instructions (Block.scripts r.script) =
        [["WORKDIR", "/home/dev/scripts"], ["COPY", "ci/scripts/" ++ r.script, r.script],
         ["WORKDIR", "/home/dev"], ["ENV", "LANG=\"C.UTF-8\""]] := by
  obtain ⟨base, middle, hblocks, hbase, hfollow⟩ := exists_blocks_eq h
  have hjoined : instructions r.text = r.blocks.flatMap instructions := by
    rw [text, hblocks]
    exact instructions_join hbase.isComplete fun block hb =>
      ⟨(hfollow block hb).beginsBlank, (hfollow block hb).isComplete⟩
  have hall : instructions r.text =
      ["FROM", r.image] :: (middle ++ [Block.scripts r.script]).flatMap instructions := by
    rw [hjoined, hblocks, List.flatMap_cons, hbase.instructions_eq]
    rfl
  have hnone : ((middle ++ [Block.scripts r.script]).flatMap instructions).filter isFrom = [] := by
    refine List.filter_eq_nil_iff.2 fun i hi => ?_
    obtain ⟨block, hb, hi⟩ := List.mem_flatMap.1 hi
    simp [(hfollow block hb).isFrom_eq i hi]
  refine ⟨hjoined, ?_, ?_, ?_, (reads_scripts h.script).instructions_eq⟩
  · rw [hall, List.head?_cons]
  · rw [hall, List.filter_cons_of_pos (by simp [isFrom, sameName]), hnone]
  · refine ⟨["FROM", r.image] :: middle.flatMap instructions, ?_⟩
    rw [hall, List.flatMap_append, List.flatMap_singleton, List.cons_append]

/-- Names that would be comments or base images on lines of their own. -/
def misleading : Recipe :=
  ⟨"#FROM", "FROM", .cpu, "#\"FROM\"", ["g++-multilib", "FROM"]⟩

/-- None of these names is taken for an instruction or a comment. -/
theorem instructions_text_misleading :
    misleading.IsPlain ∧
      instructions misleading.text = misleading.blocks.flatMap instructions ∧
      (instructions misleading.text).head? = some ["FROM", "#FROM:FROM"] ∧
      (instructions misleading.text).filter isFrom = [["FROM", "#FROM:FROM"]] ∧
      ∃ earlier, instructions misleading.text = earlier ++
        [["WORKDIR", "/home/dev/scripts"], ["COPY", "ci/scripts/#\"FROM\"", "#\"FROM\""],
         ["WORKDIR", "/home/dev"], ["ENV", "LANG=\"C.UTF-8\""]] := by
  have hplain : misleading.IsPlain := by
    refine ⟨fun _ => by decide, by decide, by decide, ?_⟩
    rw [misleading, List.forall_mem_cons, List.forall_mem_singleton]
    exact ⟨isPackageName_of_all (by decide) (by decide),
      isPackageName_of_all (by decide) (by decide)⟩
  obtain ⟨hjoined, hhead, hfrom, ⟨earlier, hearlier⟩, hscripts⟩ := instructions_text hplain
  rw [hscripts] at hearlier
  exact ⟨hplain, hjoined, hhead, hfrom, earlier, hearlier⟩

end Recipe

/-- **The recipe of every target is plain.** -/
theorem Target.recipe_isPlain (t : Target) : t.recipe.IsPlain := by
  have hall : ∀ os ∈ OperatingSystem.all, ∀ hardware ∈ Hardware.all, ∀ t ∈ os.targets hardware,
      (Dockerfile.IsWord t.recipe.os.toList ∧ Dockerfile.IsWord t.recipe.version.toList) ∧
        Dockerfile.IsWord t.recipe.script.toList ∧ t.recipe.extraPackages.all
          (fun package => decide (Dockerfile.IsPackageName package.toList)) = true := by
    decide +kernel
  obtain ⟨⟨hos, hversion⟩, hscript, hpackages⟩ := forall_of_registered hall t
  simp only [List.all_eq_true, decide_eq_true_iff] at hpackages
  exact ⟨fun _ => hos, hversion, hscript, hpackages⟩

end DockerMatrix
