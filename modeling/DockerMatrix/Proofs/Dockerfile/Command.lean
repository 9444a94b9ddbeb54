/-
# Packages that are added to a command

A command may take any number of lines, with comments and blank lines between them, and blanks may
stand behind it.  Packages can be added to it if its last line is no comment and ends in a word
(`IsCommand`).  Each of them puts a backslash behind what stands there and stands on a line of its own;
the blanks behind the command are dropped for that.

What makes this repeatable is that a text which ends in a word of an instruction (`EndsInWord`) does so
again when a package has continued it, with this one word more (`EndsInWord.continued`): the lines are
joined where the backslash was, and there the package is kept apart from the word before it.  A block is
a command if and only if it ends in a word when it is trimmed (`isCommand_iff`).  So with more packages
it is a command again, with these words more (`IsCommand.patch`), its lines are written like those of a
package list (`IsCommand.linesFrom_patch`), and it makes no difference whether packages are added at once
or in two parts (`patch_patch`).
-/

import DockerMatrix.Proofs.Dockerfile.Reading

namespace DockerMatrix
namespace Dockerfile

/-- The name of a package: a word that cannot begin a comment. -/
structure IsPackageName (name : List Char) : Prop extends IsWord name where
  noComment : '#' ∉ name

instance (name : List Char) : Decidable (IsPackageName name) :=
  decidable_of_iff (IsWord name ∧ '#' ∉ name)
    ⟨fun h => ⟨h.1, h.2⟩, fun h => ⟨h.toIsWord, h.noComment⟩⟩

/-- A block is one command that packages can be added to.  It is read as the command and nothing else,
and the last line that is not blank is a line of it: it is no comment, and no backslash stands at its
end. -/
structure IsCommand (block : String) (command : List String) : Prop where
  instructions_eq : instructions block = [command]
  lastLine : ∃ line, (linesFrom [] (Text.trimEnd block.toList)).getLast? = some line ∧
    isSkipped line = false ∧ continued? line = none

/-- The text ends in a word of an instruction: the instructions before that one, and its words, if it
ends here.  The line with that word has only begun; what stands before it are ended lines. -/
inductive EndsInWord : List Char → List (List (List Char)) → List (List Char) → Prop
  | intro {start line word begun : List Char} {done : List (List (List Char))}
      (hstart : ∀ xs, linesFrom [] (start ++ xs) = linesFrom [] start ++ linesFrom [] xs)
      (hline : '\n' ∉ line) (hskipped : isSkipped (line ++ word) = false) (hword : IsWord word)
      (hread : readOn [] (linesFrom [] start) = (done, begun)) :
      EndsInWord (start ++ (line ++ word)) done (wordsFrom [] (begun ++ (line ++ word)))

namespace Block

/-- What is written for a package that continues a command. -/
def continuation (package : String) : String :=
  " \\\n" ++ packageIndent ++ package

/-- What is written for packages that continue a command, one after the other. -/
def continuations (packages : List String) : String :=
  String.join (packages.map continuation)

end Block

/-! ## Texts that end in a word -/

variable {text name blanks : List Char} {done : List (List (List Char))}
  {words : List (List Char)}

/-- A text that ends in a word is not empty. -/
theorem EndsInWord.ne_nil (h : EndsInWord text done words) : text ≠ [] := by
  cases h with
  | intro _ _ _ hword => simp [hword.ne_nil]

/-- A text that ends in a word is trimmed. -/
theorem EndsInWord.trimEnd_eq (h : EndsInWord text done words) : Text.trimEnd text = text := by
  cases h with
  | intro _ _ _ hword =>
    rw [← List.append_assoc]
    exact hword.trimEnd_append _

/-- **The instruction ends where the text does**, whatever blanks stand behind. -/
theorem EndsInWord.readOn_append_eq (h : EndsInWord text done words)
    (hb : ∀ c ∈ blanks, Text.isBlank c = true) :
    readOn [] (linesFrom [] (text ++ blanks)) = (done ++ [words], []) := by
  cases h with
  | @intro start line word begun done hstart hline hskipped hword hread =>
    obtain ⟨behind, rest, hlines, hbehind, hrest⟩ := exists_linesFrom_append_blanks hb
      (hword.newline_notMem_append hline) (List.append_ne_nil_of_right_ne_nil _ hword.ne_nil)
    have hended : continued? (line ++ word ++ behind) = none := by
      rw [continued?_append_blanks hbehind, continued?_append_word hword]
    rw [List.append_assoc, hstart, hlines, readOn_append, hread,
      readOn_ended (isSkipped_append hskipped _) hended, ← List.append_assoc begun,
      wordsFrom_append_blanks hbehind, readOn_of_skipped hrest]

/-! ## One more package -/

/-- **An indented name is a word of its own**, whatever text it is joined to. -/
theorem wordsFrom_append_packageIndent (h : IsWord name) (xs : List Char) :
    wordsFrom [] (xs ++ [' '] ++ (Block.packageIndent.toList ++ name)) =
      wordsFrom [] xs ++ [name] := by
  have hindent : Block.packageIndent.toList ++ name = List.replicate 22 ' ' ++ ' ' :: name := rfl
  have hnone : wordsFrom [] (List.replicate 22 ' ') = [] := by decide
  rw [List.append_assoc, List.singleton_append, wordsFrom_append_blank (by decide), hindent,
    wordsFrom_append_blank (by decide), hnone, wordsFrom_word h, List.nil_append]

/-- A line with an indented package is read. -/
theorem isSkipped_packageIndent_append (h : IsPackageName name) :
    isSkipped (Block.packageIndent.toList ++ name) = false := by
  have hblank : Block.packageIndent.toList.all Text.isBlank = true := by decide
  rw [isSkipped_blank_append (List.all_eq_true.1 hblank), isSkipped_word h.toIsWord h.noComment]

/-- **A package that continues the command is its next word.** -/
theorem EndsInWord.continued (h : EndsInWord text done words) {package : String}
    (hp : IsPackageName package.toList) :
    EndsInWord (text ++ (Block.continuation package).toList) done (words ++ [package.toList]) := by
  cases h with
  | @intro start line word begun done hstart hline hskipped hword hread =>
    -- The line that ends in the word is continued by the backslash, and another line begins.
    have hover : ∀ xs, linesFrom [] (start ++ (line ++ word ++ [' ', '\\']) ++ '\n' :: xs) =
        linesFrom [] start ++ (line ++ word ++ [' ', '\\']) :: linesFrom [] xs := by
      have hnewline : '\n' ∉ line ++ word ++ [' ', '\\'] := by
        simp [hline, hword.newline_notMem]
      intro xs
      rw [List.append_assoc, hstart, linesFrom_ended hnewline]
    have hstart' : ∀ xs, linesFrom [] (start ++ (line ++ word ++ [' ', '\\']) ++ ['\n'] ++ xs) =
        linesFrom [] (start ++ (line ++ word ++ [' ', '\\']) ++ ['\n']) ++ linesFrom [] xs := by
      intro xs
      rw [List.append_assoc _ ['\n'], List.singleton_append, linesFrom_append_newline]
    have hread' : readOn [] (linesFrom [] (start ++ (line ++ word ++ [' ', '\\']) ++ ['\n'])) =
        (done, begun ++ (line ++ word ++ [' '])) := by
      rw [hover, readOn_append, hread, readOn_backslash hskipped]
      exact Prod.ext (List.append_nil done) rfl
    -- The package stands on that line, which is joined behind the blank.
    have hends := EndsInWord.intro hstart' (show '\n' ∉ Block.packageIndent.toList by decide)
      (isSkipped_packageIndent_append hp) hp.toIsWord hread'
    rw [← List.append_assoc begun, wordsFrom_append_packageIndent hp.toIsWord] at hends
    have htext : start ++ (line ++ word) ++ (Block.continuation package).toList =
        start ++ (line ++ word ++ [' ', '\\']) ++ ['\n'] ++
          (Block.packageIndent.toList ++ package.toList) := by
      simp [Block.continuation]
    rwa [htext]

/-- The first package is continued first. -/
theorem continuations_cons (package : String) (rest : List String) :
    Block.continuations (package :: rest) =
      Block.continuation package ++ Block.continuations rest := by
  rw [Block.continuations, List.map_cons, String.join_cons, Block.continuations]

/-- Packages are continued one after the other. -/
theorem continuations_append (xs ys : List String) :
    Block.continuations (xs ++ ys) = Block.continuations xs ++ Block.continuations ys := by
  rw [Block.continuations, List.map_append, String.join_append]
  rfl

/-- **Packages that continue the command are its next words**, in order. -/
theorem EndsInWord.continuations (h : EndsInWord text done words) {packages : List String}
    (hp : ∀ package ∈ packages, IsPackageName package.toList) :
    EndsInWord (text ++ (Block.continuations packages).toList) done
      (words ++ packages.map String.toList) := by
  induction packages generalizing text words with
  | nil => simpa [Block.continuations] using h
  | cons package rest ih =>
    have hrest := ih (h.continued (hp package List.mem_cons_self))
      fun p hm => hp p (List.mem_cons_of_mem _ hm)
    simpa [Block.continuations] using hrest

/-- Each package that continues a line stands on a line of its own. -/
theorem linesFrom_continuations {line : List Char} (hline : '\n' ∉ line) {package : String}
    {rest : List String} (hp : ∀ p ∈ package :: rest, IsPackageName p.toList) :
    linesFrom [] (line ++ (Block.continuations (package :: rest)).toList) =
      (line ++ [' ', '\\']) :: (Block.packageLines (package :: rest)).map String.toList := by
  induction rest generalizing line package with
  | nil =>
    obtain ⟨hpackage, -⟩ := List.forall_mem_cons.1 hp
    have hindented : '\n' ∉ Block.packageIndent.toList ++ package.toList :=
      hpackage.newline_notMem_append (by decide)
    have hcontinued : line ++ (Block.continuations [package]).toList =
        line ++ [' ', '\\'] ++ '\n' :: (Block.packageIndent.toList ++ package.toList) := by
      simp [Block.continuations, Block.continuation]
    rw [hcontinued, linesFrom_ended (by simp [hline]),
      linesFrom_unended hindented (List.append_ne_nil_of_right_ne_nil _ hpackage.ne_nil)]
    simp [Block.packageLines]
  | cons next rest ih =>
    obtain ⟨hpackage, hrest⟩ := List.forall_mem_cons.1 hp
    have hindented : '\n' ∉ Block.packageIndent.toList ++ package.toList :=
      hpackage.newline_notMem_append (by decide)
    have hcontinued : line ++ (Block.continuations (package :: next :: rest)).toList =
        line ++ [' ', '\\'] ++ '\n' :: (Block.packageIndent.toList ++ package.toList ++
          (Block.continuations (next :: rest)).toList) := by
      simp [continuations_cons, Block.continuation]
    rw [hcontinued, linesFrom_ended (by simp [hline]), ih hindented hrest]
    simp [Block.packageLines]

/-! ## Commands -/

variable {block : String} {command xs ys : List String}

/-- A command ends in a word when it is trimmed. -/
theorem IsCommand.endsInWord (h : IsCommand block command) :
    EndsInWord (Text.trimEnd block.toList) [] (command.map String.toList) := by
  obtain ⟨blanks, hblanks, hblock⟩ := Text.exists_eq_trimEnd_append block.toList
  obtain ⟨line, hlast, hskipped, hended⟩ := h.lastLine
  have hinstructions := h.instructions_eq
  rw [instructions, hblock] at hinstructions
  generalize htrimmed : Text.trimEnd block.toList = trimmed at hlast hinstructions ⊢
  -- The last line is cut in front of its last character, which is a word of its own.
  have hne : trimmed ≠ [] := by
    rintro rfl
    cases hlast
  have hnewline : trimmed.getLast? ≠ some '\n' := by
    obtain ⟨init, c, rfl⟩ := (List.eq_nil_or_concat' trimmed).resolve_left hne
    rw [List.getLast?_concat]
    rintro ⟨⟩
    exact absurd (Text.isBlank_of_trimEnd_eq htrimmed) (by decide)
  obtain ⟨start, line', rfl, hne', hline, hstart⟩ := exists_eq_append_line hne hnewline
  obtain rfl : line' = line := by
    rw [hstart, linesFrom_unended hline hne', List.getLast?_concat] at hlast
    exact Option.some.inj hlast
  obtain ⟨init, c, rfl⟩ := (List.eq_nil_or_concat' line').resolve_left hne'
  have hword : IsWord [c] := by
    have hblank : Text.isBlank c = false := by
      rw [← List.append_assoc] at htrimmed
      exact Text.isBlank_of_trimEnd_eq htrimmed
    refine ⟨by simp, List.forall_mem_singleton.2 ⟨hblank, ?_⟩⟩
    rintro rfl
    rw [continued?_append_backslash] at hended
    cases hended
  rcases hread : readOn [] (linesFrom [] start) with ⟨done, begun⟩
  have hends := EndsInWord.intro hstart (fun hm => hline (List.mem_append_left _ hm)) hskipped
    hword hread
  have hlines := hends.readOn_append_eq hblanks
  rw [instructionsFrom_eq (by rw [hlines]), hlines] at hinstructions
  -- So there is no other instruction, and its words are those of the command.
  cases done with
  | nil =>
    have hcommand : (wordsFrom [] (begun ++ (init ++ [c]))).map String.ofList = command :=
      List.head_eq_of_cons_eq hinstructions
    have hwords : command.map String.toList = wordsFrom [] (begun ++ (init ++ [c])) := by
      rw [← hcommand, List.map_map]
      simp [Function.comp_def]
    rwa [hwords]
  | cons => simp at hinstructions

/-- A block that ends in a word when it is trimmed is the instruction with that word. -/
theorem EndsInWord.reads
    (h : EndsInWord (Text.trimEnd block.toList) [] (command.map String.toList)) :
    Reads block [command] := by
  obtain ⟨blanks, hblanks, hblock⟩ := Text.exists_eq_trimEnd_append block.toList
  rw [Reads, read, hblock, h.readOn_append_eq hblanks]
  rfl

/-- **A block is a command if and only if it ends in a word when it is trimmed.** -/
theorem isCommand_iff :
    IsCommand block command ↔
      EndsInWord (Text.trimEnd block.toList) [] (command.map String.toList) := by
  refine ⟨IsCommand.endsInWord, fun h => ⟨h.reads.instructions_eq, ?_⟩⟩
  generalize Text.trimEnd block.toList = trimmed at h
  generalize command.map String.toList = words at h
  cases h with
  | @intro start line word begun done hstart hline hskipped hword =>
    refine ⟨line ++ word, ?_, hskipped, continued?_append_word hword line⟩
    rw [hstart, linesFrom_unended (hword.newline_notMem_append hline)
      (List.append_ne_nil_of_right_ne_nil _ hword.ne_nil), List.getLast?_concat]

/-! ## More packages -/

/-- More packages are continuations of the trimmed block. -/
theorem toList_patch (block : String) (h : xs ≠ []) :
    (Block.patch block xs).toList =
      Text.trimEnd block.toList ++ (Block.continuations xs).toList := by
  rw [Block.patch, if_neg (by simpa using h), String.toList_append, String.toList_ofList]
  rfl

/-- **With more packages a command is a command again**, with these words more. -/
theorem IsCommand.patch (h : IsCommand block command)
    (hp : ∀ package ∈ xs, IsPackageName package.toList) :
    IsCommand (Block.patch block xs) (command ++ xs) := by
  by_cases hxs : xs = []
  · subst hxs
    rwa [List.append_nil]
  · have hends := h.endsInWord.continuations hp
    rw [isCommand_iff, toList_patch block hxs, hends.trimEnd_eq, List.map_append]
    exact hends

/-- **The lines of a command with more packages** are its own ones when it is trimmed, the last of them
with a blank and a backslash behind it, and then the lines of a package list. -/
theorem IsCommand.linesFrom_patch (h : IsCommand block command)
    (hp : ∀ package ∈ xs, IsPackageName package.toList) (hxs : xs ≠ []) :
    ∃ earlier line, linesFrom [] (Text.trimEnd block.toList) = earlier ++ [line] ∧
      linesFrom [] (Block.patch block xs).toList = earlier ++ (line ++ [' ', '\\']) ::
        (Block.packageLines xs).map String.toList := by
  obtain ⟨package, rest, rfl⟩ := List.exists_cons_of_ne_nil hxs
  have hends := h.endsInWord
  rw [toList_patch block hxs]
  generalize Text.trimEnd block.toList = trimmed at hends ⊢
  generalize command.map String.toList = words at hends
  cases hends with
  | @intro start line word begun done hstart hline hskipped hword =>
    have hline' : '\n' ∉ line ++ word := hword.newline_notMem_append hline
    refine ⟨linesFrom [] start, line ++ word, ?_, ?_⟩
    · rw [hstart, linesFrom_unended hline' (List.append_ne_nil_of_right_ne_nil _ hword.ne_nil)]
    · rw [List.append_assoc, hstart, linesFrom_continuations hline' hp]

/-- A block with more packages ends in the last one of them. -/
theorem exists_toList_patch_eq (block : String) {last : String} (h : xs.getLast? = some last) :
    ∃ before, (Block.patch block xs).toList = before ++ last.toList := by
  obtain ⟨init, rfl⟩ := List.getLast?_eq_some_iff.1 h
  have hlast : Block.continuations [last] = " \\\n" ++ Block.packageIndent ++ last := by
    simp [Block.continuations, Block.continuation]
  refine ⟨Text.trimEnd block.toList ++
    (Block.continuations init ++ (" \\\n" ++ Block.packageIndent)).toList, ?_⟩
  rw [toList_patch block (by simp), continuations_append, hlast]
  simp only [String.toList_append, List.append_assoc]

/-- No blank stands at its end. -/
theorem trimEnd_patch (block : String) {last : String} (h : xs.getLast? = some last)
    (hlast : IsWord last.toList) :
    Text.trimEnd (Block.patch block xs).toList = (Block.patch block xs).toList := by
  obtain ⟨before, hbefore⟩ := exists_toList_patch_eq block h
  rw [hbefore, hlast.trimEnd_append]

/-- **Packages can be added in two parts.** -/
theorem patch_patch (block : String) (hp : ∀ package ∈ xs, IsPackageName package.toList)
    (ys : List String) :
    Block.patch (Block.patch block xs) ys = Block.patch block (xs ++ ys) := by
  by_cases hxs : xs = []
  · subst hxs
    rfl
  by_cases hys : ys = []
  · subst hys
    rw [List.append_nil]
    rfl
  · have hboth : xs ++ ys ≠ [] := List.append_ne_nil_of_left_ne_nil hxs ys
    have htrim := trimEnd_patch block (List.getLast?_eq_some_getLast hxs)
      (hp _ (List.getLast_mem hxs)).toIsWord
    rw [← String.toList_inj, toList_patch _ hys, htrim, toList_patch block hxs,
      toList_patch block hboth, continuations_append, String.toList_append, List.append_assoc]

/-- **More packages are the next words of a command.**  A command that packages are added to has its
own words and then the packages, in order.  It begins with the trimmed block and ends in the last
package, with no blank behind it.  Its lines are those of the trimmed block, the last one continued, and
then the packages, each on a line of its own and indented, and all but the last one continued.  Packages
that are added to it then might as well have been added with the first ones. -/
theorem patch_continues (h : IsCommand block command)
    (hp : ∀ package ∈ xs, IsPackageName package.toList) :
    instructions (Block.patch block xs) = [command ++ xs] ∧
      (∀ last, xs.getLast? = some last →
        last.toList <:+ (Block.patch block xs).toList ∧
        Text.trimEnd (Block.patch block xs).toList = (Block.patch block xs).toList ∧
        Text.trimEnd block.toList <+: (Block.patch block xs).toList) ∧
      (xs ≠ [] → ∃ earlier line, linesFrom [] (Text.trimEnd block.toList) = earlier ++ [line] ∧
        linesFrom [] (Block.patch block xs).toList = earlier ++ (line ++ [' ', '\\']) ::
          (Block.packageLines xs).map String.toList) ∧
      ∀ ys, Block.patch (Block.patch block xs) ys = Block.patch block (xs ++ ys) := by
  refine ⟨(h.patch hp).instructions_eq, fun last hlast => ⟨?_, ?_, ?_⟩, h.linesFrom_patch hp,
    patch_patch block hp⟩
  · obtain ⟨before, hbefore⟩ := exists_toList_patch_eq block hlast
    exact ⟨before, hbefore.symm⟩
  · exact trimEnd_patch block hlast (hp last (List.mem_of_getLast? hlast)).toIsWord
  · have hxs : xs ≠ [] := by
      rintro rfl
      cases hlast
    exact ⟨_, (toList_patch block hxs).symm⟩

/-- A command with a comment and a blank line between its lines, and blanks behind it. -/
def interrupted : String :=
  "\nRUN apt-get install \\\n  # and\n\n  c#\\d\t \n\x0b\n"

/-- Its words, and two packages and one more that are added to it. -/
theorem patch_continues_interrupted :
    let command := ["RUN", "apt-get", "install", "c#\\d"]
    IsCommand interrupted command ∧
      (∀ package ∈ ["g++", "RUN"], IsPackageName package.toList) ∧
      instructions (Block.patch (Block.patch interrupted ["g++", "RUN"]) ["g++"]) =
        [command ++ ["g++", "RUN", "g++"]] ∧
      "RUN".toList <:+ (Block.patch interrupted ["g++", "RUN"]).toList := by
  intro command
  have h : IsCommand interrupted command :=
    ⟨by decide +kernel, "  c#\\d".toList, by decide +kernel, by decide +kernel, by decide +kernel⟩
  have hp : ∀ package ∈ ["g++", "RUN"], IsPackageName package.toList := by decide
  have hall : ∀ package ∈ ["g++", "RUN", "g++"], IsPackageName package.toList := by decide
  obtain ⟨-, hlast, -, hparts⟩ := patch_continues h hp
  refine ⟨h, hp, ?_, (hlast "RUN" rfl).1⟩
  rw [hparts]
  exact (patch_continues h hall).1

end Dockerfile
end DockerMatrix
