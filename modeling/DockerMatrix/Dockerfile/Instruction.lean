/-
# The instructions of a Dockerfile

How a Dockerfile is read: as logical instructions. A line whose last character that is not blank is
a backslash goes on in the next line: the backslash and what stands behind it are deleted, and the
next line is joined on as it is. Blank lines, and lines whose first character that is not blank is a
number sign, are skipped, between the lines of one instruction too. Once all its lines are joined, an
instruction is read as its words; so the ends of two lines can be one word.
-/

import DockerMatrix.Text.Blank

namespace DockerMatrix
namespace Dockerfile

/-- The lines of a text, without their ends. What follows the last line end is a line if it is not
empty. -/
def linesFrom (line : List Char) : List Char → List (List Char)
  | [] => if line.isEmpty then [] else [line.reverse]
  | c :: rest => if c = '\n' then line.reverse :: linesFrom [] rest else linesFrom (c :: line) rest

/-- The words of a line: the longest stretches without a blank character. -/
def wordsFrom (word : List Char) : List Char → List (List Char)
  | [] => if word.isEmpty then [] else [word.reverse]
  | c :: rest =>
    if Text.isBlank c then
      if word.isEmpty then wordsFrom [] rest else word.reverse :: wordsFrom [] rest
    else wordsFrom (c :: word) rest

/-- Whether a line is blank or a comment. -/
def isSkipped (line : List Char) : Bool :=
  match Text.trimStart line with
  | [] => true
  | c :: _ => c = '#'

/-- A line that goes on in the next one, without the backslash that says so. -/
def continued? (line : List Char) : Option (List Char) :=
  match (Text.trimEnd line).reverse with
  | '\\' :: rest => some rest.reverse
  | _ => none

/-- The instructions in the lines that follow an unfinished instruction, given by its text so far;
a text without words is none. -/
def instructionsFrom (begun : List Char) : List (List Char) → List (List (List Char))
  | [] => if (wordsFrom [] begun).isEmpty then [] else [wordsFrom [] begun]
  | line :: rest =>
    if isSkipped line then instructionsFrom begun rest
    else match continued? line with
      | some part => instructionsFrom (begun ++ part) rest
      | none => wordsFrom [] (begun ++ line) :: instructionsFrom [] rest

/-- The instructions of a Dockerfile, each as its words. -/
def instructions (text : String) : List (List String) :=
  (instructionsFrom [] (linesFrom [] text.toList)).map fun words => words.map String.ofList

end Dockerfile
end DockerMatrix
