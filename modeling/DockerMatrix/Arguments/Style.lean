/-
# Styles of help and usage errors

Help and usage errors are written for a terminal that shows styles. Where no styles are shown, what
is printed is the same text without escape sequences.

| style | shown | for |
| --- | --- | --- |
| heading | bold, underlined | headings |
| alarm | bold, red | the word that a usage error begins with |
| literal | bold | what is typed as it stands |
| invalid | yellow | what is wrong |
| valid | green | what would be right |
-/

import DockerMatrix.Status.Color

namespace DockerMatrix
namespace Arguments

/-- A way to show a piece of a text. -/
inductive Style
  | heading
  | alarm
  | literal
  | invalid
  | valid
  deriving DecidableEq, Repr

namespace Style

/-- The numbers that set a style. -/
def codes : Style → List String
  | heading => ["1", "4"]
  | alarm => ["1", "31"]
  | literal => ["1"]
  | invalid => ["33"]
  | valid => ["32"]

/-- A piece of a text in a style, then the terminal's own style again. -/
def apply (style : Style) (piece : String) : String :=
  String.join (style.codes.map Status.sequence) ++ piece ++ Status.sequence "0"

end Style
end Arguments
end DockerMatrix
