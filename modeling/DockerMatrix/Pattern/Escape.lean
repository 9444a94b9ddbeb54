/-
# Characters and escapes in patterns

What a character stands for in the text of a pattern, and what it stands for after a `\`.

| escape | meaning |
| --- | --- |
| `\a`, `\f`, `\t`, `\n`, `\r`, `\v` | a control character |
| `\xHH`, `\uHHHH`, `\UHHHHHHHH` | the character of a number |
| `\d`, `\s`, `\w` | a digit, a blank, a character of which words are made |
| `\A`, `\z` | the ends of the text |
| `\b`, `\B`, `\<`, `\>` | the edges of words |
| `\` and another character of ASCII that is neither a letter nor a digit | that character |

No tables of Unicode are at hand for what a pattern may name. So, unless only the characters of
ASCII count, there are no sets of digits, blanks and words, and no letter is without its case.
Where only they count, no set holds a character that is not one of them.
-/

import DockerMatrix.Pattern.Basic
import DockerMatrix.Pattern.Flags
import DockerMatrix.Text.Quoted

namespace DockerMatrix
namespace Pattern

/-- What an escape stands for. A character may have been written as a single byte. -/
inductive Escape
  | character (c : Char) (asByte : Bool)
  | set (s : Charset)
  | assertion (a : Assertion)
  deriving DecidableEq, Repr

/-- The character of as many hexadecimal digits, given the value of those before them, and what
follows it. -/
def readNumber (f : Flags) : Nat → Nat → List Char → Option (Char × List Char)
  | 0, value, cs => if value.isValidChar then some (Char.ofNat value, cs) else none
  | n + 1, value, cs =>
    match f.skip cs with
    | [] => none
    | c :: rest =>
      match Text.hexValue? c.toLower with
      | none => none
      | some d => readNumber f n (16 * value + d) rest

/-- The control characters that have a letter. -/
def controlLetters : List (Char × Char) :=
  [('a', '\x07'), ('f', '\x0c'), ('t', '\t'), ('n', '\n'), ('r', '\r'), ('v', '\x0b')]

/-- The assertions that have a sign. -/
def assertionSigns : List (Char × Assertion) :=
  [('A', .textStart), ('z', .textEnd), ('b', .wordEdge), ('B', .noWordEdge), ('<', .wordStart),
   ('>', .wordEnd)]

/-- The sets that have a letter. -/
def setLetters : List (Char × Charset) :=
  [('d', .digit), ('s', .space), ('w', .word)]

/-- The numbers of digits behind the letters for a character by its number. -/
def numberLetters : List (Char × Nat) :=
  [('x', 2), ('u', 4), ('U', 8)]

/-- What stands behind a `\`, and what follows it. -/
def readEscape (f : Flags) : List Char → Option (Escape × List Char)
  | [] => none
  | c :: rest =>
    match numberLetters.lookup c, setLetters.lookup c, controlLetters.lookup c,
        assertionSigns.lookup c with
    | some digits, _, _, _ =>
      (readNumber f digits 0 rest).map fun r => (.character r.1 (c = 'x'), r.2)
    | _, some s, _, _ => if f.unicode then none else some (.set s, rest)
    | _, _, some d, _ => some (.character d false, rest)
    | _, _, _, some a => some (.assertion a, rest)
    | _, _, _, _ =>
      if c.toNat < 0x80 ∧ !c.isAlphanum then some (.character c false, rest) else none

namespace Flags

/-- What a character stands for outside of brackets. -/
def literal (f : Flags) (c : Char) (asByte : Bool) : Option Pattern :=
  if f.unicode then if f.caseless then none else some (.literal [c])
  else if asByte ∧ 0x80 ≤ c.toNat then none
  else if f.caseless then some (.ofSet true (Charset.single c).caseless)
  else some (.literal [c])

/-- What a `.` stands for. -/
def dot (f : Flags) : Option Pattern :=
  let ends : List (Char × Char) :=
    if f.dotAll then [] else if f.crlf then [('\n', '\n'), ('\r', '\r')] else [('\n', '\n')]
  if f.unicode then some (.ofSet false (.complement Charset.lastCode (.ofRanges ends))) else none

/-- The assertion that a `^` stands for. -/
def caret (f : Flags) : Assertion :=
  if f.multiline then .lineStart f.crlf else .textStart

/-- The assertion that a `$` stands for. -/
def dollar (f : Flags) : Assertion :=
  if f.multiline then .lineEnd f.crlf else .textEnd

end Flags
end Pattern
end DockerMatrix
