/-
# Flags of patterns

Flags change how the text of a pattern is read. They are set by letters, for a group or for the rest
of one.

| letter | meaning |
| --- | --- |
| `i` | the case of letters does not count |
| `m` | `^` and `$` are about lines |
| `s` | `.` is any character, the end of a line too |
| `U` | repetitions are lazy, and greedy where they would be lazy |
| `u` | characters are those of Unicode and not those of ASCII only |
| `R` | a carriage return ends a line as well |
| `x` | blanks do not count, nor does what is between `#` and the end of the line |
-/

import DockerMatrix.Text.Blank

namespace DockerMatrix
namespace Pattern

/-- The flags that are set. -/
structure Flags where
  caseless : Bool
  multiline : Bool
  dotAll : Bool
  lazy : Bool
  unicode : Bool
  crlf : Bool
  spaced : Bool
  deriving DecidableEq, Repr

/-- The characters from the first one on that is neither blank nor in a comment. -/
def skipBlanks (inComment : Bool) : List Char → List Char
  | [] => []
  | c :: rest =>
    if inComment then skipBlanks (c ≠ '\n') rest
    else if Text.isBlank c then skipBlanks false rest
    else if c = '#' then skipBlanks true rest
    else c :: rest

namespace Flags

/-- The flags that are set at first. -/
def standard : Flags := ⟨false, false, false, false, true, false, false⟩

/-- The flags with one of them set or cleared, if the letter is that of a flag. -/
def put (f : Flags) (on : Bool) : Char → Option Flags
  | 'i' => some { f with caseless := on }
  | 'm' => some { f with multiline := on }
  | 's' => some { f with dotAll := on }
  | 'U' => some { f with lazy := on }
  | 'u' => some { f with unicode := on }
  | 'R' => some { f with crlf := on }
  | 'x' => some { f with spaced := on }
  | _ => none

/-- The characters that count next. -/
def skip (f : Flags) (cs : List Char) : List Char :=
  if f.spaced then skipBlanks false cs else cs

/-- The flags after letters that set them or, behind a `-`, clear them, with the sign `:` or `)` at
the end of the letters and what follows it. No letter comes twice, and a `-` is not the last. `seen`
are the letters that have been read, the last one first. -/
def read (f : Flags) (seen : List Char) : List Char → Option (Flags × List Char × Char × List Char)
  | [] => none
  | c :: rest =>
    if c = ':' ∨ c = ')' then if seen.head? = some '-' then none else some (f, seen, c, rest)
    else if seen.contains c then none
    else if c = '-' then f.read (c :: seen) rest
    else match f.put (!seen.contains '-') c with
      | none => none
      | some f' => f'.read (c :: seen) rest

end Flags
end Pattern
end DockerMatrix
