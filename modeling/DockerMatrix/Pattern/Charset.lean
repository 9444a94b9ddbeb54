/-
# Sets of characters

The sets that a pattern asks its characters to be from. A set is kept as the ranges of the codes in
it, which ascend and leave a gap between each other, so that sets with the same characters are
equal. The sets that have a name hold ASCII characters only.
-/

namespace DockerMatrix
namespace Pattern

/-- A set of characters, as the ranges of their codes, the ends included. -/
structure Charset where
  ranges : List (Nat × Nat)
  deriving DecidableEq, Repr

namespace Charset

/-- The ranges with another one, which is joined to those that it touches. -/
def insertRange (low high : Nat) : List (Nat × Nat) → List (Nat × Nat)
  | [] => [(low, high)]
  | (a, b) :: rest =>
    if high + 1 < a then (low, high) :: (a, b) :: rest
    else if b + 1 < low then (a, b) :: insertRange low high rest
    else insertRange (min low a) (max high b) rest

/-- The set of the codes in ranges. -/
def ofCodes (ranges : List (Nat × Nat)) : Charset :=
  ⟨ranges.foldl (fun found r => insertRange r.1 r.2 found) []⟩

/-- The set of the characters in ranges. -/
def ofRanges (ranges : List (Char × Char)) : Charset :=
  ofCodes (ranges.map fun r => (r.1.toNat, r.2.toNat))

/-- The set without characters. -/
def empty : Charset := ⟨[]⟩

/-- The set of the characters from one to another. -/
def range (low high : Char) : Charset := ⟨[(low.toNat, high.toNat)]⟩

/-- The set of one character. -/
def single (c : Char) : Charset := range c c

/-- Whether a character is in a set. -/
def contains (s : Charset) (c : Char) : Bool :=
  s.ranges.any fun r => r.1 ≤ c.toNat && c.toNat ≤ r.2

/-- The character of a set that has only one. -/
def only? (s : Charset) : Option Char :=
  match s.ranges with
  | [(low, high)] => if low = high then some (Char.ofNat low) else none
  | _ => none

/-- Whether all characters of a set are ASCII characters. -/
def isAscii (s : Charset) : Bool :=
  s.ranges.all fun r => r.2 < 0x80

/-- The characters of either set. -/
def union (a b : Charset) : Charset := ofCodes (a.ranges ++ b.ranges)

/-- The characters of both sets. -/
def intersection (a b : Charset) : Charset :=
  ofCodes <| a.ranges.flatMap fun r =>
    (b.ranges.map fun r' => (max r.1 r'.1, min r.2 r'.2)).filter fun r => r.1 ≤ r.2

/-- The code of the character behind one. No character has a code from D800 to DFFF. -/
def codeAfter (n : Nat) : Nat := if n = 0xD7FF then 0xE000 else n + 1

/-- The code of the character in front of one. -/
def codeBefore (n : Nat) : Nat := if n = 0xE000 then 0xD7FF else n - 1

/-- The gaps between ranges, from a code to another. -/
def gaps (first last : Nat) : List (Nat × Nat) → List (Nat × Nat)
  | [] => if first ≤ last then [(first, last)] else []
  | (a, b) :: rest =>
    let others := gaps (codeAfter b) last rest
    if first < a then (first, codeBefore a) :: others else others

/-- The characters up to a code that are not in a set. -/
def complement (last : Nat) (s : Charset) : Charset := ⟨gaps 0 last s.ranges⟩

/-- The greatest code of a character. -/
def lastCode : Nat := 0x10FFFF

/-- The set of all characters. -/
def all : Charset := complement lastCode empty

/-- The characters of the first set that are not in the second one. -/
def difference (a b : Charset) : Charset := intersection a (complement lastCode b)

/-- The characters of exactly one of two sets. -/
def symmetricDifference (a b : Charset) : Charset := union (difference a b) (difference b a)

/-- The set with the other case of each ASCII letter in it. -/
def caseless (s : Charset) : Charset :=
  let upper := intersection s (range 'A' 'Z')
  let lower := intersection s (range 'a' 'z')
  ofCodes (s.ranges ++ upper.ranges.map (fun r => (r.1 + 32, r.2 + 32)) ++
    lower.ranges.map fun r => (r.1 - 32, r.2 - 32))

/-- The characters of which words are made. -/
def word : Charset := ofRanges [('0', '9'), ('A', 'Z'), ('_', '_'), ('a', 'z')]

/-- The decimal digits. -/
def digit : Charset := range '0' '9'

/-- The blank characters. -/
def space : Charset := ofRanges [('\t', '\r'), (' ', ' ')]

/-- The sets that have a name, with their names. -/
def named : List (String × Charset) :=
  [("alnum", ofRanges [('0', '9'), ('A', 'Z'), ('a', 'z')]),
   ("alpha", ofRanges [('A', 'Z'), ('a', 'z')]),
   ("ascii", range '\x00' '\x7f'),
   ("blank", ofRanges [('\t', '\t'), (' ', ' ')]),
   ("cntrl", ofRanges [('\x00', '\x1f'), ('\x7f', '\x7f')]),
   ("digit", digit),
   ("graph", range '!' '~'),
   ("lower", range 'a' 'z'),
   ("print", range ' ' '~'),
   ("punct", ofRanges [('!', '/'), (':', '@'), ('[', '\x60'), ('\x7b', '~')]),
   ("space", space),
   ("upper", range 'A' 'Z'),
   ("word", word),
   ("xdigit", ofRanges [('0', '9'), ('A', 'F'), ('a', 'f')])]

end Charset
end Pattern
end DockerMatrix
