/-
# Reading patterns

The text of a pattern.

| text | meaning |
| --- | --- |
| `XY`, `X\|Y` | one after the other, either of them |
| `X*`, `X+`, `X?` | any number of rounds, one or more, one or none; rather few with a `?` behind |
| `(X)`, `(?<NAME>X)`, `(?P<NAME>X)` | a group |
| `(?FLAGS:X)` | a group that is read with flags |
| `(?FLAGS)` | the rest of the group is read with flags |
| `[…]` | a character from a set |
| `.`, `^`, `$` | any character of a line, the ends of the text |
| `\…` | an escape |

A `{` has no meaning on its own. Every name is given once. The nesting of groups, repetitions,
sequences, choices and brackets is bounded.

Where the characters of Unicode count, the edges of words can be read but not used.
-/

import DockerMatrix.Pattern.Bracket
import DockerMatrix.Text.Alphanumeric

namespace DockerMatrix
namespace Pattern

/-- Why a text is no pattern. -/
inductive ReadError
  | malformed
  | unicodeWords
  deriving DecidableEq, Repr

/-- A piece of a sequence, with the depth of its nesting: a pattern, or the setting of flags. -/
structure Piece where
  pattern : Option Pattern
  depth : Nat
  deriving DecidableEq, Repr

/-- A group that is being read, or the whole: its number if it has one, the flags, the alternatives
that are over, and the pieces of the one that is not, the last ones first. -/
structure Group where
  number : Option Nat
  flags : Flags
  choices : List Piece
  pieces : List Piece
  deriving DecidableEq, Repr

namespace Group

/-- A group of which nothing has been read. -/
def start (number : Option Nat) (flags : Flags) : Group := ⟨number, flags, [], []⟩

/-- The group with another piece. -/
def add (g : Group) (p : Pattern) (depth : Nat) : Group :=
  { g with pieces := ⟨some p, depth⟩ :: g.pieces }

/-- The greatest depth of pieces. -/
def depthOf (ps : List Piece) : Nat :=
  ps.foldl (fun d p => max d p.depth) 0

/-- The pieces since the last `|`, as one. -/
def sequence (g : Group) : Piece :=
  match g.pieces with
  | [] => ⟨some .empty, 0⟩
  | [p] => p
  | ps => ⟨some (concat (ps.reverse.filterMap Piece.pattern)), 1 + depthOf ps⟩

/-- The alternative that is over. -/
def choose (g : Group) : Group :=
  { g with choices := g.sequence :: g.choices, pieces := [] }

/-- What has been read, as one pattern with its depth. -/
def total (g : Group) : Pattern × Nat :=
  let ps := g.sequence :: g.choices
  let whole := alternation (ps.reverse.map fun p => p.pattern.getD .empty)
  (match g.number with
    | none => whole
    | some n => .group n whole,
    if g.choices.isEmpty then depthOf ps else 1 + depthOf ps)

end Group

/-- Where a reader stands: the group that is being read, those around it, the inner ones first, how
many groups have a number, the names that have been given, and whether the edges of words of Unicode
letters are asked for. -/
structure Reading where
  group : Group
  around : List Group
  numbered : Nat
  names : List String
  unicodeWords : Bool
  deriving DecidableEq, Repr

/-- Whether a character can stand in a name. -/
def isNameCharacter (c : Char) : Bool :=
  c = '_' || c = '.' || c = '[' || c = ']' || Text.isAlphanumeric c

/-- The name up to a `>`, if it is one that has not been given, and what follows it. -/
def readName (given : List String) (cs : List Char) : Option (String × List Char) :=
  let name := cs.takeWhile (· ≠ '>')
  match name, cs.dropWhile (· ≠ '>') with
  | c :: _, _ :: rest =>
    if (c = '_' ∨ Text.isAlphabetic c) ∧ name.all isNameCharacter ∧
        !given.contains (String.ofList name) then
      some (String.ofList name, rest)
    else none
  | _, _ => none

namespace Reading

/-- Goes on behind a `(`. -/
def openGroup (r : Reading) (cs : List Char) : Option (Reading × List Char) :=
  let plain := fun (flags : Flags) =>
    { r with group := .start none flags, around := r.group :: r.around }
  let numbered := fun (names : List String) =>
    { r with
      group := .start (some r.numbered) r.group.flags, around := r.group :: r.around
      numbered := r.numbered + 1, names := names }
  let named := fun (cs : List Char) =>
    (readName r.names cs).map fun (name, rest) => (numbered (name :: r.names), rest)
  match r.group.flags.skip cs with
  | '?' :: 'P' :: '<' :: rest => named rest
  | '?' :: '<' :: rest => named rest
  | '?' :: rest =>
    match r.group.flags.read [] rest with
    | none => none
    | some (flags, letters, sign, rest) =>
      if sign = ':' then some (plain flags, rest)
      else if letters.isEmpty then none
      else
        let pieces := ⟨none, 0⟩ :: r.group.pieces
        some ({ r with group := { r.group with flags := flags, pieces := pieces } }, rest)
  | rest => some (numbered r.names, rest)

/-- Goes on behind a `)`. -/
def closeGroup (r : Reading) : Option Reading :=
  match r.around with
  | [] => none
  | outer :: around =>
    let (p, depth) := r.group.total
    some { r with group := outer.add p (depth + 1), around := around }

/-- Goes on behind a sign of repetition. -/
def repeatLast (r : Reading) (sign : Char) (cs : List Char) : Option (Reading × List Char) :=
  let (isLazy, rest) :=
    match cs with
    | '?' :: rest => (true, rest)
    | _ => (false, cs)
  let greedy := isLazy == r.group.flags.lazy
  match r.group.pieces with
  | ⟨some p, depth⟩ :: before =>
    let rounds : Rounds :=
      if sign = '*' then .any else if sign = '+' then .atLeastOne else .atMostOne
    let pieces := ⟨some (repeated rounds greedy p), depth + 1⟩ :: before
    some ({ r with group := { r.group with pieces := pieces } }, rest)
  | _ => none

/-- The reading with another pattern. -/
def add (r : Reading) (p : Pattern) (depth : Nat) : Reading :=
  { r with group := r.group.add p depth }

/-- Goes on with what an escape stands for. -/
def addEscape (r : Reading) : Escape → Option Reading
  | .character c asByte => (r.group.flags.literal c asByte).map fun p => r.add p 0
  | .set s => some (r.add (.ofSet (!r.group.flags.unicode) s) 0)
  | .assertion a =>
    let r' := r.add (.assertion a) 0
    some { r' with unicodeWords := r.unicodeWords || (r.group.flags.unicode && a.isAboutWords) }

/-- Goes on with a character and as many of those behind it as belong to it. -/
def next (r : Reading) (c : Char) (rest : List Char) : Option (Reading × List Char) :=
  let flags := r.group.flags
  if c = '(' then r.openGroup rest
  else if c = ')' then r.closeGroup.map fun r' => (r', rest)
  else if c = '|' then some ({ r with group := r.group.choose }, rest)
  else if c = '*' ∨ c = '+' ∨ c = '?' then r.repeatLast c rest
  else if c = '\x7b' then none
  else if c = '[' then
    let (negated, behind) := readNegation flags rest
    (readBracket flags (behind.length + 1) (.start negated) [] behind).map fun (p, after) =>
      (r.add (.ofSet (!flags.unicode) p.set) p.depth, after)
  else if c = '\\' then
    match readEscape flags rest with
    | none => none
    | some (e, after) => (r.addEscape e).map fun r' => (r', after)
  else if c = '.' then flags.dot.map fun p => (r.add p 0, rest)
  else if c = '^' then some (r.add (.assertion flags.caret) 0, rest)
  else if c = '$' then some (r.add (.assertion flags.dollar) 0, rest)
  else (flags.literal c false).map fun p => (r.add p 0, rest)

/-- Goes on to the end of a text. Each step reads a character at least, so that as many steps as
there are characters are enough. -/
def run : Nat → Reading → List Char → Option Reading
  | 0, r, cs => if (r.group.flags.skip cs).isEmpty then some r else none
  | n + 1, r, cs =>
    match r.group.flags.skip cs with
    | [] => some r
    | c :: rest =>
      match r.next c rest with
      | none => none
      | some (r', after) => run n r' after

end Reading

/-- How deep a pattern may be nested. -/
def depthLimit : Nat := 250

/-- The pattern that a text is. -/
def read (text : List Char) : Except ReadError Pattern :=
  match Reading.run text.length ⟨.start none .standard, [], 0, [], false⟩ text with
  | none => .error .malformed
  | some r =>
    let (p, depth) := r.group.total
    if !r.around.isEmpty ∨ depthLimit < depth then .error .malformed
    else if r.unicodeWords then .error .unicodeWords
    else .ok p

end Pattern
end DockerMatrix
