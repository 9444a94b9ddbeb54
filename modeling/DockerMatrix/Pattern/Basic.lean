/-
# Patterns

A pattern describes texts. Its alternatives and repetitions are in an order of preference, so that
among the matches that begin at one place there is a preferred one.

Patterns are put together in a normal form, by `andThen`, `concat`, `alternation` and `repeated`.

| put together | normal form |
| --- | --- |
| sequences in a sequence, choices in a choice | one sequence, one choice |
| literals next to each other | one literal |
| a choice between characters, or between sets | a set |
| a choice between sequences that begin alike | what they have in common, then a choice |
| rounds of what is always empty | one round at most |

The last but one rule is about preference as well. In `X*A|X*B` as it stands, a match with `A` would
be preferred to any with `B`; in `X*(?:A|B)`, the number of rounds counts first.
-/

import DockerMatrix.Pattern.Charset

namespace DockerMatrix
namespace Pattern

/-- The characters before and after a place in a text; there is none at the ends of the text. -/
structure Place where
  before : Option Char
  after : Option Char
  deriving DecidableEq, Repr

/-- What can be asked of a place. Where `crlf` is set, a carriage return ends a line as well, and
one before a line feed belongs to it. -/
inductive Assertion
  | textStart
  | textEnd
  | lineStart (crlf : Bool)
  | lineEnd (crlf : Bool)
  | wordEdge
  | noWordEdge
  | wordStart
  | wordEnd
  deriving DecidableEq, Repr

namespace Assertion

/-- Whether there is a character, and one of which words are made. -/
def isInWord (c : Option Char) : Bool :=
  c.any Charset.word.contains

/-- Whether a place is as it is asked to be. -/
def holds (here : Place) : Assertion → Bool
  | textStart => here.before.isNone
  | textEnd => here.after.isNone
  | lineStart crlf =>
    here.before.isNone || here.before = some '\n' ||
      (crlf && here.before = some '\r' && here.after ≠ some '\n')
  | lineEnd crlf =>
    if crlf then
      here.after.isNone || here.after = some '\r' ||
        (here.after = some '\n' && here.before ≠ some '\r')
    else here.after.isNone || here.after = some '\n'
  | wordEdge => isInWord here.before != isInWord here.after
  | noWordEdge => isInWord here.before == isInWord here.after
  | wordStart => !isInWord here.before && isInWord here.after
  | wordEnd => isInWord here.before && !isInWord here.after

/-- Whether words matter to it. -/
def isAboutWords : Assertion → Bool
  | wordEdge => true
  | noWordEdge => true
  | wordStart => true
  | wordEnd => true
  | _ => false

end Assertion

/-- How many rounds a repetition may have. -/
inductive Rounds
  | atMostOne
  | any
  | atLeastOne
  deriving DecidableEq, Repr

end Pattern

/-- A description of texts. A repetition prefers another round if it is greedy, and to end if it is
not. -/
inductive Pattern
  /-- The empty text. -/
  | empty
  /-- The text itself. -/
  | literal (text : List Char)
  /-- A character from a set; a set is narrow if it was written where only ASCII counts. -/
  | one (narrow : Bool) (s : Pattern.Charset)
  /-- The empty text, at a place as it is asked to be. -/
  | assertion (a : Pattern.Assertion)
  /-- What a group with a number describes. -/
  | group (number : Nat) (p : Pattern)
  /-- One pattern after the other. -/
  | sequence (p q : Pattern)
  /-- Either pattern, rather the first one. -/
  | choice (p q : Pattern)
  /-- Rounds of a pattern. -/
  | repetition (rounds : Pattern.Rounds) (greedy : Bool) (p : Pattern)
  deriving DecidableEq, Repr

namespace Pattern

/-- A character from a set. The set of one character is a literal, and an empty set is narrow. -/
def ofSet (narrow : Bool) (s : Charset) : Pattern :=
  match s.only? with
  | some c => literal [c]
  | none => one (narrow || s.ranges.isEmpty) s

/-- Whether a pattern describes the empty text and no other. -/
def isBlank : Pattern → Bool
  | empty => true
  | literal _ => false
  | one _ _ => false
  | assertion _ => true
  | group _ p => p.isBlank
  | sequence p q => p.isBlank && q.isBlank
  | choice p q => p.isBlank && q.isBlank
  | repetition rounds _ p => rounds = .atMostOne && p.isBlank

/-- A length that all texts of a pattern have at least; there is none if a part of it describes no
text at all. -/
def leastLength? : Pattern → Option Nat
  | empty => some 0
  | literal text => some text.length
  | one _ s => if s.ranges.isEmpty then none else some 1
  | assertion _ => some 0
  | group _ p => p.leastLength?
  | sequence p q => do return (← p.leastLength?) + (← q.leastLength?)
  | choice p q => do return min (← p.leastLength?) (← q.leastLength?)
  | repetition rounds _ p =>
    if rounds = .atLeastOne then p.leastLength? else p.leastLength?.map fun _ => 0

/-- Rounds of a pattern. -/
def repeated (rounds : Rounds) (greedy : Bool) (p : Pattern) : Pattern :=
  if p.isBlank then
    if rounds = .atLeastOne then p else repetition .atMostOne greedy p
  else repetition rounds greedy p

/-! ## Sequences -/

/-- One pattern after the other. -/
def andThen : Pattern → Pattern → Pattern
  | empty, q => q
  | p, empty => p
  | sequence p₁ p₂, q => p₁.andThen (p₂.andThen q)
  | literal s, literal t => literal (s ++ t)
  | literal s, sequence (literal t) q => sequence (literal (s ++ t)) q
  | p, q => sequence p q

/-- All patterns, one after the other. -/
def concat (ps : List Pattern) : Pattern := ps.foldr andThen empty

/-- The patterns that follow each other in a sequence. -/
def parts : Pattern → List Pattern
  | sequence p q => p :: q.parts
  | p => [p]

/-! ## Choices -/

/-- The patterns that a choice is between. -/
def alternatives : Pattern → List Pattern
  | choice p q => p :: q.alternatives
  | p => [p]

/-- The character that a pattern is. -/
def character? : Pattern → Option Char
  | literal [c] => some c
  | _ => none

/-- The set that a pattern is. -/
def set? : Pattern → Option Charset
  | one _ s => some s
  | _ => none

/-- One of the patterns, rather an earlier one. -/
def choose : List Pattern → Pattern
  | [] => one true .empty
  | [p] => p
  | p :: ps => choice p (choose ps)

/-- One of the patterns, which is one character if each of them is a character or each is a set. -/
def merge (ps : List Pattern) : Pattern :=
  match ps with
  | [p] => p
  | _ =>
    match ps.mapM character?, ps.mapM set? with
    | some cs, _ => ofSet false (.ofRanges (cs.map fun c => (c, c)))
    | _, some sets => ofSet false (sets.foldl Charset.union .empty)
    | none, none => choose ps

/-- What two lists begin with, as far as they agree. -/
def commonStart : List Pattern → List Pattern → List Pattern
  | p :: ps, q :: qs => if p = q then p :: commonStart ps qs else []
  | _, _ => []

/-- What the patterns begin with, if all of them are sequences. -/
def sharedStart : List Pattern → List Pattern
  | [] => []
  | ps@(p :: _) =>
    if ps.all fun q => 1 < q.parts.length then
      (ps.map parts).foldl commonStart p.parts
    else []

/-- One of the patterns, rather an earlier one. -/
def alternation (ps : List Pattern) : Pattern :=
  let all := ps.flatMap alternatives
  match all, sharedStart all with
  | [p], _ => p
  | _, [] => merge all
  | _, start =>
    let rests := all.map fun p => concat (p.parts.drop start.length)
    concat (start ++ [merge (rests.flatMap alternatives)])

end Pattern
end DockerMatrix
