/-
# Brackets in patterns

A set of characters between `[` and `]`. With a `^` in front it is the set of all others. Its parts
are characters, ranges with a `-` between the ends, escapes, named sets such as `[:alpha:]`, and
brackets. The operations `&&`, `--` and `~~` stand between groups of parts and are carried out from
left to right. A `-` in front stands for itself, and so does a `]` that would leave nothing between
the brackets.

Where only the characters of ASCII count, the characters up to U+00FF can be written by number, but
what a bracket leaves must be characters of ASCII.
-/

import DockerMatrix.Pattern.Escape

namespace DockerMatrix
namespace Pattern

/-- A set, and how deep the brackets and operations in it are nested. -/
structure Part where
  set : Charset
  depth : Nat
  deriving DecidableEq, Repr

/-- An operation on sets. -/
inductive SetOperation
  | intersection
  | difference
  | symmetricDifference
  deriving DecidableEq, Repr

namespace SetOperation

/-- The operation that a sign stands for when it is doubled. -/
def ofSign? : Char → Option SetOperation
  | '&' => some intersection
  | '-' => some difference
  | '~' => some symmetricDifference
  | _ => none

/-- Carries out an operation. -/
def apply : SetOperation → Charset → Charset → Charset
  | intersection => .intersection
  | difference => .difference
  | symmetricDifference => .symmetricDifference

end SetOperation

/-- A bracket that is being read: whether it is the set of all others, whether nothing but `-` has
been read of it, the operation that waits for the parts behind it, with the part in front, and the
parts that have been read, the last one first. -/
structure Bracket where
  negated : Bool
  fresh : Bool
  pending : Option (SetOperation × Part)
  parts : List Part
  deriving DecidableEq, Repr

namespace Flags

/-- Whether a bracket can have a part. -/
def hasParts (f : Flags) : Bool :=
  !(f.unicode && f.caseless)

/-- The set with the other case of each letter, where the case does not count. -/
def fold (f : Flags) (s : Charset) : Charset :=
  if f.caseless then .caseless s else s

/-- The greatest code that a part of a bracket can have. -/
def lastCode (f : Flags) : Nat :=
  if f.unicode then Charset.lastCode else 0xFF

/-- What a bracket leaves of the set in it, or of the set of all others. -/
def close (f : Flags) (negated : Bool) (s : Charset) : Option Charset :=
  let folded := f.fold s
  let left := if negated then folded.complement f.lastCode else folded
  if f.unicode || left.isAscii then some left else none

/-- Whether a character can be a part of a bracket. -/
def hasMember (f : Flags) (c : Char) (asByte : Bool) : Bool :=
  f.hasParts && (f.unicode || asByte || c.toNat < 0x80)

end Flags

namespace Bracket

/-- A bracket of which nothing has been read behind its sign. -/
def start (negated : Bool) : Bracket := ⟨negated, true, none, []⟩

/-- The bracket with another part. -/
def add (b : Bracket) (p : Part) : Bracket :=
  { b with fresh := false, parts := p :: b.parts }

/-- The parts since the last operation, as one. -/
def union (b : Bracket) : Part :=
  match b.parts with
  | [] => ⟨.empty, 0⟩
  | [p] => p
  | ps =>
    ⟨ps.foldl (fun s p => .union p.set s) .empty, 1 + ps.foldl (fun d p => max d p.depth) 0⟩

/-- What has been read, as one part. -/
def total (f : Flags) (b : Bracket) : Part :=
  match b.pending with
  | none => b.union
  | some (operation, left) =>
    ⟨operation.apply (f.fold left.set) (f.fold b.union.set), 1 + max left.depth b.union.depth⟩

/-- The bracket with an operation behind what has been read. -/
def operate (f : Flags) (b : Bracket) (operation : SetOperation) : Bracket :=
  { b with fresh := false, pending := some (operation, b.total f), parts := [] }

/-- What a bracket is when it is closed. -/
def close (f : Flags) (b : Bracket) : Option Part :=
  let total := b.total f
  (f.close b.negated total.set).map fun s => ⟨s, total.depth + 1⟩

end Bracket

/-- Whether a `^` stands in front, and what follows it. -/
def readNegation (f : Flags) (cs : List Char) : Bool × List Char :=
  match f.skip cs with
  | '^' :: rest => (true, rest)
  | rest => (false, rest)

/-- The named set that the characters behind a `[` stand for, whether it is that of all others, and
what follows it. -/
def readNamed (cs : List Char) : Option (Charset × Bool × List Char) :=
  match cs with
  | ':' :: rest =>
    let (negated, rest) :=
      match rest with
      | '^' :: rest => (true, rest)
      | _ => (false, rest)
    match rest.dropWhile (· ≠ ':') with
    | ':' :: ']' :: after =>
      (Charset.named.lookup (String.ofList (rest.takeWhile (· ≠ ':')))).map fun s =>
        (s, negated, after)
    | _ => none
  | _ => none

/-- What a character of a bracket stands for, together with those behind it that belong to it, and
what follows them. -/
def readMember (f : Flags) (c : Char) (rest : List Char) : Option (Escape × List Char) :=
  if c = '\\' then readEscape f rest else some (.character c false, rest)

/-- The set that a part other than a range stands for. -/
def memberSet (f : Flags) : Escape → Option Charset
  | .character c asByte => if f.hasMember c asByte then some (.single c) else none
  | .set s => if f.hasParts then some s else none
  | .assertion _ => none

/-- The set of a range. -/
def rangeSet (f : Flags) : Escape → Escape → Option Charset
  | .character low lowAsByte, .character high highAsByte =>
    if low ≤ high ∧ f.hasMember low lowAsByte ∧ f.hasMember high highAsByte then
      some (.range low high)
    else none
  | _, _ => none

/-- The range or other part that begins with a character, and what follows it. -/
def readRange (f : Flags) (c : Char) (rest : List Char) : Option (Charset × List Char) :=
  match readMember f c rest with
  | none => none
  | some (first, rest) =>
    match f.skip rest with
    | '-' :: behind =>
      match f.skip behind with
      | [] => none
      | d :: after =>
        if d = ']' ∨ d = '-' then (memberSet f first).map fun s => (s, '-' :: behind)
        else match readMember f d after with
          | none => none
          | some (last, rest) => (rangeSet f first last).map fun s => (s, rest)
    | rest => (memberSet f first).map fun s => (s, rest)

/-- The part that a bracket is, and what follows it. The brackets around it are given, the inner
ones first. Each character is read in one step at most, so that as many steps as there are
characters are enough. -/
def readBracket (f : Flags) : Nat → Bracket → List Bracket → List Char → Option (Part × List Char)
  | 0, _, _, _ => none
  | n + 1, b, around, cs =>
    match f.skip cs with
    | [] => none
    | c :: rest =>
      if b.fresh ∧ (c = '-' ∨ c = ']' ∧ b.parts.isEmpty) then
        if f.hasMember c false then
          let b' := b.add ⟨.single c, 0⟩
          readBracket f n { b' with fresh := c = '-' } around rest
        else none
      else if c = '[' then
        match readNamed rest with
        | some (s, negated, after) =>
          if f.hasParts then
            match f.close negated s with
            | none => none
            | some s => readBracket f n (b.add ⟨s, 0⟩) around after
          else none
        | none =>
          let (negated, after) := readNegation f rest
          readBracket f n (.start negated) ({ b with fresh := false } :: around) after
      else if c = ']' then
        match b.close f, around with
        | none, _ => none
        | some p, [] => some (p, rest)
        | some p, b' :: around => readBracket f n (b'.add p) around rest
      else
        match SetOperation.ofSign? c, rest with
        | some operation, d :: after =>
          if d = c then readBracket f n (b.operate f operation) around after
          else
            match readRange f c rest with
            | none => none
            | some (s, after) => readBracket f n (b.add ⟨s, 0⟩) around after
        | _, _ =>
          match readRange f c rest with
          | none => none
          | some (s, after) => readBracket f n (b.add ⟨s, 0⟩) around after

end Pattern
end DockerMatrix
