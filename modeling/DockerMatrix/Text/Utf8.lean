/-
# Byte strings and UTF-8

Arguments, environment values, paths and file contents are strings of bytes; what is printed is
text. This module goes from one to the other.

A byte string is read as a list of *units*, from left to right: a unit is a character, or a broken
piece, which is a longest beginning of a well-formed sequence that the next byte cannot extend, or
a single byte that begins no sequence.

| first byte | further bytes | range of the second byte |
| --- | ---: | --- |
| `00` … `7F` | 0 | |
| `C2` … `DF` | 1 | `80` … `BF` |
| `E0` | 2 | `A0` … `BF` |
| `E1` … `EC`, `EE`, `EF` | 2 | `80` … `BF` |
| `ED` | 2 | `80` … `9F` |
| `F0` | 3 | `90` … `BF` |
| `F1` … `F3` | 3 | `80` … `BF` |
| `F4` | 3 | `80` … `8F` |

`decode?` accepts the strings without a broken piece; `lossy` shows each broken piece as U+FFFD.
-/

namespace DockerMatrix
namespace Text

/-- A string of bytes, as arguments, paths and file contents are. -/
abbrev Bytes := List UInt8

/-- The UTF-8 form of a text. -/
def encode (s : String) : Bytes :=
  s.toList.flatMap String.utf8EncodeChar

/-- An unfinished sequence: the range of its next byte, the number of bytes after that one, and the
bits read so far. -/
structure Owed where
  low : UInt8
  high : UInt8
  further : Nat
  bits : Nat
  deriving DecidableEq, Repr

/-- What a byte between two units begins. -/
inductive Opening
  | character (c : Char)
  | sequence (o : Owed)
  | broken
  deriving DecidableEq, Repr

/-- The table of first bytes. -/
def opening (b : UInt8) : Opening :=
  if b < 0x80 then .character (Char.ofNat b.toNat)
  else if b < 0xC2 then .broken
  else if b < 0xE0 then .sequence ⟨0x80, 0xBF, 0, b.toNat - 0xC0⟩
  else if b = 0xE0 then .sequence ⟨0xA0, 0xBF, 1, 0⟩
  else if b = 0xED then .sequence ⟨0x80, 0x9F, 1, 13⟩
  else if b < 0xF0 then .sequence ⟨0x80, 0xBF, 1, b.toNat - 0xE0⟩
  else if b = 0xF0 then .sequence ⟨0x90, 0xBF, 2, 0⟩
  else if b < 0xF4 then .sequence ⟨0x80, 0xBF, 2, b.toNat - 0xF0⟩
  else if b = 0xF4 then .sequence ⟨0x80, 0x8F, 2, 4⟩
  else .broken

/-- The units from a byte between two units on, given the units after it. -/
def unitsFrom (b : UInt8) (after : Option Owed → List (Option Char)) : List (Option Char) :=
  match opening b with
  | .character c => some c :: after none
  | .sequence o => after (some o)
  | .broken => none :: after none

/-- The units of a byte string, read with an unfinished sequence or between two units: a character,
or `none` for a broken piece. A byte that cannot extend the sequence begins a unit of its own. -/
def units : Option Owed → Bytes → List (Option Char)
  | none, [] => []
  | some _, [] => [none]
  | none, b :: rest => unitsFrom b fun o => units o rest
  | some o, b :: rest =>
    if o.low ≤ b ∧ b ≤ o.high then
      let bits := o.bits * 64 + (b.toNat - 0x80)
      match o.further with
      | 0 => some (Char.ofNat bits) :: units none rest
      | n + 1 => units (some ⟨0x80, 0xBF, n, bits⟩) rest
    else none :: unitsFrom b fun o => units o rest

/-- The text whose UTF-8 form is given, if the bytes are one. -/
def decode? (bytes : Bytes) : Option String :=
  let read := units none bytes
  if read.all Option.isSome then some (String.ofList (read.filterMap id)) else none

/-- The character shown for a broken piece. -/
def replacement : Char := '\uFFFD'

/-- The text shown for a byte string. -/
def lossy (bytes : Bytes) : String :=
  String.ofList ((units none bytes).map fun unit => unit.getD replacement)

end Text
end DockerMatrix
