/-
# Quoted text

A text between double quotes, on one line and free of control characters, whatever it holds.

| character | written |
| --- | --- |
| `"` and `\` | after a `\` |
| U+0000 | `\0` |
| tab, line feed, carriage return | `\t`, `\n`, `\r` |
| another character without a glyph of its own | `\u`, then its number in hexadecimal in braces |
| any other | as it is |

`quote` writes, `unquote` reads up to the closing quote.
-/

import DockerMatrix.Text.Unprintable

namespace DockerMatrix
namespace Text

/-- The lower-case hexadecimal digits of a number, without leading zeros. -/
def hexDigits (n : Nat) : List Char :=
  Nat.toDigits 16 n

/-- A character by its number. -/
def numbered (c : Char) : List Char :=
  '\\' :: 'u' :: '\x7b' :: (hexDigits c.toNat ++ ['\x7d'])

/-- A character between quotes. -/
def escape (c : Char) : List Char :=
  if c = '"' ∨ c = '\\' then ['\\', c]
  else if c = '\x00' then ['\\', '0']
  else if c = '\t' then ['\\', 't']
  else if c = '\n' then ['\\', 'n']
  else if c = '\r' then ['\\', 'r']
  else if isUnprintable c then numbered c
  else [c]

/-- A text between quotes. -/
def quote (s : String) : String :=
  String.ofList ('"' :: (s.toList.flatMap escape ++ ['"']))

/-- The value of a lower-case hexadecimal digit. -/
def hexValue? (c : Char) : Option Nat :=
  if '0' ≤ c ∧ c ≤ '9' then some (c.toNat - 48)
  else if 'a' ≤ c ∧ c ≤ 'f' then some (c.toNat - 87)
  else none

/-- Where a reader of quoted text stands: between characters, after a `\`, after a `\u`, or among
the digits of a number. -/
inductive Reading
  | plain
  | escaped
  | opening
  | digits (n : Nat)
  deriving DecidableEq, Repr

/-- The characters up to the closing quote, which is the first one that is not escaped, and what
follows it. -/
def unquoteFrom : Reading → List Char → Option (List Char × List Char)
  | _, [] => none
  | .plain, c :: rest =>
    if c = '"' then some ([], rest)
    else if c = '\\' then unquoteFrom .escaped rest
    else (unquoteFrom .plain rest).map fun r => (c :: r.1, r.2)
  | .escaped, c :: rest =>
    if c = 'u' then unquoteFrom .opening rest
    else
      let read : Option Char :=
        if c = '"' ∨ c = '\\' then some c
        else if c = '0' then some '\x00'
        else if c = 't' then some '\t'
        else if c = 'n' then some '\n'
        else if c = 'r' then some '\r'
        else none
      match read with
      | none => none
      | some d => (unquoteFrom .plain rest).map fun r => (d :: r.1, r.2)
  | .opening, c :: rest => if c = '\x7b' then unquoteFrom (.digits 0) rest else none
  | .digits n, c :: rest =>
    if c = '\x7d' then (unquoteFrom .plain rest).map fun r => (Char.ofNat n :: r.1, r.2)
    else match hexValue? c with
      | none => none
      | some d => unquoteFrom (.digits (16 * n + d)) rest

/-- The text written between the quotes that the characters start with, and what follows them. -/
def unquote : List Char → Option (String × List Char)
  | '"' :: rest => (unquoteFrom .plain rest).map fun r => (String.ofList r.1, r.2)
  | _ => none

end Text
end DockerMatrix
