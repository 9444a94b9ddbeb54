/-
# Lines of an environment file

An environment file holds assignments, one on each logical line. A logical line is a line of the
file, or several if a quoted value spans them.

| line | meaning |
| --- | --- |
| `NAME=VALUE`, `export NAME=VALUE` | an assignment; blanks may stand around both parts |
| blank, or `#` after blanks | nothing |

A name is ASCII letters, digits, `_` and `.`, the first one a letter or `_`. In a value, `'…'` holds
its characters as they are; elsewhere `\\`, `\'`, `\"`, `\$`, `\n` and `\ ` stand for a character,
and `$NAME` and `${NAME}` for a variable's text. A space or a tab outside quotes ends the value, and
only a comment may follow it. A `$NAME` ends before the first character that is neither letter nor
number, and that character stands for itself, unless it begins a name of its own; so `"$NAME"` lacks
its closing quote.
-/

import DockerMatrix.Environment
import DockerMatrix.FileTree.Basic
import DockerMatrix.Text.Alphanumeric
import DockerMatrix.Text.Cut

namespace DockerMatrix
namespace Environment

open Text (Bytes byteSize)

/-- Why an environment file cannot be used. -/
inductive FileError
  /-- A piece of a line, with the position in it where it goes wrong. -/
  | line (text : String) (position : Nat)
  /-- Bytes that are no text. -/
  | notText
  /-- A file that cannot be read. -/
  | access (cause : AccessError)
  /-- An assignment of a value with a NUL character, which no variable can hold. -/
  | nulCharacter (a : Assignment)
  deriving DecidableEq, Repr

namespace FileError

/-- The message about a failure to read bytes as text. -/
def notTextMessage : String := "stream did not contain valid UTF-8"

/-- The messages about a file that cannot be used. A failure to read is its own cause. -/
def chain : FileError → List String
  | line text position =>
    ["Error parsing line: '" ++ text ++ "', error at line index: " ++ toString position]
  | notText => [notTextMessage, notTextMessage]
  | access cause => [cause.message, cause.message]
  | nulCharacter a => [a.panic.message]

end FileError

/-! ## Logical lines -/

/-- Where the end of a line may find its reader. -/
inductive Quoting
  | plain
  | blank
  | escaped
  | strong
  | strongEscaped
  | weak
  | weakEscaped
  | comment
  deriving DecidableEq, Repr

/-- The state after a character that is plain text or opens a quotation. -/
def Quoting.opened (c : Char) : Quoting :=
  if c = '\\' then .escaped else if c = '"' then .weak else if c = '\'' then .strong else .plain

/-- The state after a character. Of several blanks in a row, every second one is plain. -/
def Quoting.next : Quoting → Char → Quoting
  | plain, c => if Text.isBlank c && c != '\n' && c != '\r' then blank else opened c
  | blank, c => if c = '#' then comment else opened c
  | escaped, _ => plain
  | weak, c => if c = '\\' then weakEscaped else if c = '"' then plain else weak
  | weakEscaped, _ => weak
  | strong, c => if c = '\\' then strongEscaped else if c = '\'' then plain else strong
  | strongEscaped, _ => strong
  | comment, _ => comment

/-- The state at the end of the characters, and the characters in front of a comment. -/
def scan : Quoting → List Char → Quoting × List Char
  | q, [] => (q, [])
  | q, c :: rest =>
    if q.next c = .comment then (.comment, [])
    else
      let r := scan (q.next c) rest
      (r.1, c :: r.2)

/-- The lines of a file with their ends, given the line that has been begun, the last byte first. -/
def rawLinesFrom (begun : Bytes) : Bytes → List Bytes
  | [] => if begun.isEmpty then [] else [begun.reverse]
  | b :: rest =>
    if b = 10 then (b :: begun).reverse :: rawLinesFrom [] rest else rawLinesFrom (b :: begun) rest

/-- A line without its end, which is a line feed, or a carriage return and a line feed. -/
def withoutEnd (line : List Char) : List Char :=
  match line.reverse with
  | '\n' :: '\r' :: rest => rest.reverse
  | '\n' :: rest => rest.reverse
  | _ => line

/-- The logical lines in lines of a file, given the logical line that has been begun and the state
that it is in. A line that the end of the file leaves open is an error. -/
def logicalLinesFrom : Quoting → List Char → List Bytes → List (Except FileError (List Char))
  | q, begun, [] =>
    if q = .plain then [] else [.error (.line (String.ofList begun) (byteSize begun))]
  | q, begun, raw :: rest =>
    match Text.decode? raw with
    | none => [.error .notText]
    | some text =>
      let line := begun ++ text.toList
      if (Text.trimStart line).head? = some '#' then .ok [] :: logicalLinesFrom .plain [] rest
      else match scan q text.toList with
        | (.plain, _) => .ok (withoutEnd line) :: logicalLinesFrom .plain [] rest
        | (.comment, kept) => .ok (begun ++ kept) :: logicalLinesFrom .plain [] rest
        | (q', _) => logicalLinesFrom q' line rest

/-- The bytes that may stand at the head of a file to say that it is UTF-8. -/
def byteOrderMark : Bytes := [0xEF, 0xBB, 0xBF]

/-- The logical lines of a file, up to the first one that cannot be read. -/
def logicalLines (contents : Bytes) : List (Except FileError (List Char)) :=
  let body := if byteOrderMark.isPrefixOf contents then contents.drop 3 else contents
  logicalLinesFrom .plain [] (rawLinesFrom [] body)

/-! ## Values -/

/-- What a character of a value is part of: plain text, blanks behind the value, an escape, strong
quotes, the name of a variable, or such a name in braces; names are read last character first. -/
inductive Part
  | plain
  | behind
  | escape
  | strong
  | name (read : List Char)
  | braces (read : List Char)
  deriving DecidableEq, Repr

/-- The text that is found under a name, or nothing. -/
def substitute (env : Environment) (read : List Char) : List Char :=
  (((env.entry? (String.ofList read.reverse)).bind Text.decode?).getD "").toList

/-- The character that an escaped character stands for. -/
def escaped? (c : Char) : Option Char :=
  if c = '\\' ∨ c = '\'' ∨ c = '"' ∨ c = '$' ∨ c = ' ' then some c
  else if c = 'n' then some '\n'
  else none

/-- The value from a character on: what the character is part of, whether weak quotes are open, and
its index. `broken` makes an error of an index, `unclosed` is the error at the end. -/
def valueFrom (env : Environment) (broken : Nat → FileError) (unclosed : FileError) :
    Part → Bool → Nat → List Char → Except FileError (List Char)
  | part, weak, _, [] =>
    match part, weak with
    | .strong, _ => .error unclosed
    | .braces _, _ => .error unclosed
    | _, true => .error unclosed
    | .name read, false => .ok (env.substitute read)
    | _, false => .ok []
  | .behind, weak, i, c :: rest =>
    if c = ' ' ∨ c = '\t' then env.valueFrom broken unclosed .behind weak (i + 1) rest
    else if c = '#' then .ok []
    else .error (broken i)
  | .escape, weak, i, c :: rest =>
    match escaped? c with
    | none => .error (broken i)
    | some d => (env.valueFrom broken unclosed .plain weak (i + 1) rest).map (d :: ·)
  | .strong, weak, i, c :: rest =>
    if c = '\'' then env.valueFrom broken unclosed .plain weak (i + 1) rest
    else (env.valueFrom broken unclosed .strong weak (i + 1) rest).map (c :: ·)
  | .name read, weak, i, c :: rest =>
    if Text.isAlphanumeric c then
      env.valueFrom broken unclosed (.name (c :: read)) weak (i + 1) rest
    else if c = '\x7b' ∧ read = [] then env.valueFrom broken unclosed (.braces []) weak (i + 1) rest
    else if c = '$' then
      (env.valueFrom broken unclosed (.name []) weak (i + 1) rest).map (env.substitute read ++ ·)
    else
      (env.valueFrom broken unclosed .plain weak (i + 1) rest).map
        (env.substitute read ++ c :: ·)
  | .braces read, weak, i, c :: rest =>
    if c = '\x7d' then
      (env.valueFrom broken unclosed .plain weak (i + 1) rest).map (env.substitute read ++ ·)
    else env.valueFrom broken unclosed (.braces (c :: read)) weak (i + 1) rest
  | .plain, weak, i, c :: rest =>
    if c = '$' then env.valueFrom broken unclosed (.name []) weak (i + 1) rest
    else if c = '\\' then env.valueFrom broken unclosed .escape weak (i + 1) rest
    else if c = '"' then env.valueFrom broken unclosed .plain (!weak) (i + 1) rest
    else if weak then (env.valueFrom broken unclosed .plain weak (i + 1) rest).map (c :: ·)
    else if c = '\'' then env.valueFrom broken unclosed .strong weak (i + 1) rest
    else if c = ' ' ∨ c = '\t' then env.valueFrom broken unclosed .behind weak (i + 1) rest
    else (env.valueFrom broken unclosed .plain weak (i + 1) rest).map (c :: ·)

/-- The value that characters stand for. Nothing, or a comment, stands for the empty text. -/
def value (env : Environment) (cs : List Char) : Except FileError String :=
  if cs.isEmpty ∨ cs.head? = some '#' then .ok ""
  else
    let text := String.ofList cs
    (env.valueFrom (.line text) (.line text (byteSize cs - 1)) .plain false 0 cs).map String.ofList

/-! ## Assignments -/

/-- Whether a character can stand in a name. -/
def isNameChar (c : Char) : Bool :=
  c.isAlphanum || c = '_' || c = '.'

/-- The name that characters start with, and what follows it and the blanks behind it. -/
def name? (cs : List Char) : Option (String × List Char) :=
  match cs with
  | [] => none
  | c :: _ =>
    if c.isAlpha || c = '_' then
      some (String.ofList (cs.takeWhile isNameChar), Text.trimStart (cs.dropWhile isNameChar))
    else none

/-- The assignment on a logical line, if there is one. -/
def assignment? (env : Environment) (line : List Char) : Except FileError (Option Assignment) :=
  let body := Text.trimEnd line
  let start := Text.trimStart body
  let broken (rest : List Char) : FileError :=
    .line (String.ofList line) (byteSize body - byteSize rest)
  let assign (name : String) (rest : List Char) : Except FileError (Option Assignment) :=
    (env.value (Text.trimStart rest)).map fun value => some ⟨name, value⟩
  if start.isEmpty ∨ start.head? = some '#' then .ok none
  else match name? start with
    | none => .error (broken start)
    | some (name, '=' :: rest) => assign name rest
    | some ("export", rest) =>
      match name? rest with
      | none => .error (broken rest)
      | some (name, '=' :: rest) => assign name rest
      | some (_, rest) => .error (broken rest)
    | some (_, rest) => .error (broken rest)

end Environment
end DockerMatrix
