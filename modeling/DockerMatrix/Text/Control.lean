/-
# Escape sequences and control characters

Text that a terminal would obey. `strip` deletes the sequences by which colors are set; `printable`
and `printed` delete every escape sequence and every control character except tab, line feed, form
feed and carriage return, so that a value named in a message cannot act on the terminal.

| sequence | begins | ends |
| --- | --- | --- |
| short | ESC | with the next character; those from U+0020 to U+002F are part of it |
| control sequence | ESC `[` | with a character from U+0040 to U+007E |
| command | ESC `]` | with the next ESC, U+0018, U+001A or U+0007 |
| string | ESC `X`, `^` or `_` | with the next ESC, U+0018 or U+001A, or a byte 9C |
| device string | ESC `P` | as a string, once its head is over |

The head of a device string has parameters, which are digits, `:` and `;` after one of `<`, `=`, `>`
and `?` or none, and characters from U+0020 to U+002F. The first character that has no place there
ends it. No character above U+007F ends a sequence, except that a byte 9C in its UTF-8 form ends a
string.

The four layout characters are shown also inside a short or a control sequence. In a text by itself
the sequence is over then. On a stream it only pauses: what follows is shown up to the next control
character, and the sequence goes on there, unless it has been forgotten because a character above
U+007F was shown.
-/

namespace DockerMatrix
namespace Text

/-- The character ESC. -/
def esc : Char := '\x1b'

/-- Whether a reader of color sequences stands in plain text, after an ESC, or among the digits of a
sequence; the characters read since the ESC are kept, the last one first, as they are text if no
sequence comes of them. -/
inductive Scan
  | text
  | escape
  | digits (read : List Char)
  deriving DecidableEq, Repr

/-- The characters without the color sequences, which are ESC, `[`, decimal digits and `m`. -/
def stripFrom : Scan → List Char → List Char
  | .text, [] => []
  | .escape, [] => [esc]
  | .digits read, [] => read.reverse
  | .text, c :: rest => if c = esc then stripFrom .escape rest else c :: stripFrom .text rest
  | .escape, c :: rest =>
    if c = '[' then stripFrom (.digits ['[', esc]) rest
    else if c = esc then esc :: stripFrom .escape rest
    else esc :: c :: stripFrom .text rest
  | .digits read, c :: rest =>
    if c = 'm' then stripFrom .text rest
    else if c.isDigit then stripFrom (.digits (c :: read)) rest
    else if c = esc then read.reverse ++ stripFrom .escape rest
    else read.reverse ++ c :: stripFrom .text rest

/-- A text without the color sequences in it, deleted in one pass from left to right. -/
def strip (s : String) : String :=
  String.ofList (stripFrom .text s.toList)

/-- Where a terminal stands among the characters it is sent. The head of a device string has three
stages: nothing is read of it yet, or parameters, or what follows the parameters. -/
inductive Terminal
  | ground
  | escape
  | intermediate
  | sequence
  | command
  | head
  | parameters
  | headEnd
  | string
  deriving DecidableEq, Repr

/-- The control characters that only move the cursor on the page. -/
def isLayout (c : Char) : Bool :=
  c = '\t' || c = '\n' || c = '\x0c' || c = '\r'

/-- Whether a character is a control character of ASCII. -/
def isControl (c : Char) : Bool :=
  c.toNat < 0x20 || c.toNat = 0x7F

/-- Whether the UTF-8 form of a character has the byte that ends a string. -/
def hasTerminator (c : Char) : Bool :=
  (String.utf8EncodeChar c).contains 0x9C

/-- The stage of a device string after a character that is not a control character. -/
def Terminal.nextInHead (state : Terminal) (c : Char) : Terminal :=
  if c.toNat < 0x30 then .headEnd
  else if 0x40 ≤ c.toNat ∨ state = .headEnd then .string
  else if c.isDigit ∨ c = ':' ∨ c = ';' ∨ state = .head then .parameters
  else .string

/-- The state after a character that is not shown, or `none` if the character is shown. -/
def Terminal.next (state : Terminal) (c : Char) : Option Terminal :=
  if c = esc then some .escape
  else if c = '\x18' ∨ c = '\x1a' then some .ground
  else if 0x80 ≤ c.toNat then some (if state = .string ∧ hasTerminator c then .ground else state)
  else match state with
    | .ground => if isControl c && !isLayout c then some .ground else none
    | .command => some (if c = '\x07' then .ground else .command)
    | .string => some .string
    | .head => some (if isControl c then .head else state.nextInHead c)
    | .parameters => some (if isControl c then .parameters else state.nextInHead c)
    | .headEnd => some (if isControl c then .headEnd else state.nextInHead c)
    | .escape =>
      if isLayout c then none
      else if isControl c then some .escape
      else if c.toNat < 0x30 then some .intermediate
      else if c = '[' then some .sequence
      else if c = ']' then some .command
      else if c = 'P' then some .head
      else if c = 'X' ∨ c = '^' ∨ c = '_' then some .string
      else some .ground
    | .intermediate =>
      if isLayout c then none
      else if isControl c then some .intermediate
      else if c.toNat < 0x30 then some .intermediate
      else some .ground
    | .sequence =>
      if isLayout c then none
      else if isControl c then some .sequence
      else if c.toNat < 0x40 then some .sequence
      else some .ground

/-- What a layout character that is shown inside a sequence does to it. -/
inductive Interruption
  | ends
  | pauses
  deriving DecidableEq, Repr

/-- Where the sequence goes on after an interruption. -/
def Interruption.paused : Interruption → Terminal → Terminal
  | ends, _ => .ground
  | pauses, state => state

/-- What becomes of the characters to come: they are shown, and a paused sequence goes on at the
next control character, or they are read in a state of the terminal. -/
inductive Passage
  | shown (paused : Terminal)
  | hidden (state : Terminal)
  deriving DecidableEq, Repr

/-- What becomes of characters in a state. -/
def Passage.of (state : Terminal) : Passage :=
  if state = .ground then .shown .ground else .hidden state

/-- The characters that are shown, from a passage on. -/
def shownFrom (interruption : Interruption) : Passage → List Char → List Char
  | _, [] => []
  | .shown paused, c :: rest =>
    if isControl c && !isLayout c then
      shownFrom interruption (.of ((paused.next c).getD .ground)) rest
    else c :: shownFrom interruption (.shown (if c.toNat < 0x80 then paused else .ground)) rest
  | .hidden state, c :: rest =>
    match state.next c with
    | some after => shownFrom interruption (.of after) rest
    | none => c :: shownFrom interruption (.shown (interruption.paused state)) rest

/-- A text without escape sequences and without control characters other than tab, line feed, form
feed and carriage return. -/
def printable (s : String) : String :=
  String.ofList (shownFrom .ends (.shown .ground) s.toList)

/-- What a stream that shows no styles makes of a text: as `printable`, but a sequence that is
interrupted goes on later. -/
def printed (s : String) : String :=
  String.ofList (shownFrom .pauses (.shown .ground) s.toList)

end Text
end DockerMatrix
