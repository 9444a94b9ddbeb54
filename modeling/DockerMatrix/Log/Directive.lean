/-
# Directives of a log filter

A directive sets a level for the events that it speaks of.

| directive | speaks of |
| --- | --- |
| `LEVEL` | every event |
| `SOURCE` | events whose source begins so, at every level |
| `SOURCE=LEVEL` | events whose source begins so |
| `[SPAN]`, `[SPAN]=LEVEL` | events inside the span |
| `[SPAN{FIELD}]`, `[SPAN{FIELD=VALUE}]` | events inside the span, if it has the field |
| `SOURCE[…]`, `SOURCE[…]=LEVEL` | events inside the span, if the span's source begins so |

A level is a name in letters of either case or a number from 0 to 5; without one, every level is
meant. A word that is no level is a source.

The value of a field is a pattern, which the text of the field has to fit. The words `true` and
`false` and numbers are no patterns: a text is never equal to one of them.

Blanks around a directive do not count when its signs are looked for. Its pieces, though, are cut
out of the text with the blanks, at the offsets that the signs have in the text without them. So
blanks in front shift each piece to the left, and an offset may come to lie inside a character. Then
reading the directive panics.
-/

import DockerMatrix.Log.Event
import DockerMatrix.Panic
import DockerMatrix.Pattern.Automaton
import DockerMatrix.Pattern.Reader
import DockerMatrix.Text.Alphanumeric
import DockerMatrix.Text.Cut
import DockerMatrix.Text.Numeral

namespace DockerMatrix
namespace Log

/-- The level of a text: a number or a name. -/
def Level.ofText? (text : List Char) : Option Level :=
  match Text.number? text with
  | some n => all.find? fun level => level.rank = n
  | none => all.find? fun level => level.name.toList = text.map Char.toLower

/-- What the value of a field has to be, as it is written, and the pattern that it is. -/
structure ValueTest where
  text : String
  pattern : Option Pattern
  deriving DecidableEq, Repr

/-- A field that a span or an event has to have, with a certain value if one is given. -/
structure FieldTest where
  name : String
  value : Option ValueTest
  deriving DecidableEq, Repr

/-- What a directive speaks of, apart from its level. -/
structure Scope where
  source : Option String
  span : Option String
  fields : List FieldTest
  deriving DecidableEq, Repr

/-- A scope and the level that is set for it. -/
structure Directive where
  scope : Scope
  level : Level
  deriving DecidableEq, Repr

/-- Why a text is no directive. -/
inductive DirectiveError
  | malformed
  | unknownLevel
  | unusableValue (e : Pattern.ReadError)
  /-- An offset lies inside a character. -/
  | splitCharacter (panic : Panic)
  deriving DecidableEq, Repr

/-- What is said about a value that is no pattern. -/
def valueMessage : Pattern.ReadError → String
  | .malformed => "error building NFA"
  | .unicodeWords =>
    "unsupported regex feature for DFAs: cannot build DFAs for regexes with Unicode word " ++
      "boundaries; switch to ASCII word boundaries, or heuristically enable Unicode word " ++
      "boundaries or use a different regex engine"

/-- What is said about a text that is no directive. -/
def DirectiveError.message : DirectiveError → String
  | malformed => "invalid filter directive"
  | unknownLevel =>
    "error parsing level filter: expected one of \"off\", \"error\", \"warn\", \"info\", " ++
      "\"debug\", \"trace\", or a number 0-5"
  | unusableValue e => "invalid field filter: " ++ valueMessage e
  | splitCharacter panic => panic.message

namespace ValueTest

/-- What a value is written to be. -/
def ofText (text : List Char) : Except Pattern.ReadError ValueTest :=
  if text = "true".toList ∨ text = "false".toList ∨ Text.isNumeral text then
    .ok ⟨String.ofList text, none⟩
  else (Pattern.read text).map fun p => ⟨String.ofList text, some p⟩

/-- Whether a text is as it has to be. -/
def accepts (v : ValueTest) (text : String) : Bool :=
  v.pattern.any fun p => p.fits text

end ValueTest

namespace FieldTest

/-- The characters before the first `=`, and those from there to the next one or to the end. -/
def ofText (text : List Char) : Except DirectiveError FieldTest :=
  let name := String.ofList (text.takeWhile (· ≠ '='))
  match text.dropWhile (· ≠ '=') with
  | [] => .ok ⟨name, none⟩
  | _ :: value =>
    match ValueTest.ofText (value.takeWhile (· ≠ '=')) with
    | .ok v => .ok ⟨name, some v⟩
    | .error e => .error (.unusableValue e)

end FieldTest

namespace Directive

/-- A directive that speaks of every event and admits it. -/
def everything : Directive := ⟨⟨none, none, []⟩, .trace⟩

/-- What is being read, with the offset where it began. -/
inductive Part
  | start
  | word
  | span (start : Nat)
  | field (start : Nat)
  | fields
  | closed
  | level (start : Nat)
  deriving DecidableEq, Repr

/-- Whether a directive can begin with a character, apart from a bracket. -/
def isInitial (c : Char) : Bool :=
  c = '-' || c = ':' || c = '_' || Text.isAlphanumeric c

/-- The source file that directives are read by. -/
def sourceFile : String :=
  "/usr/local/cargo/registry/src/index.crates.io-1949cf8c6b5b557f/tracing-subscriber-0.3.23/src/" ++
    "filter/env/directive.rs"

/-- The panic on a line of that file over a piece that is not there. -/
def noPiece (line : Nat) (text : List Char) (start stop : Nat) : DirectiveError :=
  .splitCharacter ⟨Text.cutMessage start stop text, sourceFile, line⟩

/-- A piece of a text, which a line of the source file cuts out. -/
def piece (line : Nat) (text : List Char) (start stop : Nat) : Except DirectiveError String :=
  match Text.cut? start stop text with
  | some cs => .ok (String.ofList cs)
  | none => .error (noPiece line text start stop)

/-- Goes on with a character at an offset. The pieces that it ends are cut out of the text. -/
def next (text : List Char) (offset : Nat) (c : Char) (d : Directive) :
    Part → Except DirectiveError (Directive × Part)
  | .start =>
    if c = '[' then .ok (d, .span (offset + 1))
    else if isInitial c then .ok (d, .word)
    else .error .malformed
  | .word =>
    if c = '=' ∨ c = '[' then do
      let source ← piece (if c = '=' then 151 else 155) text 0 offset
      let after := if c = '=' then Part.level (offset + 1) else Part.span (offset + 1)
      return ({ d with scope := { d.scope with source := some source } }, after)
    else .ok (d, .word)
  | .span start =>
    if c = ']' then do
      let span ← piece 174 text start offset
      return ({ d with scope := { d.scope with span := some span } }, .closed)
    else if c = '\x7b' then do
      let span ← piece 178 text start offset
      let span := if span.isEmpty then none else some span
      return ({ d with scope := { d.scope with span := span } }, .field (offset + 1))
    else .ok (d, .span start)
  | .field start =>
    if c = '\x7d' then do
      let field ← piece 186 text start offset
      if field.isEmpty then .error .malformed
      else
        let test ← FieldTest.ofText field.toList
        return ({ d with scope := { d.scope with fields := d.scope.fields ++ [test] } }, .fields)
    else .ok (d, .field start)
  | .fields => if c = ']' then .ok (d, .closed) else .error .malformed
  | .closed => if c = '=' then .ok (d, .level (offset + 1)) else .error .malformed
  | .level start => .ok (d, .level start)

/-- Goes on with the characters from an offset on. -/
def readFrom (text : List Char) (offset : Nat) (d : Directive) (part : Part) :
    List Char → Except DirectiveError (Directive × Part)
  | [] => .ok (d, part)
  | c :: rest =>
    match d.next text offset c part with
    | .error e => .error e
    | .ok (d', part') => d'.readFrom text (offset + c.utf8Size) part' rest

/-- The directive at the end of its text. -/
def finish (text : List Char) (d : Directive) : Part → Except DirectiveError Directive
  | .word =>
    match Level.ofText? text with
    | some level => .ok { d with level := level }
    | none => .ok { d with scope := { d.scope with source := some (String.ofList text) } }
  | .level start =>
    match Text.cutFrom? start text with
    | none => .error (noPiece 228 text start (Text.byteSize text))
    | some [] => .ok d
    | some cs =>
      match Level.ofText? cs with
      | some level => .ok { d with level := level }
      | none => .error .unknownLevel
  | .closed => .ok d
  | _ => .error .malformed

/-- The directive that a text is. -/
def ofText (text : List Char) : Except DirectiveError Directive := do
  let (d, part) ← everything.readFrom text 0 .start (Text.trimEnd (Text.trimStart text))
  d.finish text part

end Directive
end Log
end DockerMatrix
