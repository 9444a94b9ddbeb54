/-
# Log filters

A filter decides which events are shown. It is written as directives between commas, each of which
sets a level for a scope; a later directive for the same scope replaces an earlier one, and a text
that is no directive is passed over with a remark. A filter without directives sets the level `warn`
for everything.

An event is shown if one of two rules admits it.

* Of the *general* scopes that cover the event, which are those without a span and without values,
  the most specific one counts: the one with the longest source, then the one with most fields.
* Of the *local* scopes, which name a span or fields, every one that the event's span satisfies
  counts.

A span is shown, around its events and in error reports, if a local scope is about it or the general
scopes admit its level; but nothing is shown at a level that is more verbose than all that have been
set, unless values of fields are asked for.
-/

import DockerMatrix.Log.Directive
import DockerMatrix.Table

namespace DockerMatrix
namespace Log

namespace Scope

/-- Whether a source begins with the source of a scope. -/
def includesSource (s : Scope) (source : String) : Bool :=
  match s.source with
  | none => true
  | some start => start.toList.isPrefixOf source.toList

/-- Whether a scope is general: it names no span and no value. -/
def isGeneral (s : Scope) : Bool :=
  s.span.isNone && s.fields.all fun field => field.value.isNone

/-- Whether a scope is local: it names a span or fields. -/
def isLocal (s : Scope) : Bool :=
  s.span.isSome || !s.fields.isEmpty

/-- Whether a general scope covers an event: the source is included and the fields are there. -/
def covers (s : Scope) (e : Event) : Bool :=
  s.includesSource e.source && s.fields.all fun field => e.fieldNames.contains field.name

/-- Whether a local scope is about a span: source, name and the names of the fields agree. -/
def isAbout (s : Scope) (span : Span) : Bool :=
  s.includesSource span.source && (s.span.isNone || s.span = some span.name) &&
    s.fields.all fun field => (span.fields.map Field.name).contains field.name

/-- Whether a span satisfies a local scope: the values of the fields are as they have to be. -/
def isSatisfiedBy (s : Scope) (span : Span) : Bool :=
  s.isAbout span && s.fields.all fun field =>
    match field.value with
    | none => true
    | some value => span.fields.any fun f => f.name = field.name && value.accepts f.value

/-- The size of the source of a scope; no source is less than an empty one. -/
def sourceSize (s : Scope) : Nat :=
  match s.source with
  | none => 0
  | some source => source.utf8ByteSize + 1

/-- Whether a scope is more specific than another one. -/
def outranks (a b : Scope) : Bool :=
  if a.sourceSize ≠ b.sourceSize then b.sourceSize < a.sourceSize
  else if a.fields.length ≠ b.fields.length then b.fields.length < a.fields.length
  else decide (b.fields.map FieldTest.name < a.fields.map FieldTest.name)

end Scope

/-- The levels that are set, and the most verbose one that has been set, also if another one has
replaced it. -/
structure Filter where
  levels : Table Scope Level
  bound : Level
  deriving DecidableEq, Repr

/-- A text that was passed over, and why. -/
structure Remark where
  text : String
  problem : DirectiveError
  deriving DecidableEq, Repr

/-- What is said about a text that was passed over. -/
def Remark.message (r : Remark) : String :=
  "ignoring \x60" ++ r.text ++ "\x60: " ++ r.problem.message

namespace Filter

/-- The filter that sets one level for everything. -/
def uniform (level : Level) : Filter := ⟨[(⟨none, none, []⟩, level)], level⟩

/-- The filter that counts where none is given. -/
def standard : Filter := uniform .warn

/-- The filter with a directive added. -/
def add (f : Filter) (d : Directive) : Filter :=
  ⟨f.levels.put d.scope d.level, if f.bound.admits d.level then f.bound else d.level⟩

/-- The most specific of the scopes, with its level. -/
def mostSpecific : List (Scope × Level) → Option (Scope × Level)
  | [] => none
  | d :: rest =>
    match mostSpecific rest with
    | none => some d
    | some d' => if d'.1.outranks d.1 then some d' else some d

/-- The level that the general scopes of a kind set. -/
def generalLevel (f : Filter) (covers : Scope → Bool) : Level :=
  let found := f.levels.filter fun d => d.1.isGeneral && covers d.1
  match mostSpecific found with
  | none => .off
  | some d => d.2

/-- Whether an event is shown. -/
def passes (f : Filter) (e : Event) : Bool :=
  (f.generalLevel fun s => s.covers e).admits e.level ||
    match e.span with
    | none => false
    | some span =>
      f.levels.any fun d => d.1.isLocal && d.1.isSatisfiedBy span && d.2.admits e.level

/-- Whether anything of a level can be shown. -/
def reaches (f : Filter) (level : Level) : Bool :=
  f.bound.admits level || f.levels.any fun d => d.1.fields.any fun field => field.value.isSome

/-- Whether a span is shown: in the lines of the events inside it, and in the report of an error that
comes up inside it. -/
def shows (f : Filter) (span : Span) : Bool :=
  f.reaches span.level &&
    ((f.levels.any fun d => d.1.isLocal && d.1.isAbout span) ||
      (f.generalLevel fun s => s.includesSource span.source).admits span.level)

/-- The line of an event that is shown. -/
def line (f : Filter) (e : Event) : String :=
  e.line (e.span.any f.shows)

/-- The texts between the commas of a text, given the one that has been begun, its last character
first; empty ones do not count. -/
def pieces (begun : List Char) : List Char → List (List Char)
  | [] => if begun.isEmpty then [] else [begun.reverse]
  | c :: rest =>
    if c = ',' then
      if begun.isEmpty then pieces [] rest else begun.reverse :: pieces [] rest
    else pieces (c :: begun) rest

/-- What comes of the text of a filter: remarks, and the filter unless reading it panics. -/
structure Outcome where
  remarks : List Remark
  filter : Except Panic Filter

/-- Adds the directives that texts are to a filter. A panic ends the reading. -/
def readFrom (f : Filter) : List (List Char) → Outcome
  | [] => ⟨[], .ok (if f.levels.isEmpty then standard else f)⟩
  | text :: rest =>
    match Directive.ofText text with
    | .ok d => (f.add d).readFrom rest
    | .error (.splitCharacter panic) => ⟨[], .error panic⟩
    | .error problem =>
      let after := f.readFrom rest
      { after with remarks := ⟨String.ofList text, problem⟩ :: after.remarks }

/-- Reads the text of a filter; without a text the standard filter counts. -/
def read (text : Option String) : Outcome :=
  match text with
  | none => ⟨[], .ok standard⟩
  | some text => readFrom ⟨[], .off⟩ (pieces [] text.toList)

end Filter
end Log
end DockerMatrix
