/-
# Diagnostic events

What the program notes about its own work, for whoever looks for a fault in it. An event has a
level, the module that it comes from, a message and named fields; it may happen inside a span, which
is a stretch of work with fields of its own.
-/

namespace DockerMatrix
namespace Log

/-- How urgent an event is, or how much is let through: what is less urgent is more verbose. -/
inductive Level
  | off
  | error
  | warn
  | info
  | debug
  | trace
  deriving DecidableEq, Repr

namespace Level

/-- Every level, from the one that lets nothing through to the one that lets through all. -/
def all : List Level := [off, error, warn, info, debug, trace]

/-- The place of a level in the order of verbosity. -/
def rank : Level → Nat
  | off => 0
  | error => 1
  | warn => 2
  | info => 3
  | debug => 4
  | trace => 5

/-- The name of a level. -/
def name : Level → String
  | off => "off"
  | error => "error"
  | warn => "warn"
  | info => "info"
  | debug => "debug"
  | trace => "trace"

/-- Whether a level, as a bound, lets an event of another level through. -/
def admits (bound level : Level) : Bool :=
  level.rank ≤ bound.rank

end Level

/-- A named value. -/
structure Field where
  name : String
  value : String
  deriving DecidableEq, Repr

/-- The value of a field, after its name. -/
def Field.text (f : Field) : String :=
  f.name ++ "=" ++ f.value

/-- A stretch of work, in which events happen. -/
structure Span where
  source : String
  level : Level
  name : String
  fields : List Field
  deriving DecidableEq, Repr

/-- The name of a span with its fields. -/
def Span.text (s : Span) : String :=
  s.name ++ "\x7b" ++ " ".intercalate (s.fields.map Field.text) ++ "\x7d"

/-- The entry of a span in the trace of an error report, which names where it comes from. -/
def Span.entry (s : Span) : String :=
  s.source ++ "::" ++ s.name ++
    if s.fields.isEmpty then "" else " with " ++ " ".intercalate (s.fields.map Field.text)

/-- An event, and the span that it happens in. -/
structure Event where
  source : String
  level : Level
  message : String
  fields : List Field
  span : Option Span
  deriving DecidableEq, Repr

namespace Event

/-- The names of an event's fields; the message is one of them. -/
def fieldNames (e : Event) : List String :=
  "message" :: e.fields.map Field.name

/-- The line of an event, which names the span or does not. -/
def line (showsSpan : Bool) (e : Event) : String :=
  let span :=
    match e.span, showsSpan with
    | some span, true => span.text ++ ": "
    | _, _ => ""
  String.ofList (e.level.name.toList.map Char.toUpper) ++ " " ++ span ++ e.source ++ ": " ++
    " ".intercalate (e.message :: e.fields.map Field.text)

end Event
end Log
end DockerMatrix
