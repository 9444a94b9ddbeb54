/-
# Status messages

What the person who runs the generator reads: one line or more on standard output, or on standard
error for an error.

| tone | mark | color | stream |
| --- | --- | --- | --- |
| information | | default | output |
| plain | | never colored | output |
| success | `[✔] ` | green | output |
| warning | `[!] ` | yellow | output |
| error | `[✗] ` | red | error |
-/

import DockerMatrix.Status.Color

namespace DockerMatrix
namespace Status

/-- A stream that text is printed on. -/
inductive Stream
  | output
  | error
  deriving DecidableEq, Repr

/-- The tone of a message. -/
inductive Tone
  | information
  | plain
  | success
  | warning
  | error
  deriving DecidableEq, Repr

namespace Tone

/-- The stream that messages of a tone go to. -/
def stream : Tone → Stream
  | error => .error
  | _ => .output

/-- What stands before the text. -/
def mark : Tone → String
  | information => ""
  | plain => ""
  | success => "[✔] "
  | warning => "[!] "
  | error => "[✗] "

/-- The color of the tone, if it has one. -/
def color? : Tone → Option Color
  | information => some .default
  | plain => none
  | success => some .green
  | warning => some .yellow
  | error => some .red

end Tone

/-- A message to the person who runs the generator. -/
structure Message where
  tone : Tone
  text : String
  deriving DecidableEq, Repr

namespace Message

/-- What is printed for a message, on a stream that shows colors or on one that does not. -/
def render (m : Message) (colored : Bool) : String :=
  let line := m.tone.mark ++ m.text
  match m.tone.color?, colored with
  | some color, true => paint color line ++ "\n"
  | _, _ => line ++ "\n"

/-- What a message prints on a stream. -/
def on (m : Message) (stream : Stream) (colored : Bool) : String :=
  if m.tone.stream = stream then m.render colored else ""

/-- Information that is not painted is a line of its own. -/
theorem on_information (text : String) :
    (Message.mk .information text).on .output false = text ++ "\n" := by
  show "" ++ text ++ "\n" = text ++ "\n"
  rw [String.empty_append]

/-- A plain message is a line of its own, with colors or without. -/
theorem on_plain (text : String) (colored : Bool) :
    (Message.mk .plain text).on .output colored = text ++ "\n" := by
  show "" ++ text ++ "\n" = text ++ "\n"
  rw [String.empty_append]

end Message

/-- What messages print on a stream, in order. -/
def printed (stream : Stream) (colored : Bool) (messages : List Message) : String :=
  String.join (messages.map fun m => m.on stream colored)

/-- No messages print nothing. -/
@[simp] theorem printed_nil (stream : Stream) (colored : Bool) : printed stream colored [] = "" :=
  String.join_nil

/-- The first message is printed first. -/
@[simp] theorem printed_cons (stream : Stream) (colored : Bool) (m : Message)
    (messages : List Message) :
    printed stream colored (m :: messages) = m.on stream colored ++ printed stream colored messages :=
  String.join_cons

/-- Messages are printed one after the other. -/
@[simp] theorem printed_append (stream : Stream) (colored : Bool) (ms ms' : List Message) :
    printed stream colored (ms ++ ms') =
      printed stream colored ms ++ printed stream colored ms' := by
  rw [printed, List.map_append, String.join_append]
  rfl

end Status
end DockerMatrix
