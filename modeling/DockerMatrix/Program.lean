/-
# The program

The program is started in a working directory, with an environment and arguments. It goes through
four stages, and the first one that cannot go on ends it.

| stage | if it cannot go on | exit |
| --- | --- | ---: |
| the environment file is read | the file cannot be used | 1 |
| | a value in it has a NUL character | signal 6 |
| the command line is read | help or version asked for | 0 |
| | a usage error | 2 |
| the log filter is read | an offset in it lies inside a character | signal 6 |
| the request is carried out | a failure | 1 |
| | success | 0 |

Where the last stage fails inside a span that the log filter shows, the error report names the span.
Of an error report these are its messages and its span trace.  Its colors, the positions in the source
and the hint how to see more are left out: they are the same under every log filter.  Variables such as
`RUST_BACKTRACE` and `RUST_SPANTRACE`, which change what reports show, are taken to be unset.
-/

import DockerMatrix.Environment.File
import DockerMatrix.Generation.Run
import DockerMatrix.Log.Filter
import DockerMatrix.Status.Support

namespace DockerMatrix

open Text (Bytes)

/-- Where the program is started: the files, the working directory, and the directory that holds
the program itself. -/
structure World where
  tree : FileTree
  workingDirectory : Location
  programDirectory : Path
  deriving DecidableEq, Repr

namespace Program

/-- How a process ends: with an exit status, or by a signal. -/
inductive Exit
  | status (n : Nat)
  | signal (n : Nat)
  deriving DecidableEq, Repr

namespace Exit

/-- The end of a process that aborts itself. -/
def aborted : Exit := .signal 6

/-- The number that a shell shows for it. -/
def code : Exit → Nat
  | status n => n
  | signal n => 128 + n

end Exit

/-- How a run of the program ends. -/
inductive Ending
  /-- The environment file cannot be used. -/
  | environmentFile (e : Environment.FileError)
  /-- Reading the command line stops, with a text about it. -/
  | stopped (s : Arguments.Stop) (text : String)
  /-- The program is given up over a panic, after remarks about the log filter if it has come to
  that. -/
  | abandoned (remarks : List Log.Remark) (panic : Panic)
  /-- The request is carried out, under a log filter, with colored messages or without. -/
  | carriedOut (remarks : List Log.Remark) (filter : Log.Filter) (colored : Bool)
      (o : Generation.Outcome)
  deriving DecidableEq

/-- Carries out what the command line asks for, in an environment that is complete. -/
def carryOut (w : World) (env : Environment) (a : Arguments) : Ending :=
  let reading := Log.Filter.read a.logFilter
  match reading.filter with
  | .error panic => .abandoned reading.remarks panic
  | .ok filter =>
    .carriedOut reading.remarks filter env.showsColor
      (Generation.run w.workingDirectory w.tree (Request.ofArguments w.programDirectory a))

/-- Runs the program in a world. -/
def run (w : World) (env : Environment) (arguments : List Bytes) : Ending :=
  match env.inDirectory w.tree w.workingDirectory with
  | .error (.nulCharacter a) => .abandoned [] a.panic
  | .error e => .environmentFile e
  | .ok env =>
    match Arguments.read (w.tree.kindOf w.workingDirectory) env arguments with
    | .error s => .stopped s (s.printedText env env.showsStyles)
    | .ok a => carryOut w env a

/-- The message that a run has failed. -/
def failed : Status.Message :=
  ⟨.error, "Dockerfile generation failed."⟩

namespace Ending

/-- How the process ends. -/
def exit : Ending → Exit
  | environmentFile _ => .status 1
  | stopped s _ => .status s.exitCode
  | abandoned _ _ => .aborted
  | carriedOut _ _ _ o => .status (if o.failure.isSome then 1 else 0)

/-- The file tree afterwards, given the one before. -/
def tree (before : FileTree) : Ending → FileTree
  | carriedOut _ _ _ o => o.tree
  | _ => before

/-- The text about a stop, if that is what ends the program and it goes to a stream. -/
def stopText (stream : Status.Stream) : Ending → String
  | stopped s text => if s.stream = stream then text else ""
  | _ => ""

/-- The messages to the person who runs the program. -/
def messages : Ending → List Status.Message
  | carriedOut _ _ _ o => o.messages ++ if o.failure.isSome then [failed] else []
  | _ => []

/-- Whether messages are colored. -/
def isColored : Ending → Bool
  | carriedOut _ _ colored _ => colored
  | _ => false

/-- What the program prints on standard output. -/
def output (e : Ending) : String :=
  e.stopText .output ++ Status.printed .output e.isColored e.messages

/-- The remarks about the log filter. -/
def remarks : Ending → List Log.Remark
  | abandoned remarks _ => remarks
  | carriedOut remarks _ _ _ => remarks
  | _ => []

/-- The events that are shown. -/
def events : Ending → List Log.Event
  | carriedOut _ filter _ o => o.events.filter filter.passes
  | _ => []

/-- The lines of the events that are shown. -/
def logLines : Ending → List String
  | carriedOut _ filter _ o => (o.events.filter filter.passes).map filter.line
  | _ => []

/-- The messages of the error report at the end, the outermost first. -/
def chain : Ending → List String
  | environmentFile e => "invalid .env file" :: e.chain
  | carriedOut _ _ _ o => (o.failure.map Generation.Failure.chain).getD []
  | _ => []

/-- The span that the error report names: the one in which the failure comes up, if the filter shows
it. -/
def tracedSpan : Ending → Option Log.Span
  | carriedOut _ filter _ o => (o.failure.bind Generation.Failure.span?).filter filter.shows
  | _ => none

/-- The head of the span trace in an error report. -/
def traceHead : String :=
  "  " ++ String.ofList (List.replicate 34 '━') ++ " SPANTRACE " ++
    String.ofList (List.replicate 35 '━')

/-- The span trace at the end of the error report. -/
def spanTrace (e : Ending) : String :=
  match e.tracedSpan with
  | none => ""
  | some span => "\n" ++ traceHead ++ "\n\n" ++ "   0: " ++ span.entry ++ "\n"

/-- The messages of the error report with their numbers. -/
def chainReport (e : Ending) : String :=
  if e.chain.isEmpty then ""
  else
    let entry := fun (p : String × Nat) => "   " ++ toString p.2 ++ ": " ++ p.1 ++ "\n"
    "Error: \n" ++ String.join (e.chain.zipIdx.map entry)

/-- The report at the end: that of an error, or what is printed about a panic. -/
def report (e : Ending) : String :=
  match e with
  | abandoned _ panic => panic.text
  | _ => e.chainReport ++ e.spanTrace

/-- What the program prints on standard error. -/
def errorOutput (e : Ending) : String :=
  let stop := if (e.stopText .error).isEmpty then [] else [e.stopText .error]
  let lines := stop ++ e.remarks.map Log.Remark.message ++ e.logLines
  String.join (lines.map (· ++ "\n")) ++ Status.printed .error e.isColored e.messages ++ e.report

end Ending
end Program
end DockerMatrix
