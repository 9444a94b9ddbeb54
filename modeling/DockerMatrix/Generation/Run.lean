/-
# How a run ends

The steps of a plan are carried out in order on a file tree. A step that stores can fail, and a
refusal always does; a failure ends the run where it is, and what has been stored stays. The outcome
keeps the messages and the events in the order in which they came up.
-/

import DockerMatrix.Generation.Plan

namespace DockerMatrix
namespace Generation

open Log (Event)
open Status (Message)

/-- Why a run fails. -/
inductive Failure
  | unregistered (e : UnregisteredVersion)
  | storage (target : Target) (e : StorageError)
  deriving DecidableEq

/-- The messages about a failure, the outermost first. -/
def Failure.chain : Failure → List String
  | unregistered e => [e.message]
  | storage target e => ("failed to store dockerfile for " ++ target.display) :: e.chain

/-- The span in which a failure comes up, if it does in one. -/
def Failure.span? : Failure → Option Log.Span
  | unregistered _ => none
  | storage target _ => some target.artifact.writing

/-- The file tree after a run, what the run said and noted, and why it failed if it did. -/
structure Outcome where
  tree : FileTree
  messages : List Message
  events : List Event
  failure : Option Failure
  deriving DecidableEq

namespace Outcome

/-- An outcome that a message comes before. -/
def saying (m : Message) (o : Outcome) : Outcome :=
  { o with messages := m :: o.messages }

/-- An outcome that an event comes before. -/
def noting (e : Event) (o : Outcome) : Outcome :=
  { o with events := e :: o.events }

/-- What a run prints on a stream. -/
def printed (o : Outcome) (stream : Status.Stream) (colored : Bool) : String :=
  Status.printed stream colored o.messages

end Outcome

/-- Carries out steps in a working directory. -/
def execute (here : Location) (tree : FileTree) : List Step → Outcome
  | [] => ⟨tree, [], [], none⟩
  | .say m :: rest => (execute here tree rest).saying m
  | .note e :: rest => (execute here tree rest).noting e
  | .store a directory :: rest =>
    match a.store tree here directory with
    | .ok tree' => (execute here tree' rest).noting (a.stored directory)
    | .error e => ⟨tree, [], [], some (.storage a.target e)⟩
  | .refuse e :: _ => ⟨tree, [], [], some (.unregistered e)⟩

/-- Carries out a request in a working directory. -/
def run (here : Location) (tree : FileTree) (r : Request) : Outcome :=
  execute here tree (plan r)

end Generation
end DockerMatrix
