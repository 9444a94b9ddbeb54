/-
# What a run does

A request is carried out by a plan: a list of steps that depends on the request alone.

| request | steps |
| --- | --- |
| any | the event and the message that it starts |
| a version that is not registered | a refusal, which ends the run |
| no targets | a warning |
| for each target | its version, the event that it is composed, then the steps below |
| … dry | the path, the Dockerfile |
| … not dry | the path, and storing it there |
| any | the message that it is complete |
-/

import DockerMatrix.Generation.Trace
import DockerMatrix.Status.Message

namespace DockerMatrix
namespace Generation

open Log (Event)
open Status (Message)

/-- A step of a run. -/
inductive Step
  | say (m : Message)
  | note (e : Event)
  | store (a : Artifact) (directory : Path)
  | refuse (e : UnregisteredVersion)
  deriving DecidableEq

/-- The message that a run starts. -/
def banner (hardware : Hardware) : Message :=
  ⟨.information,
    match hardware with
    | .cpu => "Generating Dockerfile(s) for CPU."
    | .gpu => "Generating Dockerfile(s) for GPU."⟩

/-- The warning that there is nothing to do. -/
def nothingRegistered (os : OperatingSystem) : Message :=
  ⟨.warning, "No versions are registered for " ++ os.name ++ ", nothing to generate."⟩

/-- The message that a target's turn has come. -/
def turn (t : Target) : Message :=
  ⟨.information, "OS: " ++ t.os.name ++ ", version: " ++ t.version⟩

/-- The message that an artifact is going to be stored. -/
def storingAt (a : Artifact) (directory : Path) : Message :=
  ⟨.information, "Storing at: " ++ Path.display (a.destination directory)⟩

/-- The message that an artifact would be stored. -/
def wouldStoreAt (a : Artifact) (directory : Path) : Message :=
  ⟨.information, "Would store at: " ++ Path.display (a.destination directory)⟩

/-- The message that a run is complete. -/
def complete : Message :=
  ⟨.success, "Dockerfile generation is complete."⟩

/-- The steps for a target. -/
def targetSteps (r : Request) (t : Target) : List Step :=
  let a := t.artifact
  [.say (turn t), .note a.composed] ++
    if r.dryRun then [.say (wouldStoreAt a r.directory), .say ⟨.plain, a.contents⟩]
    else [.say (storingAt a r.directory), .store a r.directory]

/-- The steps for targets, the warning if there are none, and the end. -/
def targetsSteps (r : Request) (targets : List Target) : List Step :=
  (if targets.isEmpty then [.say (nothingRegistered r.os)] else []) ++
    targets.flatMap (targetSteps r) ++ [.say complete]

/-- The steps of a request. -/
def plan (r : Request) : List Step :=
  [.note r.started, .say (banner r.hardware)] ++
    match r.targets with
    | .error e => [.refuse e]
    | .ok targets => targetsSteps r targets

end Generation
end DockerMatrix
