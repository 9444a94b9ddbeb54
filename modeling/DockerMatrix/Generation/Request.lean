/-
# Requests

A request names an operating system, a hardware, a version or none, and a directory. Without a
version it is for every target of the operating system on the hardware. A dry request prints the
Dockerfiles in place of storing them.
-/

import DockerMatrix.Arguments.Read
import DockerMatrix.Dockerfile.Recipe
import DockerMatrix.FileTree.Write

namespace DockerMatrix

/-- What is to be generated, and where it is to be stored. -/
structure Request where
  os : OperatingSystem
  hardware : Hardware
  version : Option String
  directory : Path
  dryRun : Bool
  deriving DecidableEq, Repr

namespace Request

/-- The request on a command line, with the directory that counts where none is given. -/
def ofArguments (standardDirectory : Path) (a : Arguments) : Request where
  os := a.os
  hardware := a.hardware
  version := a.osVersion
  directory := a.outputDirectory.getD standardDirectory
  dryRun := a.dryRun

/-- The targets that a request is for, in order. -/
def targets (r : Request) : Except UnregisteredVersion (List Target) :=
  match r.version with
  | none => .ok (r.os.targets r.hardware)
  | some version => (Target.register r.os version r.hardware).map fun t => [t]

end Request

/-- Where an artifact is stored in a directory. -/
def Artifact.destination (a : Artifact) (directory : Path) : Path :=
  Path.join directory (Text.encode a.fileName)

/-- Stores an artifact in a directory. -/
def Artifact.store (a : Artifact) (t : FileTree) (here : Location) (directory : Path) :
    Except StorageError FileTree :=
  t.write here (a.destination directory) a.bytes

end DockerMatrix
