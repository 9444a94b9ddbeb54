/-
# Operating systems, hardware and targets

The build matrix: operating systems with the versions registered for them, hardware, and targets,
which are a registered version of an operating system on one hardware.

| target on | Dockerfile | script |
| --- | --- | --- |
| `cpu` | `Dockerfile.OS.VERSION.cpu` | `OS_build_test_cpu.sh` |
| `gpu` | `Dockerfile.OS.VERSION` | `OS_build_test.sh` |
-/

import DockerMatrix.Text.Quoted

namespace DockerMatrix

/-- An operating system that Dockerfiles can be asked for. -/
inductive OperatingSystem
  | windows
  | macos
  | ubuntu
  deriving DecidableEq, Repr

namespace OperatingSystem

/-- Every operating system, in the order in which they are offered. -/
def all : List OperatingSystem := [windows, macos, ubuntu]

/-- The name in image references, file names and script names. -/
def name : OperatingSystem → String
  | windows => "windows"
  | macos => "macos"
  | ubuntu => "ubuntu"

/-- The registered versions, in the order in which they are generated. -/
def versions : OperatingSystem → List String
  | windows => []
  | macos => []
  | ubuntu => ["18.04", "20.04"]

end OperatingSystem

/-- The hardware that an image is built for. -/
inductive Hardware
  | cpu
  | gpu
  deriving DecidableEq, Repr

namespace Hardware

/-- Every hardware, in the order in which they are offered. -/
def all : List Hardware := [cpu, gpu]

/-- The name on the command line and in messages. -/
def name : Hardware → String
  | cpu => "cpu"
  | gpu => "gpu"

end Hardware

/-- Whether two names are one, the case of ASCII letters aside if asked so. -/
def sameName (ignoreCase : Bool) (a b : String) : Bool :=
  if ignoreCase then a.toList.map Char.toLower == b.toList.map Char.toLower else a == b

/-- The operating system of a name. -/
def OperatingSystem.ofName? (ignoreCase : Bool) (name : String) : Option OperatingSystem :=
  all.find? fun os => sameName ignoreCase os.name name

/-- The hardware of a name. -/
def Hardware.ofName? (ignoreCase : Bool) (name : String) : Option Hardware :=
  all.find? fun hardware => sameName ignoreCase hardware.name name

/-- A version that is not registered for an operating system. -/
structure UnregisteredVersion where
  os : OperatingSystem
  version : String
  deriving DecidableEq, Repr

/-- The refusal: the version between quotes, then the versions that there are. -/
def UnregisteredVersion.message (e : UnregisteredVersion) : String :=
  "version " ++ Text.quote e.version ++ " is not registered for " ++ e.os.name ++
    if e.os.versions.isEmpty then " (no versions are registered)"
    else " (expected one of " ++ ", ".intercalate e.os.versions ++ ")"

/-- An entry of the build matrix. -/
structure Target where
  os : OperatingSystem
  version : String
  hardware : Hardware
  registered : version ∈ os.versions
  deriving DecidableEq

namespace Target

/-- The target for a version, which has to be registered, letter for letter. -/
def register (os : OperatingSystem) (version : String) (hardware : Hardware) :
    Except UnregisteredVersion Target :=
  if h : version ∈ os.versions then .ok ⟨os, version, hardware, h⟩ else .error ⟨os, version⟩

/-- How messages name a target. -/
def display (t : Target) : String :=
  t.os.name ++ ":" ++ t.version ++ " (" ++ t.hardware.name ++ ")"

/-- The name of the file that the Dockerfile is stored under. -/
def fileName (t : Target) : String :=
  "Dockerfile." ++ t.os.name ++ "." ++ t.version ++
    match t.hardware with
    | .cpu => ".cpu"
    | .gpu => ""

/-- The name of the build and test script that is copied into the image. -/
def script (t : Target) : String :=
  t.os.name ++
    match t.hardware with
    | .cpu => "_build_test_cpu.sh"
    | .gpu => "_build_test.sh"

end Target

/-- Every target of an operating system on one hardware, in the order of the versions. -/
def OperatingSystem.targets (os : OperatingSystem) (hardware : Hardware) : List Target :=
  os.versions.attach.map fun v => ⟨os, v.1, hardware, v.2⟩

end DockerMatrix
