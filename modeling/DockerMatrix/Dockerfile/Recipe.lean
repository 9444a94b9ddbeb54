/-
# From a target to its Dockerfile

A recipe fixes the parameters of the blocks and their order; its text is the blocks in that order,
one directly after the other. Every target has a recipe, and with it an artifact: the Dockerfile
and the name that it is stored under.

| hardware | blocks |
| --- | --- |
| `cpu` | base, maintainer, packages, cmake, llvm, user, conda, scripts |
| `gpu` | base, capabilities, maintainer, packages, cmake, llvm, vulkan, user, conda, scripts |
-/

import DockerMatrix.Dockerfile.Block
import DockerMatrix.Target
import DockerMatrix.Text.Utf8

namespace DockerMatrix

/-- What a Dockerfile is made from. -/
structure Recipe where
  os : String
  version : String
  hardware : Hardware
  script : String
  extraPackages : List String
  deriving DecidableEq, Repr

namespace Recipe

open Dockerfile

/-- The package list of a recipe. -/
def install (r : Recipe) : String :=
  match r.hardware with
  | .cpu => Block.patch Block.cpuInstall r.extraPackages
  | .gpu => Block.patch Block.gpuInstall r.extraPackages

/-- The blocks of a recipe, in order. -/
def blocks (r : Recipe) : List String :=
  match r.hardware with
  | .cpu =>
    [Block.cpuBase r.os r.version, Block.maintainer, r.install, Block.cmake, Block.llvm,
     Block.user, Block.conda, Block.scripts r.script]
  | .gpu =>
    [Block.gpuBase r.version, Block.driverCapabilities, Block.maintainer, r.install, Block.cmake,
     Block.llvm, Block.vulkan, Block.user, Block.conda, Block.scripts r.script]

/-- The Dockerfile of a recipe. -/
def text (r : Recipe) : String :=
  String.join r.blocks

end Recipe

namespace Target

/-- The packages that single versions need beyond the common list. -/
def extraPackages (t : Target) : List String :=
  match t.os, t.hardware with
  | .ubuntu, .cpu => if t.version = "18.04" then ["zlib1g-dev"] else []
  | .ubuntu, .gpu =>
    if t.version = "20.04" then ["vulkan-tools", "vulkan-validationlayers-dev"] else []
  | _, _ => []

/-- The recipe of a target. -/
def recipe (t : Target) : Recipe where
  os := t.os.name
  version := t.version
  hardware := t.hardware
  script := t.script
  extraPackages := t.extraPackages

/-- The Dockerfile of a target. -/
def dockerfile (t : Target) : String :=
  t.recipe.text

end Target

/-- A Dockerfile, the name that it is stored under, and the target that it is for. -/
structure Artifact where
  target : Target
  fileName : String
  contents : String
  deriving DecidableEq

/-- The artifact of a target. -/
def Target.artifact (t : Target) : Artifact :=
  ⟨t, t.fileName, t.dockerfile⟩

/-- The bytes that are stored for an artifact. -/
def Artifact.bytes (a : Artifact) : Text.Bytes :=
  Text.encode a.contents

end DockerMatrix
