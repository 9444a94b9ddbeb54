/-
# The events of a run

What a run notes about itself.

| event | level | source | in the span |
| --- | --- | --- | --- |
| `starting generation` | info | `dockergen` | |
| `composed dockerfile` | debug | `dockergen::composer` | `generate`, with the target |
| `stored dockerfile` | debug | `dockergen::output` | `write`, with the file name |
-/

import DockerMatrix.Generation.Request
import DockerMatrix.Log.Event

namespace DockerMatrix

open Log (Event Field Span)

/-- A run begins. -/
def Request.started (r : Request) : Event where
  source := "dockergen"
  level := .info
  message := "starting generation"
  fields :=
    [⟨"os", r.os.name⟩, ⟨"hardware", r.hardware.name⟩, ⟨"directory", Path.display r.directory⟩,
     ⟨"dry_run", if r.dryRun then "true" else "false"⟩]
  span := none

namespace Artifact

/-- The number of bytes of an artifact, as a field. -/
def sizeField (a : Artifact) : Field :=
  ⟨"bytes", toString a.bytes.length⟩

/-- An artifact is there. -/
def composed (a : Artifact) : Event where
  source := "dockergen::composer"
  level := .debug
  message := "composed dockerfile"
  fields := [a.sizeField]
  span := some ⟨"dockergen::composer", .info, "generate", [⟨"target", a.target.display⟩]⟩

/-- The span in which an artifact is stored. -/
def writing (a : Artifact) : Span :=
  ⟨"dockergen::output", .info, "write", [⟨"filename", a.fileName⟩]⟩

/-- An artifact is stored in a directory. -/
def stored (a : Artifact) (directory : Path) : Event where
  source := "dockergen::output"
  level := .debug
  message := "stored dockerfile"
  fields := [⟨"path", Path.display (a.destination directory)⟩, a.sizeField]
  span := some a.writing

end Artifact
end DockerMatrix
