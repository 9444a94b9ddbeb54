import DockerMatrix.Main
import DockerMatrix.Proofs.Arguments.Accepted
import DockerMatrix.Proofs.Generation.Result
import DockerMatrix.Proofs.Program.Ending
import DockerMatrix.Proofs.Generation.Rehearsal
import DockerMatrix.Proofs.Generation.Sequence
import DockerMatrix.Proofs.Generation.Footprint
import DockerMatrix.Proofs.Program.History
import DockerMatrix.Proofs.Environment.Variable
import DockerMatrix.Proofs.FileTree.Shape
import DockerMatrix.Proofs.Environment.Reference
import DockerMatrix.Proofs.Generation.Contents
import DockerMatrix.Proofs.Program.Directory
import DockerMatrix.Proofs.FileTree.Placing
import DockerMatrix.Proofs.Generation.Effect
import DockerMatrix.Proofs.Generation.Order
import DockerMatrix.Proofs.Arguments.Fallback
import DockerMatrix.Proofs.Environment.Values
import DockerMatrix.Proofs.Program.Agreement
import DockerMatrix.Proofs.Program.Exported
import DockerMatrix.Proofs.Generation.AcceptedDirectory
import DockerMatrix.Proofs.Program.Trail
import DockerMatrix.Proofs.Program.Colors
import DockerMatrix.Proofs.Program.Diagnostics
import DockerMatrix.Proofs.Target.Refusal
import DockerMatrix.Proofs.Generation.AllOrNothing
import DockerMatrix.Proofs.Generation.Selection
import DockerMatrix.Proofs.Dockerfile.Joined
import DockerMatrix.Proofs.Program.NamedDirectory
