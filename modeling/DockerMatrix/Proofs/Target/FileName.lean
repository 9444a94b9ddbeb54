/-
# The names of Dockerfiles

There are few targets, so what holds of each registered one holds of every target
(`Target.forall_of_registered`).  Each Dockerfile has a name of its own (`Target.fileName_injective`),
and it names an entry of a directory: it has no slash in it, and it is none of the names that lead to
the directory itself or to its parent (`Target.isEntryName`).
-/

import DockerMatrix.Proofs.FileTree.Join
import DockerMatrix.Proofs.Text.Utf8
import DockerMatrix.Target

namespace DockerMatrix

/-- A target is among those of its operating system and hardware. -/
theorem Target.mem_targets (t : Target) : t ∈ t.os.targets t.hardware :=
  List.mem_map.2 ⟨⟨t.version, t.registered⟩, List.mem_attach _ _, rfl⟩

/-- **What holds of the registered targets holds of every target.** -/
theorem Target.forall_of_registered {p : Target → Prop}
    (h : ∀ os ∈ OperatingSystem.all, ∀ hardware ∈ Hardware.all, ∀ t ∈ os.targets hardware, p t)
    (t : Target) : p t :=
  h t.os (by cases t.os <;> decide) t.hardware (by cases t.hardware <;> decide) t t.mem_targets

/-- **Every Dockerfile has a name of its own.** -/
theorem Target.fileName_injective : Function.Injective Target.fileName := by
  have hall : ∀ os ∈ OperatingSystem.all, ∀ hardware ∈ Hardware.all, ∀ t ∈ os.targets hardware,
      ∀ os' ∈ OperatingSystem.all, ∀ hardware' ∈ Hardware.all, ∀ t' ∈ os'.targets hardware',
        t.fileName = t'.fileName → t = t' := by decide +kernel
  exact fun t t' => forall_of_registered (forall_of_registered hall t) t'

/-- The name that a Dockerfile has in its directory. -/
def Target.entryName (t : Target) : Name :=
  Text.encode t.fileName

/-- **A Dockerfile's name is that of an entry.** -/
theorem Target.isEntryName (t : Target) : Path.IsEntryName t.entryName := by
  have hall : ∀ os ∈ OperatingSystem.all, ∀ hardware ∈ Hardware.all, ∀ t ∈ os.targets hardware,
      t.entryName ≠ [] ∧ t.entryName ≠ Path.dot ∧ t.entryName ≠ Path.dotDot ∧
        Path.slash ∉ t.entryName := by decide +kernel
  obtain ⟨hnil, hdot, hdotDot, hslash⟩ := forall_of_registered hall t
  exact ⟨hnil, hdot, hdotDot, hslash⟩

/-- A file system takes a Dockerfile's name. -/
theorem Target.entryName_fits (t : Target) :
    t.entryName.length ≤ FileTree.nameLimit ∧ 0 ∉ t.entryName := by
  have hall : ∀ os ∈ OperatingSystem.all, ∀ hardware ∈ Hardware.all, ∀ t ∈ os.targets hardware,
      t.entryName.length ≤ FileTree.nameLimit ∧ 0 ∉ t.entryName := by decide +kernel
  exact forall_of_registered hall t

/-- Targets are stored under different names, byte for byte. -/
theorem Target.entryName_injective : Function.Injective Target.entryName := fun _ _ h =>
  Target.fileName_injective (Text.encode_injective h)

end DockerMatrix
