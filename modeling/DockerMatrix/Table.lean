/-
# Tables

A table holds a value for each of finitely many keys, in the order in which the keys were first put
into it. `get?` is the view of a table: putting a value changes it at one key and nowhere else, and
putting a value that is there changes nothing at all, the order included.
-/

namespace DockerMatrix

/-- Keys with their values. -/
abbrev Table (κ α : Type) := List (κ × α)

namespace Table

variable {κ α : Type} [DecidableEq κ]

/-- The value of a key. -/
def get? (key : κ) : Table κ α → Option α
  | [] => none
  | old :: rest => if old.1 = key then some old.2 else get? key rest

/-- Puts a value in the place of the one that the key has, or behind all others. -/
def put (key : κ) (value : α) : Table κ α → Table κ α
  | [] => [(key, value)]
  | old :: rest => if old.1 = key then (key, value) :: rest else old :: put key value rest

/-- **A value that is put is there, and nothing else changes.** -/
theorem get?_put (key key' : κ) (value : α) (t : Table κ α) :
    get? key' (put key value t) = if key = key' then some value else get? key' t := by
  induction t with
  | nil => rfl
  | cons old rest ih => by_cases h : old.1 = key <;> grind [put, get?]

/-- A value of a key stands in the table. -/
theorem mem_of_get? {key : κ} {value : α} {t : Table κ α} (h : get? key t = some value) :
    (key, value) ∈ t := by
  induction t with
  | nil => simp [get?] at h
  | cons old rest ih =>
    by_cases h₀ : old.1 = key
    · have hv : old.2 = value := by simpa [get?, h₀] using h
      simp [← h₀, ← hv]
    · exact List.mem_cons_of_mem _ (ih (by simpa [get?, h₀] using h))

/-- **Putting a value that is there changes nothing.** -/
theorem put_of_get? {key : κ} {value : α} {t : Table κ α} (h : get? key t = some value) :
    put key value t = t := by
  induction t with
  | nil => simp [get?] at h
  | cons old rest ih =>
    by_cases h₀ : old.1 = key
    · have hv : old.2 = value := by simpa [get?, h₀] using h
      simp [put, ← hv, ← h₀]
    · simp [put, h₀, ih (by simpa [get?, h₀] using h)]

end Table
end DockerMatrix
