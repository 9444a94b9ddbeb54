/-
# What the lines of an environment file refer to

A line of an environment file names the variable that it assigns to, and in the value, behind `$`, the
variables whose texts go into it.  Which names those are does not depend on the environment
(`referredFrom`), and on nothing else in the environment does the line depend (`assignment?_congr`).

Two files may differ in their assignments to one variable while no other line of either refers to it
(`SameLinesBut`).  Then they make the same assignments to all other variables
(`SameLinesBut.filter_eq`).
-/

import DockerMatrix.Proofs.Environment.NulValue
import DockerMatrix.Proofs.Environment.Variable

namespace DockerMatrix
namespace Environment

variable {env env' : Environment} {name key : String} {line cs : List Char}
  {lines lines' : List (Except FileError (List Char))} {found found' : List Assignment}

/-! ## Names in a value -/

/-- The names that the value from a character on refers to, given what the character is part of and
whether weak quotes are open. -/
def referredFrom : Part → Bool → List Char → List String
  | part, weak, [] =>
    match part, weak with
    | .name read, false => [String.ofList read.reverse]
    | _, _ => []
  | .behind, weak, c :: rest => if c = ' ' ∨ c = '\t' then referredFrom .behind weak rest else []
  | .escape, weak, _ :: rest => referredFrom .plain weak rest
  | .strong, weak, c :: rest =>
    if c = '\'' then referredFrom .plain weak rest else referredFrom .strong weak rest
  | .name read, weak, c :: rest =>
    if Text.isAlphanumeric c then referredFrom (.name (c :: read)) weak rest
    else if c = '\x7b' ∧ read = [] then referredFrom (.braces []) weak rest
    else if c = '$' then String.ofList read.reverse :: referredFrom (.name []) weak rest
    else String.ofList read.reverse :: referredFrom .plain weak rest
  | .braces read, weak, c :: rest =>
    if c = '\x7d' then String.ofList read.reverse :: referredFrom .plain weak rest
    else referredFrom (.braces (c :: read)) weak rest
  | .plain, weak, c :: rest =>
    if c = '$' then referredFrom (.name []) weak rest
    else if c = '\\' then referredFrom .escape weak rest
    else if c = '"' then referredFrom .plain (!weak) rest
    else if weak then referredFrom .plain weak rest
    else if c = '\'' then referredFrom .strong weak rest
    else if c = ' ' ∨ c = '\t' then referredFrom .behind weak rest
    else referredFrom .plain weak rest

/-- **A value depends on what is found under the names that it refers to**, and on nothing else. -/
theorem valueFrom_congr {broken : Nat → FileError} {unclosed : FileError} {part : Part} {weak : Bool}
    {i : Nat} (h : ∀ key ∈ referredFrom part weak cs, env.entry? key = env'.entry? key) :
    env.valueFrom broken unclosed part weak i cs = env'.valueFrom broken unclosed part weak i cs := by
  fun_induction valueFrom env broken unclosed part weak i cs
  -- The character that ends a name stands for itself behind the text of the name.
  case case16 hletter hbrace hdollar ih =>
    rw [referredFrom, if_neg hletter, if_neg hbrace, if_neg hdollar, List.forall_mem_cons] at h
    rw [valueFrom, if_neg hletter, if_neg hbrace, if_neg hdollar, ih h.2, substitute, substitute, h.1]
  all_goals simp_all [valueFrom, referredFrom, substitute]

/-- The names that a value refers to. -/
def referred (cs : List Char) : List String :=
  if cs.isEmpty ∨ cs.head? = some '#' then [] else referredFrom .plain false cs

/-- A value is the same in environments where it refers to the same texts. -/
theorem value_congr (h : ∀ key ∈ referred cs, env.entry? key = env'.entry? key) :
    env.value cs = env'.value cs := by
  unfold value
  dsimp only
  split_ifs with hc
  · rfl
  · rw [referred, if_neg hc] at h
    rw [valueFrom_congr h]

/-! ## Lines -/

/-- The name that a line assigns to and the characters of the value, if it assigns. -/
def parts (line : List Char) : Except FileError (Option (String × List Char)) :=
  let body := Text.trimEnd line
  let start := Text.trimStart body
  let broken (rest : List Char) : FileError :=
    .line (String.ofList line) (Text.byteSize body - Text.byteSize rest)
  if start.isEmpty ∨ start.head? = some '#' then .ok none
  else match name? start with
    | none => .error (broken start)
    | some (name, '=' :: rest) => .ok (some (name, Text.trimStart rest))
    | some ("export", rest) =>
      match name? rest with
      | none => .error (broken rest)
      | some (name, '=' :: rest) => .ok (some (name, Text.trimStart rest))
      | some (_, rest) => .error (broken rest)
    | some (_, rest) => .error (broken rest)

/-- **A line is taken apart before it is read in an environment.** -/
theorem assignment?_eq (env : Environment) (line : List Char) :
    env.assignment? line = match parts line with
      | .error e => .error e
      | .ok none => .ok none
      | .ok (some (name, cs)) => (env.value cs).map fun value => some ⟨name, value⟩ := by
  unfold parts assignment?
  dsimp only
  split_ifs with hempty
  · rfl
  split
  case h_3 => split <;> simp_all
  all_goals simp_all

/-- A line assigns to a variable. -/
def Assigns (name : String) (line : List Char) : Prop :=
  ∃ cs, parts line = .ok (some (name, cs))

/-- A line refers to a variable: what goes into the value that it assigns may be found in the
variable's entry. -/
def RefersTo (name : String) (line : List Char) : Prop :=
  ∃ assigned cs key, parts line = .ok (some (assigned, cs)) ∧ key ∈ referred cs ∧ Reaches key name

/-- A line does not refer to a variable that no reference in its value reaches. -/
theorem not_refersTo_of_parts {assigned : String} (hp : parts line = .ok (some (assigned, cs)))
    (h : ∀ key ∈ referred cs, ¬Reaches key name) : ¬RefersTo name line := by
  rintro ⟨assigned', cs', key, hp', hk, hreaches⟩
  rw [hp] at hp'
  cases hp'
  exact h key hk hreaches

/-- **A line depends on the variables that it refers to**, and on no other. -/
theorem SameBut.assignment?_eq (h : SameBut name env env') (hr : ¬RefersTo name line) :
    env.assignment? line = env'.assignment? line := by
  rw [Environment.assignment?_eq, Environment.assignment?_eq]
  cases hp : parts line with
  | error e => rfl
  | ok assigned =>
    cases assigned with
    | none => rfl
    | some p =>
      obtain ⟨assigned, cs⟩ := p
      have hvalue : env.value cs = env'.value cs :=
        value_congr fun key hk => h.entry?_eq fun hreach => hr ⟨assigned, cs, key, hp, hk, hreach⟩
      simp only [hvalue]

/-- A line that assigns to a variable is read as an assignment to it. -/
theorem Assigns.exists_eq_some {r : Option Assignment} (h : Assigns name line)
    (hr : env.assignment? line = .ok r) : ∃ a, r = some a ∧ a.name = name := by
  obtain ⟨cs, hp⟩ := h
  rw [assignment?_eq, hp] at hr
  dsimp only at hr
  cases hv : env.value cs with
  | error e =>
    rw [hv] at hr
    cases hr
  | ok value =>
    rw [hv] at hr
    exact ⟨⟨name, value⟩, (Except.ok.inj hr).symm, rfl⟩

/-! ## Files -/

/-- **What a line adds to the assignments**, if the file can be used. -/
theorem assignmentsIn_cons_ok_iff :
    env.assignmentsIn (.ok line :: lines) = .ok found ↔
      env.assignment? line = .ok none ∧ env.assignmentsIn lines = .ok found ∨
        ∃ a rest, env.assignment? line = .ok (some a) ∧ env.canAdopt a = true ∧
          (env.adopt a).assignmentsIn lines = .ok rest ∧ found = a :: rest := by
  rw [assignmentsIn]
  cases ha : env.assignment? line with
  | error e => simp
  | ok assigned =>
    cases assigned with
    | none => simp
    | some a =>
      simp only [Except.ok.injEq, reduceCtorEq, false_and, false_or, Option.some.injEq]
      constructor
      · intro h
        split_ifs at h with hc
        cases hrest : (env.adopt a).assignmentsIn lines with
        | error e =>
          rw [hrest] at h
          cases h
        | ok rest =>
          rw [hrest] at h
          exact ⟨a, rest, rfl, hc, hrest, (Except.ok.inj h).symm⟩
      · rintro ⟨_, rest, rfl, hc, hrest, rfl⟩
        rw [if_pos hc, hrest]
        rfl

/-- **A file that does not refer to a variable makes the same assignments whatever its value is**,
unless one of them is to give it a value with a NUL character. -/
theorem SameBut.assignmentsIn (h : SameBut name env env')
    (hr : ∀ line, .ok line ∈ lines → ¬RefersTo name line) (hf : env.assignmentsIn lines = .ok found) :
    env'.assignmentsIn lines = .ok found ∨
      ∃ a ∈ found, env'.assignmentsIn lines = .error (.nulCharacter a) ∧ a.name = name ∧
        '\x00' ∈ a.value.toList := by
  induction lines generalizing env env' found with
  | nil => exact Or.inl hf
  | cons first rest ih =>
    rcases first with e | line
    · cases hf
    have heq := h.assignment?_eq (hr line (List.mem_cons_self ..))
    have hrest := fun line' hm => hr line' (List.mem_cons_of_mem _ hm)
    rcases assignmentsIn_cons_ok_iff.1 hf with ⟨hnone, hfound⟩ | ⟨a, found, hsome, hc, hfound, rfl⟩
    · rcases ih h hrest hfound with hf' | ⟨b, hb, hf', hnul⟩
      · exact Or.inl (assignmentsIn_cons_ok_iff.2 (Or.inl ⟨heq ▸ hnone, hf'⟩))
      · refine Or.inr ⟨b, hb, ?_, hnul⟩
        rw [Environment.assignmentsIn, ← heq, hnone]
        exact hf'
    by_cases hc' : env'.canAdopt a = true
    · have hadopt : SameBut name (env.adopt a) (env'.adopt a) := by
        by_cases ha : a.name = name
        · exact ((h.adopt_self ha).symm.adopt_self ha).symm
        · exact h.adopt ha
      rcases ih hadopt hrest hfound with hf' | ⟨b, hb, hf', hnul⟩
      · exact Or.inl (assignmentsIn_cons_ok_iff.2 (Or.inr ⟨a, found, heq ▸ hsome, hc', hf', rfl⟩))
      · refine Or.inr ⟨b, List.mem_cons_of_mem _ hb, ?_, hnul⟩
        rw [Environment.assignmentsIn, ← heq, hsome]
        dsimp only
        rw [if_pos hc', hf']
        rfl
    -- The variable has a text in one environment and none in the other, so it is this one.
    · rw [Bool.not_eq_true] at hc'
      obtain ⟨hno, hnul⟩ := canAdopt_eq_false_iff.1 hc'
      have ha : a.name = name := by
        by_contra hne
        have hc₀ := canAdopt_eq_false_iff.2 ⟨(h.text?_eq hne).trans hno, hnul⟩
        rw [hc] at hc₀
        cases hc₀
      refine Or.inr ⟨a, List.mem_cons_self .., ?_, ha, hnul⟩
      rw [Environment.assignmentsIn, ← heq, hsome]
      dsimp only
      rw [hc', if_neg Bool.false_ne_true]

/-- The lines of two files differ in assignments to one variable only, wherever they stand, and the
lines that they have in common do not refer to it. -/
inductive SameLinesBut (name : String) :
    List (Except FileError (List Char)) → List (Except FileError (List Char)) → Prop
  | nil : SameLinesBut name [] []
  | same {line : List Char} {lines lines' : List (Except FileError (List Char))}
      (hr : ¬RefersTo name line) (h : SameLinesBut name lines lines') :
      SameLinesBut name (.ok line :: lines) (.ok line :: lines')
  | left {line : List Char} {lines lines' : List (Except FileError (List Char))}
      (ha : Assigns name line) (h : SameLinesBut name lines lines') :
      SameLinesBut name (.ok line :: lines) lines'
  | right {line : List Char} {lines lines' : List (Except FileError (List Char))}
      (ha : Assigns name line) (h : SameLinesBut name lines lines') :
      SameLinesBut name lines (.ok line :: lines')

/-- A line that assigns to the variable adds an assignment to it. -/
theorem Assigns.exists_cons (ha : Assigns name line)
    (h : env.assignmentsIn (.ok line :: lines) = .ok found) :
    ∃ a rest, a.name = name ∧ (env.adopt a).assignmentsIn lines = .ok rest ∧ found = a :: rest := by
  rcases assignmentsIn_cons_ok_iff.1 h with ⟨hnone, -⟩ | ⟨a, rest, hsome, -, hrest, rfl⟩
  · obtain ⟨a, he, -⟩ := ha.exists_eq_some hnone
    cases he
  · obtain ⟨_, he, hname⟩ := ha.exists_eq_some hsome
    cases he
    exact ⟨a, rest, hname, hrest, rfl⟩

/-- **Files that differ in assignments to one variable**, which they do not refer to elsewhere, make
the same assignments to the others. -/
theorem SameLinesBut.filter_eq (hlines : SameLinesBut name lines lines') (h : SameBut name env env')
    (hf : env.assignmentsIn lines = .ok found) (hf' : env'.assignmentsIn lines' = .ok found') :
    (found.filter fun a => a.name ≠ name) = found'.filter fun a => a.name ≠ name := by
  induction hlines generalizing env env' found found' with
  | nil =>
    cases hf
    cases hf'
    rfl
  | same hr _ ih =>
    have heq := h.assignment?_eq hr
    rcases assignmentsIn_cons_ok_iff.1 hf with ⟨hnone, hrest⟩ | ⟨a, rest, hsome, -, hrest, rfl⟩ <;>
      rcases assignmentsIn_cons_ok_iff.1 hf' with
        ⟨hnone', hrest'⟩ | ⟨a', rest', hsome', -, hrest', rfl⟩
    · exact ih h hrest hrest'
    · rw [← heq, hnone] at hsome'
      cases hsome'
    · rw [← heq, hsome] at hnone'
      cases hnone'
    · rw [← heq, hsome] at hsome'
      cases hsome'
      by_cases ha : a.name = name
      · rw [List.filter_cons_of_neg (by simpa using ha), List.filter_cons_of_neg (by simpa using ha)]
        exact ih ((h.adopt_self ha).symm.adopt_self ha).symm hrest hrest'
      · rw [List.filter_cons_of_pos (by simpa using ha), List.filter_cons_of_pos (by simpa using ha),
          ih (h.adopt ha) hrest hrest']
  | left ha _ ih =>
    obtain ⟨a, rest, hname, hrest, rfl⟩ := ha.exists_cons hf
    rw [List.filter_cons_of_neg (by simpa using hname)]
    exact ih (h.adopt_self hname) hrest hf'
  | right ha _ ih =>
    obtain ⟨a, rest, hname, hrest, rfl⟩ := ha.exists_cons hf'
    rw [List.filter_cons_of_neg (by simpa using hname)]
    exact ih (h.symm.adopt_self hname).symm hf hrest

end Environment
end DockerMatrix
