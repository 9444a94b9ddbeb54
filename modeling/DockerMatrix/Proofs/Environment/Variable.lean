/-
# Environments that differ in one variable

Two environments may differ in one variable, in its value or in whether it is set, and in nothing else
(`SameBut`).  Every other variable has the same value in both, and so has what is looked up among the
entries, unless the key reaches into the variable's entry (`entry?_eq`).  Assignments that differ in
this variable alone keep them so (`foldl_adopt`).

The value that a variable has in the end is the one that it had, or that of the first assignment to it
(`get?_foldl_adopt`), unless what it had is no text.
-/

import DockerMatrix.Environment
import DockerMatrix.Proofs.Text.Utf8
import DockerMatrix.Status.Support

namespace DockerMatrix

namespace Table

variable {κ α : Type} [DecidableEq κ] {key name : κ}

/-- Dropping the entries under one key leaves what is under the others. -/
theorem get?_filter_ne (h : key ≠ name) (t : Table κ α) :
    get? key (t.filter fun p => p.1 ≠ name) = get? key t := by
  induction t with
  | nil => rfl
  | cons old rest ih =>
    by_cases hold : old.1 = name
    · rw [List.filter_cons_of_neg (by simpa using hold), ih, get?, if_neg]
      rw [hold]
      exact h.symm
    · rw [List.filter_cons_of_pos (by simpa using hold), get?, get?, ih]

/-- What is put under a key leaves the others as they were. -/
theorem filter_put_self (value : α) (t : Table κ α) :
    (put name value t).filter (fun p => p.1 ≠ name) = t.filter fun p => p.1 ≠ name := by
  induction t with
  | nil => simp [put]
  | cons old rest ih =>
    rw [put]
    split_ifs with hold
    · rw [List.filter_cons_of_neg (by simp), List.filter_cons_of_neg (by simpa using hold)]
    · rw [List.filter_cons_of_pos (by simpa using hold),
        List.filter_cons_of_pos (by simpa using hold), ih]

/-- Putting a value under one key and dropping the entries under another can be done in either
order. -/
theorem filter_put_ne (h : key ≠ name) (value : α) (t : Table κ α) :
    (put key value t).filter (fun p => p.1 ≠ name) =
      put key value (t.filter fun p => p.1 ≠ name) := by
  induction t with
  | nil => simp [put, h]
  | cons old rest ih =>
    by_cases hkey : old.1 = key
    · have hname : old.1 ≠ name := fun he => h (hkey.symm.trans he)
      rw [put, if_pos hkey, List.filter_cons_of_pos (by simpa using h),
        List.filter_cons_of_pos (by simpa using hname), put, if_pos hkey]
    · rw [put, if_neg hkey]
      by_cases hname : old.1 = name
      · rw [List.filter_cons_of_neg (by simpa using hname),
          List.filter_cons_of_neg (by simpa using hname), ih]
      · rw [List.filter_cons_of_pos (by simpa using hname),
          List.filter_cons_of_pos (by simpa using hname), ih, put, if_neg hkey]

end Table

namespace Environment

variable {env env' : Environment} {name key : String} {a : Assignment} {found found' : List Assignment}

/-! ## All variables but one -/

/-- Two environments with the same variables and values, in the same order, but for one variable. -/
def SameBut (name : String) (env env' : Environment) : Prop :=
  env.values.filter (fun p => p.1 ≠ name) = env'.values.filter fun p => p.1 ≠ name

/-- What is looked up under a key may be found in the entry of a variable: one of the two, with `=`
behind it, begins with the other.  For a variable without `=` in its name the key is the name, or it
begins with the name and `=`. -/
def Reaches (key name : String) : Prop :=
  Text.encode key ++ Text.encode "=" <+: Text.encode name ++ Text.encode "=" ∨
    Text.encode name ++ Text.encode "=" <+: Text.encode key ++ Text.encode "="

/-- An entry that a key does not reach has nothing to be found under it. -/
theorem not_prefix_of_not_reaches (h : ¬Reaches key name) (value : Text.Bytes) :
    ¬(Text.encode key ++ Text.encode "=").isPrefixOf
      (Text.encode name ++ Text.encode "=" ++ value) := by
  intro hprefix
  exact h (List.prefix_or_prefix_of_prefix (List.isPrefixOf_iff_prefix.1 hprefix)
    (List.prefix_append _ _))

namespace SameBut

/-- An environment is like itself. -/
theorem refl (name : String) (env : Environment) : SameBut name env env := rfl

/-- Being alike but for one variable goes both ways. -/
theorem symm (h : SameBut name env env') : SameBut name env' env := Eq.symm h

/-- Environments that are alike but for one variable give the others the same values. -/
theorem get?_eq (h : SameBut name env env') (hk : key ≠ name) : env.get? key = env'.get? key := by
  rw [get?, get?, ← Table.get?_filter_ne hk, h, Table.get?_filter_ne hk]

/-- Environments that are alike but for one variable give the others the same texts. -/
theorem text?_eq (h : SameBut name env env') (hk : key ≠ name) : env.text? key = env'.text? key := by
  rw [text?, text?, h.get?_eq hk]

/-- **What is looked up is the same in both**, unless the key reaches the variable. -/
theorem entry?_eq (h : SameBut name env env') (hk : ¬Reaches key name) :
    env.entry? key = env'.entry? key := by
  have hskip : ∀ values : Table String Text.Bytes, ∀ f : String × Text.Bytes → Option Text.Bytes,
      (∀ p ∈ values, p.1 = name → f p = none) →
        values.findSome? f = (values.filter fun p => p.1 ≠ name).findSome? f := by
    intro values f hf
    induction values with
    | nil => rfl
    | cons p rest ih =>
      have hrest := ih fun q hq => hf q (List.mem_cons_of_mem _ hq)
      by_cases hp : p.1 = name
      · rw [List.filter_cons_of_neg (by simpa using hp), List.findSome?_cons,
          hf p (List.mem_cons_self ..) hp]
        exact hrest
      · rw [List.filter_cons_of_pos (by simpa using hp), List.findSome?_cons, List.findSome?_cons,
          hrest]
  unfold entry?
  dsimp only
  split_ifs
  · rfl
  · rw [hskip, hskip env'.values, h]
    · rintro ⟨_, value⟩ - rfl
      exact if_neg (not_prefix_of_not_reaches hk value)
    · rintro ⟨_, value⟩ - rfl
      exact if_neg (not_prefix_of_not_reaches hk value)

/-- An assignment to the variable makes no other difference. -/
theorem adopt_self (h : SameBut name env env') (ha : a.name = name) :
    SameBut name (env.adopt a) env' := by
  unfold adopt
  split_ifs
  · exact h
  · rw [SameBut, set, ha, Table.filter_put_self]
    exact h

/-- An assignment to another variable makes no difference. -/
theorem adopt (h : SameBut name env env') (ha : a.name ≠ name) :
    SameBut name (env.adopt a) (env'.adopt a) := by
  unfold Environment.adopt
  rw [h.text?_eq ha]
  split_ifs
  · exact h
  · rw [SameBut, set, set, Table.filter_put_ne ha, Table.filter_put_ne ha, h]

/-- Assignments to the variable may be left out. -/
theorem foldl_adopt_filter (h : SameBut name env env') :
    SameBut name (found.foldl Environment.adopt env)
      ((found.filter fun a => a.name ≠ name).foldl Environment.adopt env') := by
  induction found generalizing env env' with
  | nil => exact h
  | cons a rest ih =>
    rw [List.foldl_cons]
    by_cases ha : a.name = name
    · rw [List.filter_cons_of_neg (by simpa using ha)]
      exact ih (h.adopt_self ha)
    · rw [List.filter_cons_of_pos (by simpa using ha), List.foldl_cons]
      exact ih (h.adopt ha)

/-- **Assignments to the variable make no other difference**: environments that differ in it still do
after assignments that differ only in it. -/
theorem foldl_adopt (h : SameBut name env env')
    (hf : (found.filter fun a => a.name ≠ name) = found'.filter fun a => a.name ≠ name) :
    SameBut name (found.foldl Environment.adopt env) (found'.foldl Environment.adopt env') := by
  have hfound := @foldl_adopt_filter _ _ _ found h
  have hfound' := @foldl_adopt_filter _ _ _ found' (SameBut.refl name env')
  rw [hf] at hfound
  exact Eq.trans hfound (Eq.symm hfound')

/-- The variables that decide whether messages are colored. -/
def colorVariables : List String :=
  ["FORCE_COLOR", "CLICOLOR_FORCE", "IGNORE_IS_TERMINAL", "NO_COLOR", "TERM", "COLORTERM",
   "TERM_PROGRAM", "CLICOLOR", "CI", "NODE"] ++ serviceVariables

/-- **A variable that has nothing to do with colors does not decide whether messages are colored.** -/
theorem showsColor_eq_of_notMem (h : SameBut name env env') (hn : name ∉ colorVariables) :
    env.showsColor = env'.showsColor := by
  have htext : ∀ key, key ∈ colorVariables → env.text? key = env'.text? key := fun key hk =>
    h.text?_eq fun he => hn (he ▸ hk)
  have hon : ∀ key, key ∈ colorVariables → env.isOn key = env'.isOn key := by
    intro key hk
    rw [isOn, isOn, htext key hk]
  have hany : ∀ names : List String, (∀ key ∈ names, key ∈ colorVariables) →
      (names.any fun key => (env.text? key).isSome) =
        names.any fun key => (env'.text? key).isSome := by
    intro names hnames
    induction names with
    | nil => rfl
    | cons key rest ih =>
      rw [List.any_cons, List.any_cons, htext key (hnames key (List.mem_cons_self ..)),
        ih fun other hm => hnames other (List.mem_cons_of_mem _ hm)]
  have hservice : env.isBuildService = env'.isBuildService := by
    rw [isBuildService, isBuildService, htext "CI" (by decide), htext "NODE" (by decide),
      hany serviceVariables fun _ hk => List.mem_append_right _ hk]
  have hterminal : env.hasColorTerminal = env'.hasColorTerminal := by
    rw [hasColorTerminal, hasColorTerminal, htext "COLORTERM" (by decide), htext "TERM" (by decide),
      htext "TERM_PROGRAM" (by decide), hon "CLICOLOR" (by decide), hservice]
  have hforced : env.forcesColor = env'.forcesColor := by
    rw [forcesColor, forcesColor, htext "FORCE_COLOR" (by decide),
      hon "CLICOLOR_FORCE" (by decide)]
  rw [showsColor, showsColor, allowsColor, allowsColor, hforced, hterminal,
    hon "IGNORE_IS_TERMINAL" (by decide), hon "NO_COLOR" (by decide), htext "TERM" (by decide)]

/-- The variable for the output directory does not decide whether messages are colored. -/
theorem showsColor_eq (h : SameBut "OUTPUT_DIR" env env') : env.showsColor = env'.showsColor :=
  h.showsColor_eq_of_notMem (by decide +kernel)

end SameBut

/-! ## The value of a variable -/

/-- An assignment that is adopted sets its variable if that has no text, and changes no other. -/
theorem get?_adopt (env : Environment) (a : Assignment) (name : String) :
    (env.adopt a).get? name =
      if a.name = name ∧ env.text? a.name = none then some (Text.encode a.value)
      else env.get? name := by
  unfold adopt
  cases ht : env.text? a.name with
  | some text => simp
  | none =>
    rw [Option.isSome_none, if_neg Bool.false_ne_true, set, get?, Table.get?_put]
    simp [get?]

/-- A variable that has a text keeps it. -/
theorem get?_foldl_of_text (h : (env.text? name).isSome) :
    (found.foldl adopt env).get? name = env.get? name := by
  induction found generalizing env with
  | nil => rfl
  | cons a rest ih =>
    have hget : (env.adopt a).get? name = env.get? name := by
      rw [get?_adopt, if_neg]
      rintro ⟨rfl, hnone⟩
      rw [hnone] at h
      cases h
    rw [List.foldl_cons, ih (by rwa [text?, hget]), hget]

/-- A variable to which something is assigned is not set to bytes that are no text. -/
def IsTextIfAssigned (env : Environment) (found : List Assignment) (name : String) : Prop :=
  (∃ a ∈ found, a.name = name) → ∀ value, env.get? name = some value →
    (Text.decode? value).isSome

/-- **The value of a variable after assignments** is the one before them, or else that of the first
assignment to it. -/
theorem get?_foldl_adopt (h : env.IsTextIfAssigned found name) :
    (found.foldl adopt env).get? name =
      (env.get? name).or
        ((found.find? fun a => a.name = name).map fun a => Text.encode a.value) := by
  induction found generalizing env with
  | nil => simp
  | cons a rest ih =>
    rw [List.foldl_cons]
    by_cases ha : a.name = name
    · have hfound : (a :: rest).find? (fun a => decide (a.name = name)) = some a :=
        List.find?_cons_of_pos (by simpa using ha)
      rw [hfound, Option.map_some]
      cases hv : env.get? name with
      | none =>
        have hget : (env.adopt a).get? name = some (Text.encode a.value) := by
          rw [get?_adopt, if_pos ⟨ha, by rw [text?, ha, hv]; rfl⟩]
        rw [get?_foldl_of_text, hget, Option.none_or]
        rw [text?, hget, Option.bind_some, Text.decode?_encode]
        rfl
      | some value =>
        have htext : (env.text? name).isSome := by
          rw [text?, hv, Option.bind_some]
          exact h ⟨a, List.mem_cons_self .., ha⟩ value hv
        have hsame : env.adopt a = env := if_pos (ha ▸ htext)
        rw [hsame, get?_foldl_of_text htext, hv, Option.some_or]
    · have hget : (env.adopt a).get? name = env.get? name := by
        rw [get?_adopt, if_neg fun hc => ha hc.1]
      rw [ih, hget, List.find?_cons_of_neg (by simpa using ha)]
      rintro ⟨b, hb, hname⟩ value hv
      exact h ⟨b, List.mem_cons_of_mem _ hb, hname⟩ value (hget ▸ hv)

end Environment
end DockerMatrix
