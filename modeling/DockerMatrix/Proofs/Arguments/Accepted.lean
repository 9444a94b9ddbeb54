/-
# The command lines that are accepted

A command line is accepted if and only if it is spelled by groups that mean something
(`read_eq_ok_iff`), and what they mean is what is asked for (`Means`).

Reading settles a setting only when the next option or the end is reached.  So the induction over
the arguments speaks of two kinds of progress: either the pending setting can be settled, and the
arguments to come are groups, or it has no value yet, and the next argument is that value.
-/

import DockerMatrix.Proofs.Arguments.Values

namespace DockerMatrix
namespace Arguments

open Text (Bytes)

variable {t : FileTree} {here : Location} {env : Environment} {g g' : Gathered} {s : Setting}
  {p q : Progress} {arguments : List Bytes} {groups : List Group} {a : Arguments}

/-! ## Groups -/

/-- **What is read is spelled by groups**, behind the value of the pending setting if it has none
yet, and they are settled in order. -/
theorem exists_groups_of_read (h : p.read (t.kindOf here) arguments = .ok q)
    (hq : q.settled (t.kindOf here) = .ok g') :
    (∃ g groups, p.settled (t.kindOf here) = .ok g ∧ Spells groups arguments ∧
      g.takeAll (t.kindOf here) groups = .ok g') ∨
    ∃ s value rest groups, p.pending = some (s, none) ∧ arguments = value :: rest ∧
      StandsAlone value ∧ Spells groups rest ∧
      p.gathered.takeAll (t.kindOf here) (.setting s value :: groups) = .ok g' := by
  induction arguments generalizing p with
  | nil =>
    rw [Progress.read, Except.ok.injEq] at h
    exact Or.inl ⟨g', [], h ▸ hq, .nil, rfl⟩
  | cons argument rest ih =>
    obtain ⟨rfl, rfl, rfl⟩ | ⟨s, attached, p', ho, hs, h⟩ | ⟨p', rfl, hw, h⟩ | ⟨s, hv, hp, h⟩ :=
      Progress.read_cons_ok_iff.1 h
    · exact Or.inl ⟨g', [], hq, .terminator, rfl⟩
    · obtain ⟨g, hg, hs⟩ := Progress.setting_ok_iff.1 hs
      refine Or.inl ?_
      cases attached with
      | none =>
        subst hs
        obtain ⟨g₁, groups, h₁, -⟩ | ⟨s', value, rest', groups, hp, rfl, hv, hspell, htake⟩ := ih h
        · cases h₁
        · cases hp
          exact ⟨g, .setting s value :: groups, hg, .cons (.separate ho hv) hspell, htake⟩
      | some value =>
        obtain ⟨g₁, hg₁, rfl⟩ := hs
        obtain ⟨g₂, groups, h₂, hspell, htake⟩ | ⟨s', value, rest', groups, hp, -⟩ := ih h
        · cases h₂
          refine ⟨g, .setting s value :: groups, hg, .cons (.attached ho) hspell, ?_⟩
          exact Gathered.takeAll_cons_ok_iff.2 ⟨g₁, hg₁, htake⟩
        · cases hp
    · obtain ⟨-, g, hg, hd, rfl⟩ := Progress.switch_ok_iff.1 hw
      obtain ⟨g₁, groups, h₁, hspell, htake⟩ | ⟨s', value, rest', groups, hp, -⟩ := ih h
      · cases h₁
        refine Or.inl ⟨g, .dryRun :: groups, hg, .cons .dryRun hspell, ?_⟩
        refine Gathered.takeAll_cons_ok_iff.2 ⟨_, ?_, htake⟩
        rw [Gathered.take, hd]
        rfl
      · cases hp
    · obtain ⟨g₁, groups, h₁, hspell, htake⟩ | ⟨s', value, rest', groups, hp', -⟩ := ih h
      · refine Or.inr ⟨s, argument, rest, groups, hp, rfl, hv, hspell, ?_⟩
        exact Gathered.takeAll_cons_ok_iff.2 ⟨g₁, h₁, htake⟩
      · cases hp'

/-- **What is spelled by groups is read** from where the pending setting can be settled. -/
theorem exists_read_of_spells (hspell : Spells groups arguments)
    (hg : p.settled (t.kindOf here) = .ok g)
    (htake : g.takeAll (t.kindOf here) groups = .ok g') :
    ∃ q, p.read (t.kindOf here) arguments = .ok q ∧ q.settled (t.kindOf here) = .ok g' := by
  induction hspell generalizing p g with
  | nil => exact ⟨p, rfl, htake ▸ hg⟩
  | terminator =>
    exact ⟨p, Progress.read_cons_ok_iff.2 (Or.inl ⟨rfl, rfl, rfl⟩), htake ▸ hg⟩
  | cons hgroup hspell ih =>
    obtain ⟨g₁, h₁, h⟩ := Gathered.takeAll_cons_ok_iff.1 htake
    cases hgroup with
    | attached ho =>
      obtain ⟨q, hr, hq⟩ := ih (p := ⟨g₁, none⟩) rfl h
      refine ⟨q, Progress.read_cons_ok_iff.2 (Or.inr (Or.inl ⟨_, _, _, ho, ?_, hr⟩)), hq⟩
      exact Progress.setting_ok_iff.2 ⟨g, hg, g₁, h₁, rfl⟩
    | separate ho hv =>
      rename_i s argument value
      obtain ⟨q, hr, hq⟩ := ih (p := ⟨g, some (s, some value)⟩) h₁ h
      refine ⟨q, Progress.read_cons_ok_iff.2
        (Or.inr (Or.inl ⟨_, _, ⟨g, some (s, none)⟩, ho, ?_, ?_⟩)), hq⟩
      · exact Progress.setting_ok_iff.2 ⟨g, hg, rfl⟩
      · exact Progress.read_cons_ok_iff.2 (Or.inr (Or.inr (Or.inr ⟨s, hv, rfl, hr⟩)))
    | dryRun =>
      have hd : g.dryRun = false := (Gathered.take_ok_iff.1 h₁).1
      obtain ⟨q, hr, hq⟩ := ih (p := ⟨g₁, none⟩) rfl h
      refine ⟨q, Progress.read_cons_ok_iff.2 (Or.inr (Or.inr (Or.inl ⟨_, rfl, ?_, hr⟩))), hq⟩
      refine Progress.switch_ok_iff.2 ⟨rfl, g, hg, hd, ?_⟩
      rw [Gathered.take, hd] at h₁
      cases h₁
      rfl

/-- **Reading goes well if and only if the arguments are spelled by groups that can be settled.** -/
theorem read_settled_iff :
    (∃ q, Progress.start.read (t.kindOf here) arguments = .ok q ∧
      q.settled (t.kindOf here) = .ok g') ↔
    ∃ groups, Spells groups arguments ∧
      Gathered.empty.takeAll (t.kindOf here) groups = .ok g' := by
  constructor
  · rintro ⟨q, h, hq⟩
    obtain ⟨g, groups, hg, hspell, htake⟩ | ⟨s, value, rest, groups, hp, -⟩ :=
      exists_groups_of_read h hq
    · cases hg
      exact ⟨groups, hspell, htake⟩
    · cases hp
  · rintro ⟨groups, hspell, htake⟩
    exact exists_read_of_spells hspell rfl htake

/-! ## Variables and required settings -/

namespace Gathered

/-- **A setting that is not settled falls back** on its variable, if that is set and its value is
accepted. -/
theorem fallBack_ok_iff :
    g.fallBack (t.kindOf here) env s = .ok g' ↔
      (∀ value, g.value? s = none → s.fallback?.bind env.get? = some value →
        s.Accepts t here value) ∧
      (∀ s', g'.value? s' =
        (g.value? s').or (if s' = s then s.fallback?.bind env.get? else none)) ∧
      g'.dryRun = g.dryRun := by
  unfold fallBack
  rw [has_eq]
  -- Without a value to fall back on the progress is as it was.
  have hkept : (∀ s', (g.value? s').or (if s' = s then s.fallback?.bind env.get? else none) =
      g.value? s') → (g = g' ↔ (∀ s', g'.value? s' =
        (g.value? s').or (if s' = s then s.fallback?.bind env.get? else none)) ∧
      g'.dryRun = g.dryRun) := by
    intro hor
    constructor
    · rintro rfl
      exact ⟨fun s' => (hor s').symm, rfl⟩
    · rintro ⟨hv, hd⟩
      exact eq_of_values (fun s' => ((hv s').trans (hor s')).symm) hd.symm
  cases hv : g.value? s with
  | some value =>
    simp only [Option.isSome_some, if_true, Except.ok.injEq, reduceCtorEq, false_implies,
      implies_true, true_and]
    refine hkept fun s' => ?_
    by_cases hs : s' = s
    · rw [hs, hv, Option.some_or]
    · rw [if_neg hs, Option.or_none]
  | none =>
    simp only [Option.isSome_none, Bool.false_eq_true, if_false, forall_const]
    cases hf : s.fallback?.bind env.get? with
    | none =>
      simp only [Except.ok.injEq, reduceCtorEq, false_implies, implies_true, true_and]
      rw [hf] at hkept
      exact hkept fun s' => by rw [ite_self, Option.or_none]
    | some value =>
      simp only [settle_ok_iff, hv, true_and, Option.some.injEq, forall_eq']
      refine and_congr_right fun _ => ?_
      have hor : ∀ s', (g.value? s').or (if s' = s then some value else none) =
          if s' = s then some value else g.value? s' := by
        intro s'
        by_cases hs : s' = s
        · rw [if_pos hs, if_pos hs, hs, hv, Option.none_or]
        · rw [if_neg hs, if_neg hs, Option.or_none]
      constructor
      · rintro ⟨h₁, h₂⟩
        exact ⟨fun s' => (h₁ s').trans (hor s').symm, h₂⟩
      · rintro ⟨h₁, h₂⟩
        exact ⟨fun s' => (h₁ s').trans (hor s'), h₂⟩

/-- Falling back on the environment succeeds where the value that it has is accepted. -/
theorem exists_fallBack (h : ∀ value, g.value? s = none →
    s.fallback?.bind env.get? = some value → s.Accepts t here value) :
    ∃ g', g.fallBack (t.kindOf here) env s = .ok g' := by
  unfold fallBack
  rw [has_eq]
  cases hv : g.value? s with
  | some value => exact ⟨g, rfl⟩
  | none =>
    cases hf : s.fallback?.bind env.get? with
    | none => exact ⟨g, rfl⟩
    | some value =>
      have hr : (Group.setting s value).IsRight t here := h value hv hf
      exact exists_take (by rw [Group.item, holds, hv, Option.isSome_none]) hr

/-- The settings that are not settled fall back on their variables. -/
theorem fallBacks_ok_iff :
    (∃ g₁, g.fallBack (t.kindOf here) env .outputDirectory = .ok g₁ ∧
      g₁.fallBack (t.kindOf here) env .logFilter = .ok g') ↔
      (∀ s value, g.value? s = none → s.fallback?.bind env.get? = some value →
        s.Accepts t here value) ∧
      (∀ s, g'.value? s = (g.value? s).or (s.fallback?.bind env.get?)) ∧
      g'.dryRun = g.dryRun := by
  constructor
  · rintro ⟨g₁, h₁, h₂⟩
    obtain ⟨ha₁, hv₁, hd₁⟩ := fallBack_ok_iff.1 h₁
    obtain ⟨ha₂, hv₂, hd₂⟩ := fallBack_ok_iff.1 h₂
    have hl : g₁.value? .logFilter = g.value? .logFilter := by
      rw [hv₁, if_neg (by decide), Option.or_none]
    refine ⟨?_, fun s => ?_, hd₂.trans hd₁⟩
    · intro s value hn hf
      cases s with
      | outputDirectory => exact ha₁ value hn hf
      | logFilter => exact ha₂ value (hl.trans hn) hf
      | os => cases hf
      | hardware => cases hf
      | osVersion => cases hf
    · rw [hv₂, hv₁]
      cases s <;> simp [Setting.fallback?]
  · rintro ⟨ha, hv, hd⟩
    obtain ⟨g₁, h₁⟩ := exists_fallBack (ha .outputDirectory)
    obtain ⟨-, hv₁, hd₁⟩ := fallBack_ok_iff.1 h₁
    have hl : g₁.value? .logFilter = g.value? .logFilter := by
      rw [hv₁, if_neg (by decide), Option.or_none]
    refine ⟨g₁, h₁, fallBack_ok_iff.2 ⟨fun value hn => ?_, fun s => ?_, hd.trans hd₁.symm⟩⟩
    · exact ha .logFilter value (hl ▸ hn)
    · rw [hv, hv₁]
      cases s <;> simp [Setting.fallback?]

end Gathered

/-- What is settled when arguments are complete. -/
def gathered (a : Arguments) : Gathered :=
  ⟨some a.os, some a.hardware, a.osVersion, a.outputDirectory, a.dryRun, a.logFilter⟩

/-- What has been gathered is complete as arguments if and only if it is all that these hold. -/
theorem Gathered.complete_ok_iff : g.complete = .ok a ↔ g = a.gathered := by
  obtain ⟨os, hardware, osVersion, outputDirectory, dryRun, logFilter⟩ := g
  obtain ⟨os', hardware', osVersion', outputDirectory', dryRun', logFilter'⟩ := a
  rw [complete]
  split_ifs with he
  · rw [he]
    simp [empty, gathered]
  · cases os with
    | none => simp [gathered]
    | some os =>
      cases hardware with
      | none => simp [gathered]
      | some hardware => simp [gathered]

/-- Arguments are accepted if their tokens are read and settled and both variables are then taken
over. -/
theorem read_ok_iff :
    read (t.kindOf here) env arguments = .ok a ↔
      ∃ g, (∃ q, Progress.start.read (t.kindOf here) arguments = .ok q ∧
          q.settled (t.kindOf here) = .ok g) ∧
        ∃ g₁, g.fallBack (t.kindOf here) env .outputDirectory = .ok g₁ ∧
          g₁.fallBack (t.kindOf here) env .logFilter = .ok a.gathered := by
  unfold read
  constructor
  · intro h
    cases hq : Progress.start.read (t.kindOf here) arguments with
    | error e => simp [hq, bind, Except.bind] at h
    | ok q =>
      cases hg : q.settled (t.kindOf here) with
      | error e => simp [hq, hg, bind, Except.bind] at h
      | ok g =>
        cases h₁ : g.fallBack (t.kindOf here) env .outputDirectory with
        | error e => simp [hq, hg, h₁, bind, Except.bind] at h
        | ok g₁ =>
          cases h₂ : g₁.fallBack (t.kindOf here) env .logFilter with
          | error e => simp [hq, hg, h₁, h₂, bind, Except.bind] at h
          | ok g₂ =>
            simp only [hq, hg, h₁, h₂, bind, Except.bind] at h
            exact ⟨g, ⟨q, rfl, hg⟩, g₁, h₁, Gathered.complete_ok_iff.1 h ▸ h₂⟩
  · rintro ⟨g, ⟨q, hq, hg⟩, g₁, h₁, h₂⟩
    simp only [hq, hg, h₁, h₂, bind, Except.bind]
    exact Gathered.complete_ok_iff.2 rfl

/-! ## Meaning -/

/-- The value of a setting: the one given in groups, or else that of its variable if that is set. -/
def valueOf (env : Environment) (groups : List Group) (s : Setting) : Option Bytes :=
  (given s groups).or (s.fallback?.bind env.get?)

/-- What groups mean in an environment: no option is given twice; each setting accepts its value, if
it has one; and what is asked for is those values and no others, which includes an operating system
and a hardware, and a dry run if its switch is given. -/
structure Means (t : FileTree) (here : Location) (env : Environment) (groups : List Group)
    (a : Arguments) : Prop where
  distinct : (groups.map Group.item).Nodup
  accepted : ∀ s value, valueOf env groups s = some value → s.Accepts t here value
  value : ∀ s, a.gathered.value? s = valueOf env groups s
  dryRun : a.dryRun = true ↔ .dryRun ∈ groups

/-- What the arguments settle is what the groups that spell them give. -/
theorem value?_of_settled (hspell : Spells groups arguments)
    (h : ∃ q, Progress.start.read (t.kindOf here) arguments = .ok q ∧
      q.settled (t.kindOf here) = .ok g) (s : Setting) : g.value? s = given s groups := by
  obtain ⟨groups', hspell', htake⟩ := read_settled_iff.1 h
  obtain rfl := hspell.unique hspell'
  rw [(Gathered.collects_of_takeAll htake).2.2.value]
  cases s <;> rfl

/-- **What is asked for** has the value that the groups give to a setting, or that of its variable. -/
theorem value?_of_read (hspell : Spells groups arguments)
    (h : read (t.kindOf here) env arguments = .ok a) (s : Setting) :
    a.gathered.value? s = valueOf env groups s := by
  obtain ⟨g, hsettled, hfall⟩ := read_ok_iff.1 h
  obtain ⟨-, hv, -⟩ := Gathered.fallBacks_ok_iff.1 hfall
  rw [hv, value?_of_settled hspell hsettled, valueOf]

/-- **Reading depends on the variables of the settings that are not given**, and on no others. -/
theorem read_ok_of_fallback_eq {env' : Environment} (hspell : Spells groups arguments)
    (hf : ∀ s, given s groups = none → s.fallback?.bind env.get? = s.fallback?.bind env'.get?)
    (h : read (t.kindOf here) env arguments = .ok a) :
    read (t.kindOf here) env' arguments = .ok a := by
  obtain ⟨g, hsettled, hfall⟩ := read_ok_iff.1 h
  have hg := value?_of_settled hspell hsettled
  obtain ⟨ha, hv, hd⟩ := Gathered.fallBacks_ok_iff.1 hfall
  refine read_ok_iff.2 ⟨g, hsettled, Gathered.fallBacks_ok_iff.2 ⟨?_, ?_, hd⟩⟩
  · intro s value hnone hs
    exact ha s value hnone ((hf s (hg s ▸ hnone)).trans hs)
  · intro s
    rw [hv, hg]
    cases hgiven : given s groups with
    | some value => rw [Option.some_or, Option.some_or]
    | none => rw [hf s hgiven]

/-- A value that is given comes from a group for the setting. -/
theorem mem_of_given {value : Bytes} (h : given s groups = some value) :
    .setting s value ∈ groups := by
  induction groups with
  | nil => cases h
  | cons group groups ih =>
    cases group with
    | setting s' value' =>
      rw [given] at h
      split_ifs at h with hs
      · cases h
        rw [hs]
        exact List.mem_cons_self ..
      · exact List.mem_cons_of_mem _ (ih h)
    | dryRun => exact List.mem_cons_of_mem _ (ih h)

/-- Where no option is given twice, the value of a setting is that in its group. -/
theorem given_of_mem {value : Bytes} (hnd : (groups.map Group.item).Nodup)
    (h : .setting s value ∈ groups) : given s groups = some value := by
  induction groups with
  | nil => cases h
  | cons group groups ih =>
    rw [List.map_cons, List.nodup_cons] at hnd
    rcases List.mem_cons.1 h with rfl | h
    · rw [given, if_pos rfl]
    · have hne : group.item ≠ .setting s := fun he => hnd.1 (he ▸ List.mem_map_of_mem h)
      have hrest := ih hnd.2 h
      cases group with
      | setting s' value' =>
        rw [given, if_neg (by rintro rfl; exact hne rfl)]
        exact hrest
      | dryRun => exact hrest

/-- Nothing is held before the first argument. -/
theorem empty_holds (item : Item) : Gathered.empty.holds item = false := by
  rcases item with (_ | _ | _ | _ | _) | (_ | _ | _) <;> rfl

/-- From nothing settled on, the values are those given. -/
theorem Gathered.Collects.of_empty (h : Gathered.empty.Collects groups g) :
    (∀ s, g.value? s = given s groups) ∧ g.dryRun = decide (.dryRun ∈ groups) := by
  refine ⟨fun s => ?_, h.dryRun⟩
  rw [h.value]
  cases s <;> rfl

/-- **Arguments that are accepted have a meaning**, which is what is asked for. -/
theorem means_of_read (hspell : Spells groups arguments)
    (h : read (t.kindOf here) env arguments = .ok a) : Means t here env groups a := by
  obtain ⟨g, hsettled, hfall⟩ := read_ok_iff.1 h
  obtain ⟨groups', hspell', htake⟩ := read_settled_iff.1 hsettled
  obtain rfl := hspell.unique hspell'
  obtain ⟨ha, hv, hd⟩ := Gathered.fallBacks_ok_iff.1 hfall
  obtain ⟨hnd, hall, hc⟩ := Gathered.collects_of_takeAll htake
  obtain ⟨hg, hdry⟩ := hc.of_empty
  refine ⟨hnd, fun s value hs => ?_, value?_of_read hspell h, ?_⟩
  · rw [valueOf, Option.or_eq_some_iff] at hs
    rcases hs with hs | ⟨hn, hf⟩
    · exact (hall _ (mem_of_given hs)).2
    · exact ha s value ((hg s).trans hn) hf
  · rw [show a.dryRun = g.dryRun from hd, hdry, decide_eq_true_iff]

/-- **Arguments that have a meaning are accepted.** -/
theorem read_of_means (hspell : Spells groups arguments) (h : Means t here env groups a) :
    read (t.kindOf here) env arguments = .ok a := by
  have hall : ∀ group ∈ groups, Gathered.empty.holds group.item = false ∧
      group.IsRight t here := by
    intro group hm
    refine ⟨empty_holds _, ?_⟩
    cases group with
    | setting s value =>
      exact h.accepted s value (by rw [valueOf, given_of_mem h.distinct hm, Option.some_or])
    | dryRun => trivial
  obtain ⟨g, htake⟩ := Gathered.exists_takeAll h.distinct hall
  obtain ⟨hg, hdry⟩ := (Gathered.collects_of_takeAll htake).2.2.of_empty
  refine read_ok_iff.2 ⟨g, read_settled_iff.2 ⟨groups, hspell, htake⟩,
    Gathered.fallBacks_ok_iff.2 ⟨fun s value hn hf => ?_, fun s => ?_, ?_⟩⟩
  · exact h.accepted s value (by rw [valueOf, ← hg, hn, hf, Option.none_or])
  · rw [h.value, valueOf, hg]
  · rw [hdry, Bool.eq_iff_iff, decide_eq_true_iff]
    exact h.dryRun

/-- **The command lines that are accepted** are those that are spelled by groups, and the groups say
what is asked for. -/
theorem read_eq_ok_iff (t : FileTree) (here : Location) (env : Environment)
    (arguments : List Bytes) (a : Arguments) :
    read (t.kindOf here) env arguments = .ok a ↔
      ∃ groups, Spells groups arguments ∧ Means t here env groups a := by
  constructor
  · intro h
    obtain ⟨g, hsettled, -⟩ := read_ok_iff.1 h
    obtain ⟨groups, hspell, -⟩ := read_settled_iff.1 hsettled
    exact ⟨groups, hspell, means_of_read hspell h⟩
  · rintro ⟨groups, hspell, h⟩
    exact read_of_means hspell h

end Arguments
end DockerMatrix
