/-
# The values of settings

What is settled can be seen as bytes: each setting has the bytes that its value was written as, or
none (`Gathered.value?`), and this view and the switch for a dry run say all
(`Gathered.eq_of_values`).  In it a setting is settled by putting its bytes where none were
(`settle_ok_iff`), so that settling groups one after the other collects the values given in them
(`collects_of_takeAll`).  That goes well if no option is given twice and each value is accepted
(`exists_takeAll`), and only then.
-/

import DockerMatrix.Proofs.Arguments.Grammar

namespace DockerMatrix

/-- An operating system is looked up by its exact name. -/
theorem OperatingSystem.ofName?_eq_some_iff {name : String} {os : OperatingSystem} :
    OperatingSystem.ofName? false name = some os ↔ name = os.name := by
  constructor
  · intro h
    have hp := List.find?_some h
    simp only [sameName, Bool.false_eq_true, if_false, beq_iff_eq] at hp
    exact hp.symm
  · rintro rfl
    cases os <;> decide

/-- A hardware is looked up by its exact name. -/
theorem Hardware.ofName?_eq_some_iff {name : String} {hardware : Hardware} :
    Hardware.ofName? false name = some hardware ↔ name = hardware.name := by
  constructor
  · intro h
    have hp := List.find?_some h
    simp only [sameName, Bool.false_eq_true, if_false, beq_iff_eq] at hp
    exact hp.symm
  · rintro rfl
    cases hardware <;> decide

/-- A path is taken for a directory if and only if one is found there. -/
theorem FileTree.kindOf_eq_directory_iff {t : FileTree} {here : Location} {p : Path} :
    t.kindOf here p = .directory ↔ t.find here p = .ok .directory := by
  unfold FileTree.kindOf
  rcases t.find here p with e | (_ | _ | _ | _) <;> simp

namespace Arguments

open Text (Bytes)

variable {t : FileTree} {here : Location} {env : Environment} {g g' : Gathered} {s : Setting}
  {value : Bytes}

/-! ## Views -/

/-- The bytes that a setting is settled with. -/
def Gathered.value? (g : Gathered) : Setting → Option Bytes
  | .os => g.os.map fun os => Text.encode os.name
  | .hardware => g.hardware.map fun hardware => Text.encode hardware.name
  | .osVersion => g.osVersion.map Text.encode
  | .outputDirectory => g.outputDirectory
  | .logFilter => g.logFilter.map Text.encode

/-- The values that a setting accepts: a registered name, a directory that is there, or a text; and
none of them is empty. -/
def Setting.Accepts (t : FileTree) (here : Location) (s : Setting) (value : Bytes) : Prop :=
  value ≠ [] ∧
    match s with
    | .os => ∃ os : OperatingSystem, value = Text.encode os.name
    | .hardware => ∃ hardware : Hardware, value = Text.encode hardware.name
    | .osVersion => ∃ text, value = Text.encode text
    | .outputDirectory => t.find here value = .ok .directory
    | .logFilter => ∃ text, value = Text.encode text

/-- The value of a setting in groups. -/
def given (s : Setting) : List Group → Option Bytes
  | [] => none
  | .setting s' value :: rest => if s' = s then some value else given s rest
  | .dryRun :: rest => given s rest

/-- The first of the groups that are for a setting gives its value. -/
theorem given_cons (s : Setting) (group : Group) (groups : List Group) :
    given s (group :: groups) = (given s [group]).or (given s groups) := by
  cases group with
  | setting s' value => by_cases h : s' = s <;> simp [given, h]
  | dryRun => simp [given]

namespace Gathered

/-- A setting is held if it has a value. -/
theorem has_eq (g : Gathered) (s : Setting) : g.has s = (g.value? s).isSome := by
  cases s <;> simp [has, value?]

/-- **The values and the switch for a dry run say all that is settled.** -/
theorem eq_of_values (h : ∀ s, g.value? s = g'.value? s) (hd : g.dryRun = g'.dryRun) : g = g' := by
  have hos : Function.Injective fun os : OperatingSystem => Text.encode os.name := by
    intro os os' he
    cases os <;> cases os' <;> first | rfl | exact absurd he (by decide)
  have hhw : Function.Injective fun hardware : Hardware => Text.encode hardware.name := by
    intro hardware hardware' he
    cases hardware <;> cases hardware' <;> first | rfl | exact absurd he (by decide)
  obtain ⟨os, hardware, osVersion, outputDirectory, dryRun, logFilter⟩ := g
  obtain ⟨os', hardware', osVersion', outputDirectory', dryRun', logFilter'⟩ := g'
  have h₁ := Option.map_injective hos (h .os)
  have h₂ := Option.map_injective hhw (h .hardware)
  have h₃ := Option.map_injective Text.encode_injective (h .osVersion)
  have h₄ := h .outputDirectory
  have h₅ := Option.map_injective Text.encode_injective (h .logFilter)
  simp only [value?] at h₁ h₂ h₃ h₄ h₅ hd
  simp only [Gathered.mk.injEq]
  exact ⟨h₁, h₂, h₃, h₄, hd, h₅⟩

/-- What is settled after a setting is, and nothing else. -/
structure Sets (g : Gathered) (s : Setting) (value : Bytes) (g' : Gathered) : Prop where
  value : ∀ s', g'.value? s' = if s' = s then some value else g.value? s'
  dryRun : g'.dryRun = g.dryRun

/-- A value can be set in one way only. -/
theorem Sets.unique {g'' : Gathered} (h : g.Sets s value g') (h' : g.Sets s value g'') :
    g' = g'' :=
  eq_of_values (fun s' => (h.value s').trans (h'.value s').symm) (h.dryRun.trans h'.dryRun.symm)

/-- A value that is accepted can be assigned, and nothing else changes. -/
theorem exists_assign (g : Gathered) (h : s.Accepts t here value) :
    ∃ g', g.assign (t.kindOf here) s value = .ok g' ∧ g.Sets s value g' := by
  obtain ⟨-, h⟩ := h
  cases s with
  | os =>
    obtain ⟨os, rfl⟩ := h
    refine ⟨{ g with os := some os }, ?_, fun s' => ?_, rfl⟩
    · simp [assign, Text.decode?_encode, OperatingSystem.ofName?_eq_some_iff.2 rfl]
    · cases s' <;> rfl
  | hardware =>
    obtain ⟨hardware, rfl⟩ := h
    refine ⟨{ g with hardware := some hardware }, ?_, fun s' => ?_, rfl⟩
    · simp [assign, Text.decode?_encode, Hardware.ofName?_eq_some_iff.2 rfl]
    · cases s' <;> rfl
  | osVersion =>
    obtain ⟨text, rfl⟩ := h
    refine ⟨{ g with osVersion := some text }, ?_, fun s' => ?_, rfl⟩
    · simp [assign, Text.decode?_encode]
    · cases s' <;> rfl
  | outputDirectory =>
    refine ⟨{ g with outputDirectory := some value }, ?_, fun s' => ?_, rfl⟩
    · simp [assign, FileTree.kindOf_eq_directory_iff.2 h]
    · cases s' <;> rfl
  | logFilter =>
    obtain ⟨text, rfl⟩ := h
    refine ⟨{ g with logFilter := some text }, ?_, fun s' => ?_, rfl⟩
    · simp [assign, Text.decode?_encode]
    · cases s' <;> rfl

/-- A value that is assigned is accepted. -/
theorem accepts_of_assign (hne : value ≠ [])
    (h : g.assign (t.kindOf here) s value = .ok g') : s.Accepts t here value := by
  refine ⟨hne, ?_⟩
  cases s with
  | os =>
    cases hn : (Text.decode? value).bind (OperatingSystem.ofName? false) with
    | none => simp [assign, hn] at h
    | some os =>
      obtain ⟨name, hd, ho⟩ := Option.bind_eq_some_iff.1 hn
      rw [OperatingSystem.ofName?_eq_some_iff.1 ho] at hd
      exact ⟨os, Text.decode?_eq_some_iff.1 hd⟩
  | hardware =>
    cases hn : (Text.decode? value).bind (Hardware.ofName? false) with
    | none => simp [assign, hn] at h
    | some hardware =>
      obtain ⟨name, hd, ho⟩ := Option.bind_eq_some_iff.1 hn
      rw [Hardware.ofName?_eq_some_iff.1 ho] at hd
      exact ⟨hardware, Text.decode?_eq_some_iff.1 hd⟩
  | osVersion =>
    cases hd : Text.decode? value with
    | none => simp [assign, hd] at h
    | some text => exact ⟨text, Text.decode?_eq_some_iff.1 hd⟩
  | outputDirectory =>
    refine FileTree.kindOf_eq_directory_iff.1 ?_
    cases hk : t.kindOf here value with
    | directory => rfl
    | other => simp [assign, hk] at h
    | absent => simp [assign, hk] at h
  | logFilter =>
    cases hd : Text.decode? value with
    | none => simp [assign, hd] at h
    | some text => exact ⟨text, Text.decode?_eq_some_iff.1 hd⟩

/-- **Assigning succeeds for the accepted values**, and does nothing but to set them. -/
theorem assign_ok_iff (hne : value ≠ []) :
    g.assign (t.kindOf here) s value = .ok g' ↔ s.Accepts t here value ∧ g.Sets s value g' := by
  constructor
  · intro h
    have ha := accepts_of_assign hne h
    obtain ⟨g'', h'', hs⟩ := exists_assign g ha
    rw [h, Except.ok.injEq] at h''
    exact ⟨ha, h'' ▸ hs⟩
  · rintro ⟨ha, hs⟩
    obtain ⟨g'', h'', hs''⟩ := exists_assign g ha
    rw [h'', hs''.unique hs]

/-- **A setting is settled once, with a value that it accepts.** -/
theorem settle_ok_iff :
    g.settle (t.kindOf here) s (some value) = .ok g' ↔
      g.value? s = none ∧ s.Accepts t here value ∧ g.Sets s value g' := by
  unfold settle
  rw [has_eq]
  cases hv : g.value? s with
  | some _ => simp
  | none =>
    cases value with
    | nil => simp [Setting.Accepts]
    | cons b rest => simpa using assign_ok_iff (List.cons_ne_nil b rest)

/-- Whether an option is settled. -/
def holds (g : Gathered) : Item → Bool
  | .setting s => (g.value? s).isSome
  | .switch .dryRun => g.dryRun
  | .switch _ => false

/-- Settles a group. -/
def take (kindOf : Path → PathKind) (g : Gathered) : Group → Except Stop Gathered
  | .setting s value => g.settle kindOf s (some value)
  | .dryRun =>
    if g.dryRun then .error (.repeated (.switch .dryRun)) else .ok { g with dryRun := true }

/-- Settles groups, in order. -/
def takeAll (kindOf : Path → PathKind) : Gathered → List Group → Except Stop Gathered
  | g, [] => .ok g
  | g, group :: rest =>
    match g.take kindOf group with
    | .error e => .error e
    | .ok g' => g'.takeAll kindOf rest

/-- What is settled after groups are. -/
structure Collects (g : Gathered) (groups : List Group) (g' : Gathered) : Prop where
  value : ∀ s, g'.value? s = (g.value? s).or (given s groups)
  dryRun : g'.dryRun = (g.dryRun || decide (.dryRun ∈ groups))

/-- Groups are collected in one way only. -/
theorem Collects.unique {g'' : Gathered} {groups : List Group} (h : g.Collects groups g')
    (h' : g.Collects groups g'') : g' = g'' :=
  eq_of_values (fun s => (h.value s).trans (h'.value s).symm) (h.dryRun.trans h'.dryRun.symm)

end Gathered

/-- The value of a group is accepted. -/
def Group.IsRight (t : FileTree) (here : Location) : Group → Prop
  | setting s value => s.Accepts t here value
  | dryRun => True

namespace Gathered

/-- **A group is settled** if its option is not and its value is accepted. -/
theorem take_ok_iff {group : Group} :
    g.take (t.kindOf here) group = .ok g' ↔
      g.holds group.item = false ∧ group.IsRight t here ∧ g.Collects [group] g' := by
  cases group with
  | setting s value =>
    rw [take, settle_ok_iff]
    simp only [Group.item, Group.IsRight, holds, Option.isSome_eq_false_iff, Option.isNone_iff_eq_none]
    refine and_congr_right fun hv => and_congr_right fun _ => ?_
    have hor : ∀ s', (g.value? s').or (given s' [.setting s value]) =
        if s' = s then some value else g.value? s' := by
      intro s'
      by_cases hs : s' = s
      · simp [hs, hv, given]
      · simp [hs, Ne.symm hs, given]
    have hd : (g.dryRun || decide (Group.dryRun ∈ [.setting s value])) = g.dryRun := by simp
    constructor
    · rintro ⟨h₁, h₂⟩
      exact ⟨fun s' => (h₁ s').trans (hor s').symm, h₂.trans hd.symm⟩
    · rintro ⟨h₁, h₂⟩
      exact ⟨fun s' => (h₁ s').trans (hor s'), h₂.trans hd⟩
  | dryRun =>
    have hc : g.Collects [.dryRun] { g with dryRun := true } :=
      ⟨fun s => by cases s <;> simp [value?, given], by simp⟩
    rw [take]
    simp only [Group.item, Group.IsRight, holds, true_and]
    cases g.dryRun with
    | true => simp
    | false =>
      simp only [Bool.false_eq_true, if_false, Except.ok.injEq, true_and]
      exact ⟨fun h => h ▸ hc, fun h => hc.unique h⟩

/-- An option is settled after a group if it was before or is that of the group. -/
theorem Collects.holds {group : Group} (h : g.Collects [group] g') (item : Item) :
    g'.holds item = (g.holds item || decide (item = group.item)) := by
  rcases item with s | (_ | _ | _)
  · rw [Gathered.holds, h.value, Option.isSome_or, Gathered.holds]
    congr 1
    cases group with
    | setting s' value =>
      by_cases hs : s' = s
      · simp [given, Group.item, hs]
      · simp [given, Group.item, hs, Ne.symm hs]
    | dryRun => rfl
  · rw [Gathered.holds, h.dryRun, Gathered.holds]
    congr 1
    cases group <;> simp [Group.item]
  · cases group <;> rfl
  · cases group <;> rfl

/-- What a first group collects and what the others collect then. -/
theorem collects_cons_iff {group : Group} {groups : List Group} {g₁ : Gathered}
    (h : g.Collects [group] g₁) : g₁.Collects groups g' ↔ g.Collects (group :: groups) g' := by
  have hv : ∀ s, (g₁.value? s).or (given s groups) =
      (g.value? s).or (given s (group :: groups)) := by
    intro s
    rw [h.value, given_cons s group groups, Option.or_assoc]
  have hd : (g₁.dryRun || decide (.dryRun ∈ groups)) =
      (g.dryRun || decide (.dryRun ∈ group :: groups)) := by
    rw [h.dryRun, Bool.or_assoc]
    congr 1
    simp only [List.mem_cons, List.not_mem_nil, or_false, Bool.decide_or]
  constructor
  · rintro ⟨h₁, h₂⟩
    exact ⟨fun s => (h₁ s).trans (hv s), h₂.trans hd⟩
  · rintro ⟨h₁, h₂⟩
    exact ⟨fun s => (h₁ s).trans (hv s).symm, h₂.trans hd.symm⟩

/-- Groups are taken one after the other. -/
theorem takeAll_cons_ok_iff {group : Group} {groups : List Group} :
    g.takeAll (t.kindOf here) (group :: groups) = .ok g' ↔
      ∃ g₁, g.take (t.kindOf here) group = .ok g₁ ∧
        g₁.takeAll (t.kindOf here) groups = .ok g' := by
  rw [takeAll]
  cases g.take (t.kindOf here) group <;> simp

/-- A group that is right, for an item that is not held yet, can be taken. -/
theorem exists_take {group : Group} (hf : g.holds group.item = false)
    (hr : group.IsRight t here) : ∃ g', g.take (t.kindOf here) group = .ok g' := by
  cases group with
  | setting s value =>
    obtain ⟨g', h, -⟩ := exists_assign g hr
    have hn : value.isEmpty = false := by simpa using hr.1
    refine ⟨g', ?_⟩
    rw [take, settle, has_eq, show (g.value? s).isSome = false from hf, hn]
    exact h
  | dryRun =>
    refine ⟨{ g with dryRun := true }, ?_⟩
    rw [take, show g.dryRun = false from hf]
    rfl

/-- What settling groups takes, and what it collects. -/
theorem collects_of_takeAll {groups : List Group}
    (h : g.takeAll (t.kindOf here) groups = .ok g') :
    (groups.map Group.item).Nodup ∧
      (∀ group ∈ groups, g.holds group.item = false ∧ group.IsRight t here) ∧
      g.Collects groups g' := by
  induction groups generalizing g with
  | nil =>
    cases h
    exact ⟨List.nodup_nil, nofun, fun s => by simp [given], by simp⟩
  | cons group groups ih =>
    obtain ⟨g₁, h₁, h⟩ := takeAll_cons_ok_iff.1 h
    obtain ⟨hf, hr, hc⟩ := take_ok_iff.1 h₁
    obtain ⟨hnd, hall, hc'⟩ := ih h
    rw [List.map_cons, List.nodup_cons]
    refine ⟨⟨?_, hnd⟩, ?_, (collects_cons_iff hc).1 hc'⟩
    · intro hm
      obtain ⟨group', hm', he⟩ := List.mem_map.1 hm
      have hf' := (hall group' hm').1
      rw [hc.holds, he] at hf'
      simp at hf'
    · intro group' hm
      rcases List.mem_cons.1 hm with rfl | hm
      · exact ⟨hf, hr⟩
      · obtain ⟨hf', hr'⟩ := hall group' hm
        rw [hc.holds, Bool.or_eq_false_iff] at hf'
        exact ⟨hf'.1, hr'⟩

/-- Groups that are right and for different items, none of which is held yet, can all be taken. -/
theorem exists_takeAll {groups : List Group} (hnd : (groups.map Group.item).Nodup)
    (hall : ∀ group ∈ groups, g.holds group.item = false ∧ group.IsRight t here) :
    ∃ g', g.takeAll (t.kindOf here) groups = .ok g' := by
  induction groups generalizing g with
  | nil => exact ⟨g, rfl⟩
  | cons group groups ih =>
    rw [List.map_cons, List.nodup_cons] at hnd
    obtain ⟨hm, hnd⟩ := hnd
    obtain ⟨hf, hr⟩ := hall group (List.mem_cons_self ..)
    obtain ⟨g₁, h₁⟩ := exists_take hf hr
    obtain ⟨-, -, hc⟩ := take_ok_iff.1 h₁
    obtain ⟨g', h⟩ : ∃ g', g₁.takeAll (t.kindOf here) groups = .ok g' := by
      refine ih hnd fun group' hm' => ?_
      obtain ⟨hf', hr'⟩ := hall group' (List.mem_cons_of_mem _ hm')
      refine ⟨?_, hr'⟩
      rw [hc.holds, hf', Bool.false_or, decide_eq_false_iff_not]
      intro he
      exact hm (he ▸ List.mem_map_of_mem hm')
    exact ⟨g', takeAll_cons_ok_iff.2 ⟨g₁, h₁, h⟩⟩

end Gathered
end Arguments
end DockerMatrix
