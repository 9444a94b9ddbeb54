/-
# The grammar of the command line

A command line that is accepted is a concatenation of groups, which a `--` may follow.  A group is a
setting with its value or the switch for a dry run, in one of these spellings.

| group | spellings |
| --- | --- |
| a setting with a letter | `-LETTERVALUE`, `-LETTER=VALUE`, `-LETTER VALUE` |
| any setting | `--NAME=VALUE`, `--NAME VALUE` |
| a dry run | `--dry-run` |

`read_cons_ok_iff` says what reading does with an argument if it does not stop there; it is the only
place where the bytes of an argument are looked at.  No two lists of groups have a spelling in common
(`Spells.unique`), so what the arguments say is one thing.
-/

import DockerMatrix.Arguments.Read
import DockerMatrix.Proofs.Text.Utf8

namespace DockerMatrix
namespace Arguments

open Text (Bytes)

/-! ## Groups -/

/-- The letter of an option with its dash. -/
def short (letter : Char) : Bytes := Text.encode (String.ofList ['-', letter])

/-- The name of an option with its dashes. -/
def long (name : String) : Bytes := Text.encode ("--" ++ name)

/-- The argument that ends the options. -/
def terminator : Bytes := Text.encode "--"

/-- Bytes that can stand as a value behind an option: they begin with no dash, or are a dash. -/
def StandsAlone (value : Bytes) : Prop := value.head? ≠ some dash ∨ value = [dash]

/-- An argument that names a setting, and the value attached to it if there is one.  A value that
follows the letter at once has a first byte, and that is not `=`. -/
inductive Opens (s : Setting) : Bytes → Option Bytes → Prop
  | letter (c : Char) (hc : s.letter? = some c) : Opens s (short c) none
  | glued (c : Char) (hc : s.letter? = some c) (b : UInt8) (rest : Bytes) (hb : b ≠ equals) :
      Opens s (short c ++ b :: rest) (some (b :: rest))
  | letterEquals (c : Char) (hc : s.letter? = some c) (value : Bytes) :
      Opens s (short c ++ equals :: value) (some value)
  | name : Opens s (long s.name) none
  | nameEquals (value : Bytes) : Opens s (long s.name ++ equals :: value) (some value)

/-- A setting with its value, or the switch for a dry run. -/
inductive Group
  | setting (s : Setting) (value : Bytes)
  | dryRun
  deriving DecidableEq, Repr

/-- The option of a group. -/
def Group.item : Group → Item
  | setting s _ => .setting s
  | dryRun => .switch .dryRun

/-- The spellings of a group. -/
inductive Group.Spelled : Group → List Bytes → Prop
  | attached {s : Setting} {argument value : Bytes} (h : Opens s argument (some value)) :
      Spelled (.setting s value) [argument]
  | separate {s : Setting} {argument value : Bytes} (h : Opens s argument none)
      (hv : StandsAlone value) : Spelled (.setting s value) [argument, value]
  | dryRun : Spelled .dryRun [long Switch.dryRun.name]

/-- The command lines that are made of groups. -/
inductive Spells : List Group → List Bytes → Prop
  | nil : Spells [] []
  | terminator : Spells [] [terminator]
  | cons {group : Group} {groups : List Group} {spelling arguments : List Bytes}
      (hg : group.Spelled spelling) (h : Spells groups arguments) :
      Spells (group :: groups) (spelling ++ arguments)

/-! ## Names and letters -/

/-- A name is looked up as the item that bears it. -/
theorem Item.ofName?_eq_some_iff {name : String} {item : Item} :
    Item.ofName? name = some item ↔ name = item.name := by
  constructor
  · intro h
    have hp := List.find?_some h
    exact (of_decide_eq_true hp).symm
  · rintro rfl
    rcases item with (_ | _ | _ | _ | _) | (_ | _ | _) <;> decide

/-- A letter is looked up as the item that bears it. -/
theorem Item.ofLetter?_eq_some_iff {c : Char} {item : Item} :
    Item.ofLetter? c = some item ↔ item.letter? = some c := by
  constructor
  · intro h
    have hp := List.find?_some h
    exact of_decide_eq_true hp
  · intro h
    rcases item with (_ | _ | _ | _ | _) | (_ | _ | _) <;> cases h <;> decide

/-- The option of the name that bytes are. -/
theorem ofName?_decode?_eq_some_iff {name : Bytes} {item : Item} :
    (Text.decode? name).bind Item.ofName? = some item ↔ name = Text.encode item.name := by
  rw [Option.bind_eq_some_iff]
  constructor
  · rintro ⟨s, hs, hn⟩
    rw [← Item.ofName?_eq_some_iff.1 hn]
    exact Text.decode?_eq_some_iff.1 hs
  · rintro rfl
    exact ⟨_, Text.decode?_encode _, Item.ofName?_eq_some_iff.2 rfl⟩

/-- No item has an equals sign in its name. -/
theorem equals_notMem_name (item : Item) : equals ∉ Text.encode item.name := by
  rcases item with (_ | _ | _ | _ | _) | (_ | _ | _) <;> decide

/-- A long option is two dashes and its name. -/
theorem long_eq (name : String) : long name = dash :: dash :: Text.encode name := by
  rw [long, Text.encode, String.toList_append, List.flatMap_append]
  rfl

/-- The letter of an option is one byte. -/
theorem short_eq {item : Item} {c : Char} (h : item.letter? = some c) :
    short c = [dash, UInt8.ofNat c.toNat] ∧ UInt8.ofNat c.toNat ≠ dash ∧
      Char.ofNat (UInt8.ofNat c.toNat).toNat = c := by
  rcases item with (_ | _ | _ | _ | _) | (_ | _ | _) <;> cases h <;> decide

/-! ## Forms of arguments -/

/-- Bytes are split at their first equals sign, or not at all where there is none. -/
theorem splitAtEquals_eq_iff {bytes name : Bytes} {attached : Option Bytes} :
    splitAtEquals bytes = (name, attached) ↔ equals ∉ name ∧
      bytes = name ++ match attached with | none => [] | some value => equals :: value := by
  induction bytes generalizing name with
  | nil =>
    rw [splitAtEquals, Prod.mk.injEq]
    constructor
    · rintro ⟨rfl, rfl⟩
      exact ⟨List.not_mem_nil, rfl⟩
    · rintro ⟨-, h⟩
      cases attached <;> simp_all
  | cons b rest ih =>
    rw [splitAtEquals]
    by_cases hb : b = equals
    · rw [if_pos hb, Prod.mk.injEq]
      constructor
      · rintro ⟨rfl, rfl⟩
        exact ⟨List.not_mem_nil, by rw [hb]; rfl⟩
      · rintro ⟨hn, h⟩
        cases name with
        | nil => cases attached <;> simp_all
        | cons b' name =>
          rw [List.cons_append, List.cons.injEq] at h
          exact absurd (List.mem_cons.2 (Or.inl (hb.symm.trans h.1))) hn
    · rw [if_neg hb]
      cases name with
      | nil =>
        refine ⟨nofun, ?_⟩
        rintro ⟨-, h⟩
        cases attached <;> simp_all
      | cons b' name =>
        simp only [Prod.mk.injEq, List.cons.injEq, List.mem_cons, not_or, List.cons_append]
        constructor
        · rintro ⟨⟨rfl, h₁⟩, h₂⟩
          obtain ⟨hn, h⟩ := ih.1 (Prod.ext h₁ h₂)
          exact ⟨⟨Ne.symm hb, hn⟩, rfl, h⟩
        · rintro ⟨⟨-, hn⟩, rfl, h⟩
          have he := ih.2 ⟨hn, h⟩
          rw [he]
          exact ⟨⟨rfl, rfl⟩, rfl⟩

/-- An argument that stands alone is plain. -/
theorem ofBytes_plain {argument : Bytes} (h : StandsAlone argument) :
    Token.ofBytes argument = .plain argument := by
  match argument, h with
  | [], _ => rfl
  | [_], _ => rfl
  | b :: c :: rest, h =>
    have hb : b ≠ dash := by
      rintro rfl
      rcases h with h | h
      · exact h rfl
      · cases h
    rw [Token.ofBytes, if_neg hb]

/-- One dash introduces letters. -/
theorem ofBytes_dash {b : UInt8} (hb : b ≠ dash) (rest : Bytes) :
    Token.ofBytes (dash :: b :: rest) = .lettered (b :: rest) := by
  rw [Token.ofBytes, if_pos rfl, if_neg hb]

/-- Two dashes introduce a name, and a value behind an equals sign. -/
theorem ofBytes_dash_dash (b : UInt8) (rest : Bytes) :
    Token.ofBytes (dash :: dash :: b :: rest) =
      .named (splitAtEquals (b :: rest)).1 (splitAtEquals (b :: rest)).2 := rfl

/-- Two dashes alone are the terminator. -/
theorem ofBytes_terminator : Token.ofBytes terminator = .terminator := by decide

/-- An argument stands alone, or it begins with one dash or with two. -/
theorem argument_cases (argument : Bytes) :
    StandsAlone argument ∨ argument = terminator ∨
      (∃ b rest, argument = dash :: b :: rest ∧ b ≠ dash) ∨
      ∃ b rest, argument = dash :: dash :: b :: rest := by
  match argument with
  | [] => exact Or.inl (Or.inl nofun)
  | [b] =>
    by_cases hb : b = dash
    · exact Or.inl (Or.inr (by rw [hb]))
    · exact Or.inl (Or.inl (by simpa using hb))
  | b :: c :: rest =>
    by_cases hb : b = dash
    swap
    · exact Or.inl (Or.inl (by simpa using hb))
    by_cases hc : c = dash
    swap
    · exact Or.inr (Or.inr (Or.inl ⟨c, rest, by rw [hb], hc⟩))
    cases rest with
    | nil => exact Or.inr (Or.inl (by rw [hb, hc]; decide))
    | cons d rest => exact Or.inr (Or.inr (Or.inr ⟨d, rest, by rw [hb, hc]⟩))

/-- The value that the bytes behind a letter are. -/
def attachedTo : Bytes → Option Bytes
  | [] => none
  | b :: rest => some (if b = equals then rest else b :: rest)

/-- A setting is named by two dashes and its name. -/
theorem opens_dash_dash_iff {s : Setting} {rest : Bytes} {attached : Option Bytes} :
    Opens s (dash :: dash :: rest) attached ↔
      splitAtEquals rest = (Text.encode s.name, attached) := by
  rw [splitAtEquals_eq_iff]
  constructor
  · intro h
    refine ⟨equals_notMem_name (.setting s), ?_⟩
    generalize ha : dash :: dash :: rest = argument at h
    have hshort : ∀ c bytes, s.letter? = some c → dash :: dash :: rest ≠ short c ++ bytes := by
      intro c bytes hc he
      obtain ⟨hs, hne, -⟩ := @short_eq (.setting s) c hc
      rw [hs] at he
      simp only [List.cons_append, List.cons.injEq] at he
      exact hne he.2.1.symm
    cases h with
    | letter c hc => exact absurd (ha.trans (List.append_nil _).symm) (hshort c [] hc)
    | glued c hc b rest hb => exact absurd ha (hshort c _ hc)
    | letterEquals c hc value => exact absurd ha (hshort c _ hc)
    | name =>
      rw [long_eq, List.cons.injEq, List.cons.injEq] at ha
      rw [ha.2.2, List.append_nil]
    | nameEquals value =>
      rw [long_eq, List.cons_append, List.cons_append, List.cons.injEq, List.cons.injEq] at ha
      exact ha.2.2
  · rintro ⟨-, rfl⟩
    have hl := long_eq s.name
    cases attached with
    | none =>
      rw [List.append_nil, ← hl]
      exact .name
    | some value =>
      rw [← List.cons_append, ← List.cons_append, ← hl]
      exact .nameEquals value

/-- A setting is named by a dash and its letter. -/
theorem opens_dash_iff {s : Setting} {b : UInt8} (hb : b ≠ dash) {rest : Bytes}
    {attached : Option Bytes} :
    Opens s (dash :: b :: rest) attached ↔
      s.letter? = some (Char.ofNat b.toNat) ∧ attached = attachedTo rest := by
  constructor
  · intro h
    generalize ha : dash :: b :: rest = argument at h
    have hshort : ∀ c bytes, s.letter? = some c → dash :: b :: rest = short c ++ bytes →
        s.letter? = some (Char.ofNat b.toNat) ∧ bytes = rest := by
      intro c bytes hc he
      obtain ⟨hs, -, hchar⟩ := @short_eq (.setting s) c hc
      rw [hs] at he
      simp only [List.cons_append, List.cons.injEq] at he
      obtain ⟨-, rfl, rfl⟩ := he
      exact ⟨by rw [hchar, hc], rfl⟩
    cases h with
    | letter c hc =>
      obtain ⟨h, rfl⟩ := hshort c [] hc (ha.trans (List.append_nil _).symm)
      exact ⟨h, rfl⟩
    | glued c hc b' rest' hb' =>
      obtain ⟨h, rfl⟩ := hshort c _ hc ha
      exact ⟨h, by rw [attachedTo, if_neg hb']⟩
    | letterEquals c hc value =>
      obtain ⟨h, rfl⟩ := hshort c _ hc ha
      exact ⟨h, by rw [attachedTo, if_pos rfl]⟩
    | name =>
      rw [long_eq, List.cons.injEq, List.cons.injEq] at ha
      exact absurd ha.2.1 hb
    | nameEquals value =>
      rw [long_eq, List.cons_append, List.cons_append, List.cons.injEq, List.cons.injEq] at ha
      exact absurd ha.2.1 hb
  · rintro ⟨hc, rfl⟩
    have hs : short (Char.ofNat b.toNat) = [dash, b] := by
      have hlt : b.toNat < 256 := b.toNat_lt
      rw [(@short_eq (.setting s) _ hc).1, Text.toNat_ofNat (Or.inl (by omega)),
        UInt8.ofNat_toNat]
    cases rest with
    | nil =>
      rw [← hs]
      exact .letter _ hc
    | cons d rest =>
      rw [attachedTo]
      split_ifs with hd
      · have h := Opens.letterEquals _ hc rest
        rw [hs] at h
        rw [hd]
        exact h
      · have h := Opens.glued _ hc d rest hd
        rw [hs] at h
        exact h

/-- A setting is named behind a dash. -/
theorem Opens.exists_eq {s : Setting} {argument : Bytes} {attached : Option Bytes}
    (h : Opens s argument attached) : ∃ b rest, argument = dash :: b :: rest := by
  have hs : ∀ c, s.letter? = some c → ∃ b, short c = [dash, b] := fun c hc =>
    ⟨_, (@short_eq (.setting s) c hc).1⟩
  cases h with
  | letter c hc =>
    obtain ⟨b, hb⟩ := hs c hc
    exact ⟨b, [], hb⟩
  | glued c hc b' rest hb' =>
    obtain ⟨b, hb⟩ := hs c hc
    exact ⟨b, b' :: rest, by rw [hb]; rfl⟩
  | letterEquals c hc value =>
    obtain ⟨b, hb⟩ := hs c hc
    exact ⟨b, equals :: value, by rw [hb]; rfl⟩
  | name => exact ⟨dash, _, long_eq s.name⟩
  | nameEquals value => exact ⟨dash, _, by rw [long_eq]; rfl⟩

/-! ## One reading -/

/-- Settings have different names. -/
theorem Setting.name_injective : Function.Injective Setting.name := by
  intro s s' h
  cases s <;> cases s' <;> first | rfl | exact absurd h (by decide)

/-- **An argument names one setting**, and it does so in one way. -/
theorem Opens.unique {s s' : Setting} {argument : Bytes} {attached attached' : Option Bytes}
    (h : Opens s argument attached) (h' : Opens s' argument attached') :
    s = s' ∧ attached = attached' := by
  obtain ⟨b, rest, rfl⟩ := h.exists_eq
  by_cases hb : b = dash
  · subst hb
    have he := (opens_dash_dash_iff.1 h).symm.trans (opens_dash_dash_iff.1 h')
    rw [Prod.mk.injEq] at he
    exact ⟨Setting.name_injective (Text.encode_injective he.1), he.2⟩
  · obtain ⟨hc, rfl⟩ := (opens_dash_iff hb).1 h
    obtain ⟨hc', rfl⟩ := (opens_dash_iff hb).1 h'
    have hs := hc.trans hc'.symm
    refine ⟨?_, rfl⟩
    cases s <;> cases s' <;> first | rfl | cases hc | cases hc' | exact absurd hs (by decide)

/-- What opens an option is not the terminator. -/
theorem Opens.ne_terminator {s : Setting} {argument : Bytes} {attached : Option Bytes}
    (h : Opens s argument attached) : argument ≠ terminator := by
  rintro rfl
  have hname : (splitAtEquals []).1 = Text.encode s.name :=
    congrArg Prod.fst (opens_dash_dash_iff.1 h)
  cases s <;> exact absurd hname (by decide)

/-- What opens an option is not the switch for a dry run. -/
theorem Opens.ne_dryRun {s : Setting} {argument : Bytes} {attached : Option Bytes}
    (h : Opens s argument attached) : argument ≠ long Switch.dryRun.name := by
  rintro rfl
  rw [long_eq] at h
  have hname : (splitAtEquals (Text.encode Switch.dryRun.name)).1 = Text.encode s.name :=
    congrArg Prod.fst (opens_dash_dash_iff.1 h)
  cases s <;> exact absurd hname (by decide)

/-- No arguments are spelled by no groups, and by nothing else. -/
theorem spells_nil_iff {groups : List Group} : Spells groups [] ↔ groups = [] := by
  constructor
  · intro h
    generalize ha : [] = arguments at h
    cases h with
    | nil => rfl
    | terminator => cases ha
    | cons hg => cases hg <;> cases ha
  · rintro rfl
    exact .nil

/-- **How groups begin**, by the first argument that spells them. -/
theorem spells_cons_iff {groups : List Group} {argument : Bytes} {rest : List Bytes} :
    Spells groups (argument :: rest) ↔
      argument = terminator ∧ rest = [] ∧ groups = [] ∨
      (∃ s value groups', Opens s argument (some value) ∧ Spells groups' rest ∧
        groups = .setting s value :: groups') ∨
      (∃ s value rest' groups', Opens s argument none ∧ StandsAlone value ∧ rest = value :: rest' ∧
        Spells groups' rest' ∧ groups = .setting s value :: groups') ∨
      ∃ groups', argument = long Switch.dryRun.name ∧ Spells groups' rest ∧
        groups = .dryRun :: groups' := by
  constructor
  · intro h
    generalize ha : argument :: rest = arguments at h
    cases h with
    | nil => cases ha
    | terminator =>
      cases ha
      exact Or.inl ⟨rfl, rfl, rfl⟩
    | cons hg h =>
      cases hg with
      | attached ho =>
        cases ha
        exact Or.inr (Or.inl ⟨_, _, _, ho, h, rfl⟩)
      | separate ho hv =>
        cases ha
        exact Or.inr (Or.inr (Or.inl ⟨_, _, _, _, ho, hv, rfl, h, rfl⟩))
      | dryRun =>
        cases ha
        exact Or.inr (Or.inr (Or.inr ⟨_, rfl, h, rfl⟩))
  · rintro (⟨rfl, rfl, rfl⟩ | ⟨s, value, groups', ho, h, rfl⟩ |
      ⟨s, value, rest', groups', ho, hv, rfl, h, rfl⟩ | ⟨groups', rfl, h, rfl⟩)
    · exact .terminator
    · exact .cons (.attached ho) h
    · exact .cons (.separate ho hv) h
    · exact .cons .dryRun h

/-- **The grammar is unambiguous**: arguments are spelled by one list of groups. -/
theorem Spells.unique {groups groups' : List Group} {arguments : List Bytes}
    (h : Spells groups arguments) (h' : Spells groups' arguments) : groups = groups' := by
  induction h generalizing groups' with
  | nil => exact (spells_nil_iff.1 h').symm
  | terminator =>
    obtain ⟨-, -, rfl⟩ | ⟨_, _, _, ho, -⟩ | ⟨_, _, _, _, ho, -⟩ | ⟨_, hd, -⟩ := spells_cons_iff.1 h'
    · rfl
    · exact absurd rfl ho.ne_terminator
    · exact absurd rfl ho.ne_terminator
    · exact absurd hd (by decide)
  | cons hg _ ih =>
    cases hg with
    | attached ho =>
      obtain ⟨rfl, -⟩ | ⟨_, _, _, ho', hrest, rfl⟩ | ⟨_, _, _, _, ho', -⟩ | ⟨_, rfl, -⟩ :=
        spells_cons_iff.1 h'
      · exact absurd rfl ho.ne_terminator
      · obtain ⟨rfl, hv⟩ := ho.unique ho'
        rw [Option.some.inj hv, ih hrest]
      · cases (ho.unique ho').2
      · exact absurd rfl ho.ne_dryRun
    | separate ho hv =>
      obtain ⟨rfl, -⟩ | ⟨_, _, _, ho', -⟩ | ⟨_, _, _, _, ho', -, he, hrest, rfl⟩ | ⟨_, rfl, -⟩ :=
        spells_cons_iff.1 h'
      · exact absurd rfl ho.ne_terminator
      · cases (ho.unique ho').2
      · obtain ⟨rfl, -⟩ := ho.unique ho'
        obtain ⟨rfl, rfl⟩ := List.cons.inj he
        rw [ih hrest]
      · exact absurd rfl ho.ne_dryRun
    | dryRun =>
      obtain ⟨hd, -⟩ | ⟨_, _, _, ho', -⟩ | ⟨_, _, _, _, ho', -⟩ | ⟨_, -, hrest, rfl⟩ :=
        spells_cons_iff.1 h'
      · exact absurd hd (by decide)
      · exact absurd rfl ho'.ne_dryRun
      · exact absurd rfl ho'.ne_dryRun
      · rw [ih hrest]

/-! ## What reading does with an argument -/

namespace Progress

variable {kindOf : Path → PathKind} {p p' q : Progress} {argument : Bytes} {rest : List Bytes}

/-- **What a setting leads to**: the pending one is settled, and the value attached is too. -/
theorem setting_ok_iff {s : Setting} {attached : Option Bytes} :
    p.setting kindOf s attached = .ok p' ↔ ∃ g, p.settled kindOf = .ok g ∧
      match attached with
      | none => p' = ⟨g, some (s, none)⟩
      | some value => ∃ g', g.settle kindOf s (some value) = .ok g' ∧ p' = ⟨g', none⟩ := by
  unfold setting
  cases p.settled kindOf with
  | error e => simp
  | ok g =>
    cases attached with
    | none => simp [eq_comm]
    | some value =>
      simp only [Except.ok.injEq, exists_eq_left']
      cases g.settle kindOf s (some value) <;> simp [Except.map, eq_comm]

/-- **What a switch leads to**: of the three, only the one for a dry run goes on. -/
theorem switch_ok_iff {w : Switch} {extent : Extent} :
    p.switch kindOf w extent = .ok p' ↔ w = .dryRun ∧ ∃ g, p.settled kindOf = .ok g ∧
      g.dryRun = false ∧ p' = ⟨{ g with dryRun := true }, none⟩ := by
  unfold switch
  cases p.settled kindOf with
  | error e => simp
  | ok g =>
    cases w with
    | dryRun =>
      simp only [Except.ok.injEq, exists_eq_left', true_and]
      cases hd : g.dryRun <;> simp [eq_comm]
    | help => simp
    | version => simp

/-- A name goes on if it is that of a setting, or that of the switch without a value. -/
theorem named_ok_iff {name : Bytes} {attached : Option Bytes} :
    p.named kindOf name attached = .ok p' ↔
      (∃ s : Setting, name = Text.encode s.name ∧ p.setting kindOf s attached = .ok p') ∨
        name = Text.encode Switch.dryRun.name ∧ attached = none ∧
          p.switch kindOf .dryRun .long = .ok p' := by
  unfold named
  constructor
  · intro h
    cases hn : (Text.decode? name).bind Item.ofName? with
    | none =>
      rw [hn] at h
      cases h
    | some item =>
      rw [hn] at h
      have he := ofName?_decode?_eq_some_iff.1 hn
      rcases item with s | w
      · exact Or.inl ⟨s, he, h⟩
      · cases attached with
        | some value => cases h
        | none =>
          obtain ⟨rfl, -⟩ := switch_ok_iff.1 h
          exact Or.inr ⟨he, rfl, h⟩
  · rintro (⟨s, rfl, h⟩ | ⟨rfl, rfl, h⟩)
    · have hn := (@ofName?_decode?_eq_some_iff (Text.encode s.name) (.setting s)).2 rfl
      rw [hn]
      exact h
    · have hn := (@ofName?_decode?_eq_some_iff (Text.encode Switch.dryRun.name) (.switch .dryRun)).2 rfl
      rw [hn]
      exact h

/-- Letters go on if the first one is that of a setting, whose value is attached behind it. -/
theorem lettered_ok_iff {b : UInt8} {letters : Bytes} :
    p.lettered kindOf (b :: letters) = .ok p' ↔
      ∃ s : Setting, s.letter? = some (Char.ofNat b.toNat) ∧
        p.setting kindOf s (attachedTo letters) = .ok p' := by
  rw [lettered]
  constructor
  · intro h
    cases hl : Item.ofLetter? (Char.ofNat b.toNat) with
    | none =>
      rw [hl] at h
      cases h
    | some item =>
      rw [hl] at h
      have hc := Item.ofLetter?_eq_some_iff.1 hl
      rcases item with s | w
      · refine ⟨s, hc, ?_⟩
        cases letters <;> exact h
      · obtain ⟨rfl, -⟩ := switch_ok_iff.1 h
        cases hc
  · rintro ⟨s, hc, h⟩
    rw [@Item.ofLetter?_eq_some_iff _ (.setting s) |>.2 hc]
    cases letters <;> exact h

/-- **What reading does with an argument**: it is the end of the options; it names a setting or the
switch for a dry run; or it is the value of the setting before it. -/
theorem read_cons_ok_iff :
    p.read kindOf (argument :: rest) = .ok q ↔
      argument = terminator ∧ rest = [] ∧ q = p ∨
      (∃ s attached p', Opens s argument attached ∧ p.setting kindOf s attached = .ok p' ∧
        p'.read kindOf rest = .ok q) ∨
      (∃ p', argument = long Switch.dryRun.name ∧ p.switch kindOf .dryRun .long = .ok p' ∧
        p'.read kindOf rest = .ok q) ∨
      ∃ s, StandsAlone argument ∧ p.pending = some (s, none) ∧
        read kindOf ⟨p.gathered, some (s, some argument)⟩ rest = .ok q := by
  constructor
  · intro h
    rcases argument_cases argument with ha | rfl | ⟨b, letters, rfl, hb⟩ | ⟨b, name, rfl⟩
    · simp only [read, ofBytes_plain ha] at h
      refine Or.inr (Or.inr (Or.inr ?_))
      rcases hp : p.pending with _ | ⟨s, _ | value⟩
      · simp [plain, hp] at h
      · refine ⟨s, ha, rfl, ?_⟩
        simpa [plain, hp] using h
      · simp [plain, hp] at h
    · simp only [read, ofBytes_terminator] at h
      cases rest with
      | nil => exact Or.inl ⟨rfl, rfl, (Except.ok.inj h).symm⟩
      | cons after rest => cases h
    · simp only [read, ofBytes_dash hb] at h
      cases hl : p.lettered kindOf (b :: letters) with
      | error e => simp [hl] at h
      | ok p' =>
        obtain ⟨s, hc, hs⟩ := lettered_ok_iff.1 hl
        simp only [hl] at h
        exact Or.inr (Or.inl ⟨s, _, p', (opens_dash_iff hb).2 ⟨hc, rfl⟩, hs, h⟩)
    · simp only [read, ofBytes_dash_dash] at h
      cases hn : p.named kindOf (splitAtEquals (b :: name)).1 (splitAtEquals (b :: name)).2 with
      | error e => simp [hn] at h
      | ok p' =>
        simp only [hn] at h
        rcases named_ok_iff.1 hn with ⟨s, he, hs⟩ | ⟨he, ha, hw⟩
        · exact Or.inr (Or.inl ⟨s, _, p', opens_dash_dash_iff.2 (Prod.ext he rfl), hs, h⟩)
        · refine Or.inr (Or.inr (Or.inl ⟨p', ?_, hw, h⟩))
          have hsplit : b :: name = Text.encode Switch.dryRun.name ++ [] :=
            (splitAtEquals_eq_iff.1 (Prod.ext he ha)).2
          rw [long_eq, ← List.append_nil (Text.encode Switch.dryRun.name), ← hsplit]
  · rintro (⟨rfl, rfl, rfl⟩ | ⟨s, attached, p', ho, hs, h⟩ | ⟨p', rfl, hw, h⟩ | ⟨s, ha, hp, h⟩)
    · simp only [read, ofBytes_terminator]
    · obtain ⟨b, bytes, rfl⟩ := ho.exists_eq
      by_cases hb : b = dash
      · subst hb
        have hsplit := opens_dash_dash_iff.1 ho
        cases bytes with
        | nil =>
          have hne : Text.encode s.name ≠ [] := by cases s <;> decide
          exact absurd (congrArg Prod.fst hsplit).symm hne
        | cons c bytes =>
          simp only [read, ofBytes_dash_dash, hsplit, named_ok_iff.2 (Or.inl ⟨s, rfl, hs⟩)]
          exact h
      · obtain ⟨hc, rfl⟩ := (opens_dash_iff hb).1 ho
        simp only [read, ofBytes_dash hb, lettered_ok_iff.2 ⟨s, hc, hs⟩]
        exact h
    · have hsplit : splitAtEquals (Text.encode Switch.dryRun.name) =
          (Text.encode Switch.dryRun.name, none) := by decide
      have hn := named_ok_iff.2 (Or.inr ⟨rfl, rfl, hw⟩)
      obtain ⟨b, name, hbn⟩ : ∃ b name, Text.encode Switch.dryRun.name = b :: name :=
        List.exists_cons_of_ne_nil (by decide)
      rw [hbn] at hsplit hn
      rw [long_eq, hbn]
      simp only [read, ofBytes_dash_dash, hsplit, hn]
      exact h
    · simp only [read, ofBytes_plain ha]
      simpa [plain, hp] using h

end Progress
end Arguments
end DockerMatrix
