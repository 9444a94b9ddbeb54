/-
# Variables written out as options

A setting that is not given falls back on its variable.  It makes no difference to write this out: to
put the option behind the arguments, with the variable's value attached, and to unset the variable
(`read_writtenOut`).  Reading then stops for the same reason, or what is asked for is the same.

| variable | set, and its option is not given | written out |
| --- | --- | --- |
| `OUTPUT_DIR` | to `VALUE` | `--output-dir=VALUE` |
| `LOG_LEVEL` | to `VALUE` | `--log-level=VALUE` |

The two take different ways.  An option behind the arguments settles the pending setting first, and
then it is settled itself.  A variable comes after the last argument, and only where its setting is
not settled.  But a setting is settled then if and only if an argument names it (`has_eq_isNamedIn`),
so the option does what the variable does (`settled_read_writtenOut`).
-/

import DockerMatrix.Proofs.Arguments.Accepted

namespace DockerMatrix
namespace Arguments

open Text (Bytes)

variable {kindOf : Path → PathKind} {t : FileTree} {here : Location} {env env' : Environment}
  {g : Gathered} {s : Setting} {p : Progress} {argument : Bytes} {arguments first : List Bytes}
  {group : Group} {groups : List Group}

/-! ## Arguments behind others -/

/-- Only `--` itself is read as the terminator. -/
theorem eq_terminator_of_ofBytes (h : Token.ofBytes argument = .terminator) :
    argument = terminator := by
  rcases argument_cases argument with ha | ha | ⟨b, rest, rfl, hb⟩ | ⟨b, rest, rfl⟩
  · rw [ofBytes_plain ha] at h
    cases h
  · exact ha
  · rw [ofBytes_dash hb] at h
    cases h
  · rw [ofBytes_dash_dash] at h
    cases h

/-- An argument that does not end the options is read on its own. -/
theorem Progress.read_cons (h : argument ≠ terminator) (p : Progress) (rest : List Bytes) :
    p.read kindOf (argument :: rest) =
      (p.read kindOf [argument]).bind fun q => q.read kindOf rest := by
  cases ha : Token.ofBytes argument with
  | terminator => exact absurd (eq_terminator_of_ofBytes ha) h
  | named name attached =>
    simp only [read, ha]
    cases p.named kindOf name attached <;> rfl
  | lettered letters =>
    simp only [read, ha]
    cases p.lettered kindOf letters <;> rfl
  | plain text =>
    simp only [read, ha]
    cases p.plain text <;> rfl

/-- **Arguments are read one part after the other**, if the first part does not end the options. -/
theorem Progress.read_append (h : terminator ∉ first) (p : Progress) (second : List Bytes) :
    p.read kindOf (first ++ second) =
      (p.read kindOf first).bind fun q => q.read kindOf second := by
  induction first generalizing p with
  | nil => rfl
  | cons argument rest ih =>
    obtain ⟨hne, hrest⟩ := not_or.1 (List.mem_cons.not.1 h)
    rw [List.cons_append, read_cons (Ne.symm hne), read_cons (Ne.symm hne) p rest]
    cases p.read kindOf [argument] with
    | error e => rfl
    | ok q => exact ih hrest q

/-! ## Options with their values attached -/

/-- The option of a setting with a value attached to it. -/
def Setting.option (s : Setting) (value : Bytes) : Bytes :=
  long s.name ++ equals :: value

/-- An option with its value attached is never the terminator. -/
theorem Setting.option_ne_terminator (s : Setting) (value : Bytes) :
    s.option value ≠ terminator :=
  (Opens.nameEquals value).ne_terminator

/-- An option with its value attached is read as its name and that value. -/
theorem Setting.ofBytes_option (s : Setting) (value : Bytes) :
    Token.ofBytes (s.option value) = .named (Text.encode s.name) (some value) := by
  have hsplit : splitAtEquals (Text.encode s.name ++ equals :: value) =
      (Text.encode s.name, some value) :=
    splitAtEquals_eq_iff.2 ⟨equals_notMem_name (.setting s), rfl⟩
  obtain ⟨b, name, hname⟩ : ∃ b name, Text.encode s.name = b :: name :=
    List.exists_cons_of_ne_nil (by cases s <;> decide)
  rw [hname, List.cons_append] at hsplit
  rw [Setting.option, long_eq, hname, List.cons_append, List.cons_append, List.cons_append,
    ofBytes_dash_dash, hsplit]

/-- An option is read as its setting with the value. -/
theorem Progress.read_option (p : Progress) (s : Setting) (value : Bytes) :
    p.read kindOf [s.option value] = p.setting kindOf s (some value) := by
  have hname := (@ofName?_decode?_eq_some_iff (Text.encode s.name) (.setting s)).2 rfl
  simp only [read, s.ofBytes_option, named, hname]
  cases p.setting kindOf s (some value) <;> rfl

/-- Whether a setting is named in arguments: one of them is `--NAME`, or begins with `--NAME=`. -/
def Setting.isNamedIn (s : Setting) (arguments : List Bytes) : Bool :=
  arguments.any fun argument =>
    argument == long s.name || (long s.name ++ [equals]).isPrefixOf argument

/-- A single argument names a setting without a letter if and only if it opens the setting's option.
-/
theorem Setting.isNamedIn_singleton_iff (hs : s.letter? = none) :
    s.isNamedIn [argument] = true ↔ ∃ attached, Opens s argument attached := by
  have hiff : s.isNamedIn [argument] = true ↔
      argument = long s.name ∨ long s.name ++ [equals] <+: argument := by
    simp [isNamedIn]
  rw [hiff]
  constructor
  · rintro (rfl | ⟨value, rfl⟩)
    · exact ⟨none, .name⟩
    · rw [List.append_assoc]
      exact ⟨some value, .nameEquals value⟩
  · rintro ⟨attached, ho⟩
    cases ho with
    | letter c hc => exact absurd hc (by simp [hs])
    | glued c hc => exact absurd hc (by simp [hs])
    | letterEquals c hc => exact absurd hc (by simp [hs])
    | name => exact Or.inl rfl
    | nameEquals value => exact Or.inr ⟨value, by rw [List.append_assoc]; rfl⟩

/-- A setting is named in arguments if it is in their first or their second part. -/
theorem Setting.isNamedIn_append (s : Setting) (first second : List Bytes) :
    s.isNamedIn (first ++ second) = (s.isNamedIn first || s.isNamedIn second) :=
  List.any_append

/-- An argument that opens a setting names this one and no other. -/
theorem Setting.isNamedIn_of_opens {s' : Setting} {attached : Option Bytes}
    (hs : s.letter? = none) (ho : Opens s' argument attached) :
    s.isNamedIn [argument] = decide (s' = s) := by
  rw [Bool.eq_iff_iff, isNamedIn_singleton_iff hs, decide_eq_true_iff]
  constructor
  · rintro ⟨_, ho'⟩
    exact (ho.unique ho').1
  · rintro rfl
    exact ⟨attached, ho⟩

/-- An argument that does not open the option does not name the setting. -/
theorem Setting.isNamedIn_eq_false (hs : s.letter? = none)
    (h : ∀ attached, ¬Opens s argument attached) : s.isNamedIn [argument] = false := by
  rw [← Bool.not_eq_true, isNamedIn_singleton_iff hs]
  rintro ⟨attached, ho⟩
  exact h attached ho

/-- An argument that stands alone opens no option. -/
theorem StandsAlone.not_opens (h : StandsAlone argument) (attached : Option Bytes) :
    ¬Opens s argument attached := by
  intro ho
  obtain ⟨b, rest, rfl⟩ := ho.exists_eq
  rcases h with h | h
  · exact h rfl
  · cases h

/-- A single group gives a value to its own setting and to no other. -/
theorem isSome_given_singleton (s s' : Setting) (value : Bytes) :
    (given s [.setting s' value]).isSome = decide (s' = s) := by
  by_cases h : s' = s <;> simp [given, h]

/-- The spelling of a group names a setting if and only if the group gives it a value. -/
theorem isNamedIn_eq_of_spelled (hs : s.letter? = none) (hg : group.Spelled arguments) :
    s.isNamedIn arguments = (given s [group]).isSome := by
  cases hg with
  | attached ho => rw [Setting.isNamedIn_of_opens hs ho, isSome_given_singleton]
  | @separate _ argument value ho hv =>
    have hvalue : s.isNamedIn [value] = false := Setting.isNamedIn_eq_false hs hv.not_opens
    rw [← List.singleton_append, Setting.isNamedIn_append, hvalue, Bool.or_false,
      Setting.isNamedIn_of_opens hs ho, isSome_given_singleton]
  | dryRun => exact Setting.isNamedIn_eq_false hs fun _ ho => ho.ne_dryRun rfl

/-- A setting is named in arguments if and only if their groups give it a value. -/
theorem isNamedIn_eq_of_spells (hs : s.letter? = none) (h : Spells groups arguments) :
    s.isNamedIn arguments = (given s groups).isSome := by
  induction h with
  | nil => rfl
  | terminator => exact Setting.isNamedIn_eq_false hs fun _ ho => ho.ne_terminator rfl
  | @cons group groups _ _ hg _ ih =>
    rw [Setting.isNamedIn_append, isNamedIn_eq_of_spelled hs hg, ih, given_cons s group groups,
      Option.isSome_or]

/-- **A setting is settled if and only if an argument names it**, once the arguments are read. -/
theorem has_eq_isNamedIn (hs : s.letter? = none)
    (h : ∃ q, Progress.start.read (t.kindOf here) arguments = .ok q ∧
      q.settled (t.kindOf here) = .ok g) : g.has s = s.isNamedIn arguments := by
  obtain ⟨groups, hspell, -⟩ := read_settled_iff.1 h
  rw [Gathered.has_eq, value?_of_settled hspell h, isNamedIn_eq_of_spells hs hspell]

/-! ## Writing out -/

/-- The option that a variable stands for, if it is set and no argument names the setting. -/
def Setting.writtenOut (s : Setting) (env : Environment) (arguments : List Bytes) : List Bytes :=
  if s.isNamedIn arguments then []
  else ((s.fallback?.bind env.get?).map s.option).toList

/-- The arguments with the variables written out behind them. -/
def writtenOut (env : Environment) (arguments : List Bytes) : List Bytes :=
  arguments ++ (Setting.outputDirectory.writtenOut env arguments ++
    Setting.logFilter.writtenOut env arguments)

/-- Writing a variable out as an option adds no terminator. -/
theorem Setting.terminator_notMem_writtenOut (s : Setting) (env : Environment)
    (arguments : List Bytes) : terminator ∉ s.writtenOut env arguments := by
  unfold writtenOut
  split_ifs
  · exact List.not_mem_nil
  · rw [Option.mem_toList, Option.map_eq_some_iff]
    rintro ⟨value, -, h⟩
    exact s.option_ne_terminator value h

/-- **An option that is written out does what its variable does**, if its setting is settled where an
argument names it and nowhere else. -/
theorem settled_read_writtenOut (env : Environment)
    (hnamed : ∀ g, p.settled kindOf = .ok g → g.has s = s.isNamedIn arguments) :
    ((p.read kindOf (s.writtenOut env arguments)).bind fun q => q.settled kindOf) =
      (p.settled kindOf).bind fun g => g.fallBack kindOf env s := by
  unfold Setting.writtenOut
  cases hp : p.settled kindOf with
  | error e =>
    split_ifs
    · exact hp
    cases s.fallback?.bind env.get? with
    | none => exact hp
    | some value =>
      rw [Option.map_some, Option.toList_some, Progress.read_option, Progress.setting, hp]
      rfl
  | ok g =>
    rw [← hnamed g hp]
    show _ = g.fallBack kindOf env s
    unfold Gathered.fallBack
    split_ifs
    · exact hp
    cases s.fallback?.bind env.get? with
    | none => exact hp
    | some value =>
      rw [Option.map_some, Option.toList_some, Progress.read_option, Progress.setting, hp]
      show ((g.settle kindOf s (some value)).map _).bind _ = g.settle kindOf s (some value)
      cases g.settle kindOf s (some value) <;> rfl

/-- Reading both variables as options, behind the arguments, is falling back on both of them. -/
theorem settled_read_bothWrittenOut (hp : Progress.start.read (t.kindOf here) arguments = .ok p) :
    ((p.read (t.kindOf here) (Setting.outputDirectory.writtenOut env arguments ++
        Setting.logFilter.writtenOut env arguments)).bind fun q => q.settled (t.kindOf here)) =
      ((p.settled (t.kindOf here)).bind fun g =>
        g.fallBack (t.kindOf here) env .outputDirectory).bind fun g =>
          g.fallBack (t.kindOf here) env .logFilter := by
  have hnamed : ∀ s : Setting, s.letter? = none → ∀ g, p.settled (t.kindOf here) = .ok g →
      g.has s = s.isNamedIn arguments := fun s hs g hg => has_eq_isNamedIn hs ⟨p, hp, hg⟩
  have hfirst := settled_read_writtenOut env (hnamed .outputDirectory rfl)
  rw [Progress.read_append (Setting.terminator_notMem_writtenOut _ _ _), ← hfirst]
  cases hq : p.read (t.kindOf here) (Setting.outputDirectory.writtenOut env arguments) with
  | error e => rfl
  | ok q =>
    refine settled_read_writtenOut env fun g' hg' => ?_
    -- The first variable leaves the other setting as it was.
    rw [hq] at hfirst
    cases hg : p.settled (t.kindOf here) with
    | error e =>
      rw [hg] at hfirst
      cases hfirst.symm.trans hg'
    | ok g =>
      rw [hg] at hfirst
      obtain ⟨-, hvalue, -⟩ := Gathered.fallBack_ok_iff.1 (hfirst.symm.trans hg')
      rw [← hnamed .logFilter rfl g hg, Gathered.has_eq, Gathered.has_eq, hvalue,
        if_neg (by decide), Option.or_none]

/-- Where a variable is not set, nothing falls back on it. -/
theorem bind_fallBack_of_unset (kindOf : Path → PathKind)
    (h : s.fallback?.bind env.get? = none) (settled : Except Stop Gathered) :
    (settled.bind fun g => g.fallBack kindOf env s) = settled := by
  cases settled with
  | error e => rfl
  | ok g =>
    show g.fallBack kindOf env s = .ok g
    rw [Gathered.fallBack, h]
    split_ifs <;> rfl

/-- The parts of reading. -/
theorem read_eq (kindOf : Path → PathKind) (env : Environment) (arguments : List Bytes) :
    read kindOf env arguments =
      ((((Progress.start.read kindOf arguments).bind fun q => q.settled kindOf).bind fun g =>
        g.fallBack kindOf env .outputDirectory).bind fun g =>
          g.fallBack kindOf env .logFilter).bind Gathered.complete := by
  unfold read
  simp only [bind, Except.bind]
  cases Progress.start.read kindOf arguments with
  | error e => rfl
  | ok q =>
    dsimp only
    cases q.settled kindOf with
    | error e => rfl
    | ok g =>
      dsimp only
      cases g.fallBack kindOf env .outputDirectory <;> rfl

/-- Whether what is shown when reading stops is the help. -/
def Stop.displaysHelp : Stop → Bool
  | help _ => true
  | nothingGiven => true
  | _ => false

/-- Only the help shows variables. -/
theorem Stop.printedText_eq {stop : Stop} (h : stop.displaysHelp = false) (styles : Bool) :
    stop.printedText env styles = stop.printedText env' styles := by
  have htext : stop.styledText env = stop.styledText env' := by
    cases stop with
    | help => cases h
    | nothingGiven => cases h
    | _ => rfl
  rw [printedText, printedText, htext]

/-- **A variable is the same as its option behind the arguments.**  With the options written out and
the variables unset, the same is asked for, or reading stops for the same reason, and unless it is the
help the same text is printed. -/
theorem read_writtenOut (t : FileTree) (here : Location) (h : terminator ∉ arguments)
    (houtput : env'.get? "OUTPUT_DIR" = none) (hlog : env'.get? "LOG_LEVEL" = none) :
    read (t.kindOf here) env' (writtenOut env arguments) = read (t.kindOf here) env arguments ∧
      ∀ stop, read (t.kindOf here) env arguments = .error stop → stop.displaysHelp = false →
        ∀ styles, stop.printedText env' styles = stop.printedText env styles := by
  refine ⟨?_, fun stop _ hstop => Stop.printedText_eq hstop⟩
  have hunset₁ := @bind_fallBack_of_unset _ .outputDirectory (t.kindOf here) houtput
  have hunset₂ := @bind_fallBack_of_unset _ .logFilter (t.kindOf here) hlog
  rw [read_eq, read_eq, hunset₁, hunset₂, writtenOut, Progress.read_append h]
  cases hp : Progress.start.read (t.kindOf here) arguments with
  | error e => rfl
  | ok p => exact congrArg (·.bind Gathered.complete) (settled_read_bothWrittenOut hp)

/-- Neither variable has a value that is accepted, but it is the pending setting that stops the
reading. -/
theorem read_writtenOut_pending :
    let arguments := [Text.encode "-o", Text.encode "ubuntu", Text.encode "-t"]
    let env : Environment := ⟨[("OUTPUT_DIR", [0xFF]), ("LOG_LEVEL", [])]⟩
    let t : FileTree := ⟨[]⟩
    terminator ∉ arguments ∧ Environment.empty.get? "OUTPUT_DIR" = none ∧
      Environment.empty.get? "LOG_LEVEL" = none ∧
      writtenOut env arguments =
        arguments ++ [Text.encode "--output-dir=" ++ [0xFF], Text.encode "--log-level="] ∧
      read (t.kindOf []) env arguments = .error (.valueMissing .hardware) ∧
      read (t.kindOf []) .empty (writtenOut env arguments) = read (t.kindOf []) env arguments := by
  intro arguments env t
  have h : terminator ∉ arguments := by decide
  exact ⟨h, rfl, rfl, by decide +kernel, by decide +kernel, (read_writtenOut t [] h rfl rfl).1⟩

end Arguments
end DockerMatrix
