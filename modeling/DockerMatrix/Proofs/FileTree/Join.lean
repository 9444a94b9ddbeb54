/-
# A name joined to the path of a directory

The path of an entry is that of its directory with the entry's name behind it.  The names that it
leads through are those of the directory's path and then the entry's own (`names_join`), whether the
directory's path ends in slashes or not, and whether it is empty or not.  So a walk that creates the
entry walks to the directory first, and if no link bears the name, it ends in that directory and
nowhere else (`locate_create_join`).
-/

import DockerMatrix.Proofs.FileTree.Walk

namespace DockerMatrix

/-! ## Pieces of a path -/

namespace Path

/-- A name that an entry of a directory can have: it is not empty, it has no slash in it, and it
leads neither to the directory itself nor to its parent. -/
structure IsEntryName (name : Name) : Prop where
  ne_nil : name ≠ []
  ne_dot : name ≠ dot
  ne_dotDot : name ≠ dotDot
  slash_notMem : slash ∉ name

/-- A path has at least one piece. -/
theorem piecesFrom_ne_nil (begun : Name) (p : Path) : piecesFrom begun p ≠ [] := by
  induction p generalizing begun with
  | nil => simp [piecesFrom]
  | cons b rest ih =>
    rw [piecesFrom]
    split_ifs
    · exact List.cons_ne_nil _ _
    · exact ih _

/-- A name without a slash goes on with the piece that has begun. -/
theorem piecesFrom_of_notMem {name : Name} (h : slash ∉ name) (begun : Name) :
    piecesFrom begun name = [begun.reverse ++ name] := by
  induction name generalizing begun with
  | nil => simp [piecesFrom]
  | cons b rest ih =>
    rw [List.mem_cons, not_or] at h
    rw [piecesFrom, if_neg (Ne.symm h.1), ih h.2, List.reverse_cons, List.append_assoc]
    rfl

/-- A slash is where a piece ends and the next one begins. -/
theorem piecesFrom_append_slash (begun : Name) (p q : Path) :
    piecesFrom begun (p ++ slash :: q) = piecesFrom begun p ++ piecesFrom [] q := by
  induction p generalizing begun with
  | nil => simp [piecesFrom]
  | cons b rest ih =>
    rw [List.cons_append, piecesFrom, piecesFrom]
    split_ifs
    · rw [ih, List.cons_append]
    · exact ih _

/-- The pieces of a path that are names. -/
def steps (p : Path) : List Name :=
  (piecesFrom [] p).filter fun name => !name.isEmpty

/-- A path leads through its names, and asks for a directory at the end or does not. -/
theorem names_eq (p : Path) : names p = steps p ∨ names p = steps p ++ [[]] := by
  obtain ⟨first, last, hp⟩ := (piecesFrom [] p).eq_nil_or_concat.resolve_left (piecesFrom_ne_nil _ _)
  rw [List.concat_eq_append] at hp
  unfold names steps
  rw [hp, List.filter_append]
  cases last with
  | nil => exact Or.inr (by simp)
  | cons b rest => exact Or.inl (by simp)

/-- **A joined path leads through the names of the directory's path, then through the entry's.** -/
theorem names_join (p : Path) {name : Name} (hn : IsEntryName name) :
    names (join p name) = steps p ++ [name] := by
  have hlast : ∀ pieces : List Name, (pieces ++ [name]).dropLast.filter (fun n => !n.isEmpty) ++
      (pieces ++ [name]).getLast?.toList = pieces.filter (fun n => !n.isEmpty) ++ [name] := by
    intro pieces
    rw [List.dropLast_concat, List.getLast?_concat]
    rfl
  have hname : piecesFrom [] name = [name] := piecesFrom_of_notMem hn.slash_notMem []
  unfold join
  split_ifs with h
  · rcases h with h | h
    · rw [List.isEmpty_iff.1 h, List.nil_append]
      show names name = [name]
      rw [names, hname]
      exact hlast []
    -- The slash at the end of the directory's path is the one between the two.
    · obtain ⟨q, rfl⟩ := List.getLast?_eq_some_iff.1 h
      have hempty : piecesFrom [] (q ++ slash :: []) = piecesFrom [] q ++ [[]] :=
        piecesFrom_append_slash [] q []
      rw [List.append_assoc, List.singleton_append, names, piecesFrom_append_slash, hname, hlast,
        steps, hempty, List.filter_append]
      simp
  · rw [names, piecesFrom_append_slash, hname, hlast, steps]

/-- A joined path begins with the directory. -/
theorem exists_join_eq (p : Path) (name : Name) : ∃ rest, join p name = p ++ rest := by
  unfold join
  split_ifs
  · exact ⟨name, rfl⟩
  · exact ⟨slash :: name, rfl⟩

/-- A joined path starts where the directory's path does. -/
theorem isAbsolute_join (p : Path) {name : Name} (hn : IsEntryName name) :
    isAbsolute (join p name) = isAbsolute p := by
  cases p with
  | nil =>
    obtain ⟨b, rest, rfl⟩ := List.exists_cons_of_ne_nil hn.ne_nil
    have hb : b ≠ slash := fun h => hn.slash_notMem (List.mem_cons.2 (Or.inl h.symm))
    simp [isAbsolute, join, hb]
  | cons b p =>
    obtain ⟨rest, hjoin⟩ := exists_join_eq (b :: p) name
    rw [hjoin]
    rfl

end Path

namespace FileTree

variable {t : FileTree} {l d here : Location} {p : Path} {name : Name} {names : List Name}
  {purpose : Purpose} {follow follow' : Location → List Name → Except AccessError Location}

/-! ## Walks to a directory -/

/-- An empty name behind others stays in the directory that they lead to. -/
theorem walkNames_append_slash_iff (hd : t.get? d = some .directory)
    (hf : ∀ here names, follow here (names ++ [[]]) = .ok d ↔ follow' here names = .ok d) :
    t.walkNames .read follow here (names ++ [[]]) = .ok d ↔
      t.walkNames .read follow' here names = .ok d := by
  induction names generalizing here with
  | nil =>
    rw [List.nil_append, walkNames_cons_ok_iff, walkNames, walkNames]
    constructor
    · rintro ⟨-, ⟨-, hw⟩ | ⟨hn, -⟩ | ⟨hn, -⟩⟩
      · exact hw
      · cases hn
      · exact absurd rfl hn.1
    · intro hw
      obtain rfl := Except.ok.inj hw
      exact ⟨hd, Or.inl ⟨Or.inl rfl, rfl⟩⟩
  | cons n rest ih =>
    have hnames : NamesEntry .read n (rest ++ [[]]) ↔ NamesEntry .read n rest := by
      simp [NamesEntry]
    have hpasses : t.Passes .read follow here n (rest ++ [[]]) d ↔
        t.Passes .read follow' here n rest d := by
      constructor
      · rintro (⟨_, hc, _, _⟩ | ⟨target, hv, hw⟩ | ⟨e, hv, hne, hw⟩)
        · cases hc
        · exact .link target hv ((hf _ _).1 (by rwa [List.append_assoc]))
        · exact .entry e hv hne (ih.1 hw)
      · rintro (⟨_, hc, _, _⟩ | ⟨target, hv, hw⟩ | ⟨e, hv, hne, hw⟩)
        · cases hc
        · exact .link target hv (by rw [← List.append_assoc]; exact (hf _ _).2 hw)
        · exact .entry e hv hne (ih.2 hw)
    rw [List.cons_append, walkNames_cons_ok_iff, walkNames_cons_ok_iff, ih, ih, hnames, hpasses]

/-- A slash behind the path of a directory does not change where it leads. -/
theorem walk_append_slash_iff (hd : t.get? d = some .directory) (n : Nat) (here : Location)
    (names : List Name) :
    t.walk .read n here (names ++ [[]]) = .ok d ↔ t.walk .read n here names = .ok d := by
  induction n generalizing here names with
  | zero => exact walkNames_append_slash_iff hd fun _ _ => Iff.rfl
  | succ n ih => exact walkNames_append_slash_iff hd ih

/-- No link bears a name. -/
def NeverLinks (t : FileTree) (name : Name) : Prop :=
  ∀ parent target, t.get? (name :: parent) ≠ some (.link target)

/-- A walk that creates an entry by a name that no link bears walks to a directory, and ends at the
entry of that name in it. -/
theorem walkNames_create_append (hn : Path.IsEntryName name) (hlink : t.NeverLinks name)
    (hf : ∀ here names l, follow here (names ++ [name]) = .ok l →
      ∃ d, follow' here names = .ok d ∧ t.get? d = some .directory ∧ l = name :: d)
    (hw : t.walkNames .create follow here (names ++ [name]) = .ok l) :
    ∃ d, t.walkNames .read follow' here names = .ok d ∧ t.get? d = some .directory ∧
      l = name :: d := by
  induction names generalizing here with
  | nil =>
    obtain ⟨hd, ⟨hm, -⟩ | ⟨hm, -⟩ | ⟨-, hp⟩⟩ := walkNames_cons_ok_iff.1 hw
    · exact absurd hm (not_or.2 ⟨hn.ne_nil, hn.ne_dot⟩)
    · exact absurd hm hn.ne_dotDot
    refine ⟨here, rfl, hd, ?_⟩
    rcases hp with ⟨_, _, _, hl⟩ | ⟨target, hv, _⟩ | ⟨_, _, _, hw⟩
    · exact hl.symm
    · exact absurd hv (hlink here target)
    · rw [walkNames, Except.ok.injEq] at hw
      exact hw.symm
  | cons m rest ih =>
    rw [List.cons_append, walkNames_cons_ok_iff] at hw
    obtain ⟨hh, hw⟩ := hw
    have hstep : ∀ d, (m = [] ∨ m = Path.dot) ∧ t.walkNames .read follow' here rest = .ok d ∨
        m = Path.dotDot ∧ t.walkNames .read follow' here.tail rest = .ok d ∨
        NamesEntry .read m rest ∧ t.Passes .read follow' here m rest d →
        t.walkNames .read follow' here (m :: rest) = .ok d :=
      fun d h => walkNames_cons_ok_iff.2 ⟨hh, h⟩
    rcases hw with ⟨hm, hw⟩ | ⟨hm, hw⟩ | ⟨hm, hp⟩
    · obtain ⟨d, hw, hd⟩ := ih hw
      exact ⟨d, hstep d (Or.inl ⟨hm, hw⟩), hd⟩
    · obtain ⟨d, hw, hd⟩ := ih hw
      exact ⟨d, hstep d (Or.inr (Or.inl ⟨hm, hw⟩)), hd⟩
    have hread : NamesEntry .read m rest := ⟨hm.1, hm.2.1, hm.2.2.1, by simp, hm.2.2.2.2⟩
    rcases hp with ⟨_, _, hr, _⟩ | ⟨target, hv, hw⟩ | ⟨e, hv, hne, hw⟩
    · simp at hr
    · rw [← List.append_assoc] at hw
      obtain ⟨d, hw, hd⟩ := hf _ _ _ hw
      exact ⟨d, hstep d (Or.inr (Or.inr ⟨hread, .link target hv hw⟩)), hd⟩
    · obtain ⟨d, hw, hd⟩ := ih hw
      exact ⟨d, hstep d (Or.inr (Or.inr ⟨hread, .entry e hv hne hw⟩)), hd⟩

/-- A walk to a new entry leads through its directory. -/
theorem walk_create_append (hn : Path.IsEntryName name) (hlink : t.NeverLinks name) (n : Nat)
    (here : Location) (names : List Name) (l : Location)
    (hw : t.walk .create n here (names ++ [name]) = .ok l) :
    ∃ d, t.walk .read n here names = .ok d ∧ t.get? d = some .directory ∧ l = name :: d := by
  induction n generalizing here names l with
  | zero => exact walkNames_create_append hn hlink (fun _ _ _ h => by cases h) hw
  | succ n ih => exact walkNames_create_append hn hlink ih hw

/-- Conversely, a walk to a directory goes on to an entry in it that is no link. -/
theorem walkNames_append_create (hn : Path.IsEntryName name) (hlength : name.length ≤ nameLimit)
    (hlink : ∀ target, t.get? (name :: d) ≠ some (.link target)) (hd : t.get? d = some .directory)
    (hf : ∀ here names, follow here names = .ok d →
      follow' here (names ++ [name]) = .ok (name :: d))
    (hw : t.walkNames .read follow here names = .ok d) :
    t.walkNames .create follow' here (names ++ [name]) = .ok (name :: d) := by
  induction names generalizing here with
  | nil =>
    rw [walkNames, Except.ok.injEq] at hw
    subst hw
    refine walkNames_cons_ok_iff.2 ⟨hd, Or.inr (Or.inr ⟨?_, ?_⟩)⟩
    · exact ⟨hn.ne_nil, hn.ne_dot, hn.ne_dotDot, by simp, hlength⟩
    cases he : t.get? (name :: here) with
    | none => exact .vacant he rfl rfl rfl
    | some e => exact .entry e he (fun target h => hlink target (h ▸ he)) rfl
  | cons m rest ih =>
    rw [List.cons_append, walkNames_cons_ok_iff]
    obtain ⟨hh, hw⟩ := walkNames_cons_ok_iff.1 hw
    refine ⟨hh, ?_⟩
    rcases hw with ⟨hm, hw⟩ | ⟨hm, hw⟩ | ⟨hm, hp⟩
    · exact Or.inl ⟨hm, ih hw⟩
    · exact Or.inr (Or.inl ⟨hm, ih hw⟩)
    -- The last name is not empty, so what stands behind the first one is more than a slash.
    have hslash : ¬(Purpose.create = .create ∧ rest ++ [name] = [[]]) := by
      rintro ⟨-, h⟩
      have hlast := congrArg List.getLast? h
      rw [List.getLast?_concat] at hlast
      exact hn.ne_nil (Option.some.inj hlast)
    refine Or.inr (Or.inr ⟨⟨hm.1, hm.2.1, hm.2.2.1, hslash, hm.2.2.2.2⟩, ?_⟩)
    rcases hp with ⟨_, hc, _, _⟩ | ⟨target, hv, hw⟩ | ⟨e, hv, hne, hw⟩
    · cases hc
    · exact .link target hv (by rw [← List.append_assoc]; exact hf _ _ hw)
    · exact .entry e hv hne (ih hw)

/-- An entry in a directory can be walked to, if nothing there is a link of its name. -/
theorem walk_append_create (hn : Path.IsEntryName name) (hlength : name.length ≤ nameLimit)
    (hlink : ∀ target, t.get? (name :: d) ≠ some (.link target))
    (hd : t.get? d = some .directory) (n : Nat) (here : Location) (names : List Name)
    (hw : t.walk .read n here names = .ok d) :
    t.walk .create n here (names ++ [name]) = .ok (name :: d) := by
  induction n generalizing here names with
  | zero => exact walkNames_append_create hn hlength hlink hd (fun _ _ h => by cases h) hw
  | succ n ih => exact walkNames_append_create hn hlength hlink hd ih hw

/-! ## Paths to a directory -/

/-- A path leads to a directory; the empty path stays where it is. -/
def LeadsIn (t : FileTree) (here : Location) (p : Path) (d : Location) : Prop :=
  t.get? d = some .directory ∧ if p = [] then d = here else t.locate .read here p = .ok d

/-- A path leads to one directory at most. -/
theorem LeadsIn.unique {d' : Location} (h : t.LeadsIn here p d) (h' : t.LeadsIn here p d') :
    d = d' := by
  unfold LeadsIn at h h'
  split_ifs at h h' with hp
  · exact h.2.trans h'.2.symm
  · exact Except.ok.inj (h.2.symm.trans h'.2)

/-- **An entry is created in the directory that the path before its name leads to**, if no link bears
the name. -/
theorem locate_create_join (hn : Path.IsEntryName name) (hlink : t.NeverLinks name)
    (h : t.locate .create here (Path.join p name) = .ok l) :
    ∃ d, t.LeadsIn here p d ∧ l = name :: d := by
  obtain ⟨hnul, -, hlength, hw⟩ := locate_ok_iff.1 h
  rw [Path.names_join p hn] at hw
  obtain ⟨d, hw, hd, hl⟩ := walk_create_append hn hlink _ _ _ _ hw
  refine ⟨d, ⟨hd, ?_⟩, hl⟩
  rw [Path.isAbsolute_join p hn] at hw
  split_ifs with hp
  · subst hp
    exact (Except.ok.inj hw).symm
  obtain ⟨rest, hjoin⟩ := Path.exists_join_eq p name
  rw [hjoin] at hnul hlength
  rw [List.length_append] at hlength
  refine locate_ok_iff.2 ⟨fun h0 => hnul (List.mem_append_left _ h0), hp, by omega, ?_⟩
  rcases Path.names_eq p with hnames | hnames
  · rwa [hnames]
  · rw [hnames]
    exact (walk_append_slash_iff hd ..).2 hw

/-- A path that leads into a directory is walked to that directory. -/
theorem LeadsIn.walk_steps (h : t.LeadsIn here p d) :
    t.walk .read linkLimit (if Path.isAbsolute p then [] else here) (Path.steps p) = .ok d := by
  obtain ⟨hd, h⟩ := h
  split_ifs at h with hp
  · subst hp h
    rfl
  obtain ⟨-, -, -, hw⟩ := locate_ok_iff.1 h
  rcases Path.names_eq p with hnames | hnames
  · rwa [hnames] at hw
  · rw [hnames] at hw
    exact (walk_append_slash_iff hd ..).1 hw

/-- A path that leads anywhere has no NUL byte. -/
theorem LeadsIn.zero_notMem (h : t.LeadsIn here p d) : 0 ∉ p := by
  obtain ⟨-, h⟩ := h
  split_ifs at h with hp
  · subst hp
    exact List.not_mem_nil
  · exact (locate_ok_iff.1 h).1

/-- **Every entry can be created in a directory that a path leads to**, in all trees of the frame, if
it is no link there and the joined path is not too long. -/
theorem SameFrame.locate_create_join {u : FileTree} (hf : t.SameFrame u)
    (h : t.LeadsIn here p d) (hn : Path.IsEntryName name) (hlength : name.length ≤ nameLimit)
    (hzero : 0 ∉ name) (hlink : ∀ target, t.get? (name :: d) ≠ some (.link target)) :
    u.locate .create here (Path.join p name) =
      if (Path.join p name).length < pathLimit then .ok (name :: d) else .error .nameTooLong := by
  have hnul : 0 ∉ Path.join p name := by
    unfold Path.join
    split_ifs <;> simp [hzero, h.zero_notMem, Path.slash]
  have hne : Path.join p name ≠ [] := by
    unfold Path.join
    split_ifs <;> simp [hn.ne_nil]
  split_ifs with hlimit
  · refine hf.locate_create_iff.2 (locate_ok_iff.2 ⟨hnul, hne, hlimit, ?_⟩)
    rw [Path.names_join p hn, Path.isAbsolute_join p hn]
    exact walk_append_create hn hlength hlink h.1 _ _ _ h.walk_steps
  · unfold locate
    simp [hnul, hne, Nat.not_lt.1 hlimit]

end FileTree
end DockerMatrix
