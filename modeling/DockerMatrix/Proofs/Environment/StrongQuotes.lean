/-
# Values in strong quotes

The line `NAME='VALUE'` of an environment file assigns the value as it is, whatever it looks like
(`assignments_strongLine`): it may begin like an option or a comment, refer to variables, hold weak
quotes, and span several lines of the file.  It may hold no strong quote, which would end it, and no
backslash.

The characters of the value are read twice.  Where the logical line ends is found line by line, and at
the end of each the quotes are open (`OpensQuotes`), so that the next one belongs to it too
(`logicalLinesFrom_of_opensQuotes`).  Then the value is read out of the logical line, in one go
(`valueFrom_strong`).
-/

import DockerMatrix.Environment.File
import DockerMatrix.Proofs.Text.Blank
import DockerMatrix.Proofs.Text.Utf8

namespace DockerMatrix
namespace Environment

open Text (Bytes isBlank trimStart trimEnd)

variable {env : Environment} {name value ending : String} {q q' : Quoting} {c : Char}
  {begun cs xs : List Char}

/-! ## Names and values -/

/-- A text is a name: its characters can stand in one, and it begins with a letter or `_`. -/
structure IsName (name : String) : Prop where
  first : ∃ c rest, name.toList = c :: rest ∧ (c.isAlpha || c = '_') = true
  characters : ∀ c ∈ name.toList, isNameChar c = true

/-- Characters that stand for themselves in strong quotes and do not end them. -/
def IsStrong (cs : List Char) : Prop :=
  '\'' ∉ cs ∧ '\\' ∉ cs

/-- The line that assigns a value in strong quotes. -/
def strongLine (name value : String) : String :=
  name ++ "='" ++ value ++ "'"

/-- How the last line of a file may end. -/
def lineEnds : List String := ["", "\n", "\r\n"]

/-- Strong quotes hold a text if they hold its first character and the rest. -/
theorem isStrong_cons_iff : IsStrong (c :: cs) ↔ (c ≠ '\'' ∧ c ≠ '\\') ∧ IsStrong cs := by
  simp only [IsStrong, List.mem_cons, not_or, ne_comm (a := c)]
  tauto

/-- The characters of names, by number. -/
theorem toNat_of_isNameChar (h : isNameChar c = true) :
    0x2E ≤ c.toNat ∧ c.toNat ≤ 0x7A ∧ c.toNat ≠ 0x5C := by
  simp only [isNameChar, Bool.or_eq_true, decide_eq_true_iff] at h
  rcases h with (h | rfl) | rfl
  · obtain ⟨hl, hh, hne⟩ := Text.toNat_of_isAlphanum h
    exact ⟨by omega, hh, hne⟩
  · decide
  · decide

/-- No character of a name is blank. -/
theorem isBlank_of_isNameChar (h : isNameChar c = true) : isBlank c = false := by
  obtain ⟨hl, hh, -⟩ := toNat_of_isNameChar h
  exact Text.isBlank_eq_false (by omega) (by omega)

/-- A name has a first character. -/
theorem IsName.exists_cons (h : IsName name) :
    ∃ c rest, name.toList = c :: rest ∧ isNameChar c = true := by
  obtain ⟨c, rest, hc, -⟩ := h.first
  exact ⟨c, rest, hc, h.characters c (hc ▸ List.mem_cons_self ..)⟩

/-- A character of a name is none of those that come before them or the backslash. -/
theorem ne_of_isNameChar (h : isNameChar c = true) {d : Char} (hd : d.toNat < 0x2E ∨ d.toNat = 0x5C) :
    c ≠ d := by
  rintro rfl
  obtain ⟨hl, -, hne⟩ := toNat_of_isNameChar h
  omega

/-! ## Where the logical line ends -/

/-- Characters are scanned one part after the other, if no comment begins in the first part. -/
theorem scan_append (h : scan q xs = (q', xs)) (ys : List Char) :
    scan q (xs ++ ys) = ((scan q' ys).1, xs ++ (scan q' ys).2) := by
  induction xs generalizing q with
  | nil =>
    obtain rfl : q = q' := congrArg Prod.fst h
    rfl
  | cons c rest ih =>
    rw [scan] at h
    split_ifs at h with hc
    · cases h
    · have hrest : scan (q.next c) rest = (q', rest) := by
        simpa [Prod.ext_iff] using h
      rw [List.cons_append, scan, if_neg hc, ih hrest]
      rfl

/-- Quotes that are open stay open. -/
theorem scan_strong_singleton (hc : c ≠ '\'' ∧ c ≠ '\\') : scan .strong [c] = (.strong, [c]) := by
  simp [scan, Quoting.next, hc.1, hc.2]

/-- The characters of a name leave the reader of a line as it is. -/
theorem scan_name (h : ∀ c ∈ cs, isNameChar c = true) : scan .plain cs = (.plain, cs) := by
  induction cs with
  | nil => rfl
  | cons c rest ih =>
    obtain ⟨hc, hrest⟩ := List.forall_mem_cons.1 h
    have hnext : Quoting.plain.next c = .plain := by
      have hquotes : c ≠ '\\' ∧ c ≠ '"' ∧ c ≠ '\'' :=
        ⟨ne_of_isNameChar hc (by decide), ne_of_isNameChar hc (by decide),
          ne_of_isNameChar hc (by decide)⟩
      simp [Quoting.next, Quoting.opened, isBlank_of_isNameChar hc, hquotes]
    rw [scan, hnext, ih hrest]
    rfl

/-- Strong quotes are open at the end of the characters: of the logical line some lines have been
read, and of the next one these characters. -/
structure OpensQuotes (q : Quoting) (begun xs : List Char) : Prop where
  /-- The logical line is no comment. -/
  head : ∃ c rest, begun ++ xs = c :: rest ∧ isBlank c = false ∧ c ≠ '#'
  newline : '\n' ∉ xs
  scan : scan q xs = (.strong, xs)

namespace OpensQuotes

/-- What has been read begins with a visible character that begins no comment. -/
theorem head_append (h : OpensQuotes q begun xs) (ys : List Char) :
    ∃ c rest, begun ++ (xs ++ ys) = c :: rest ∧ isBlank c = false ∧ c ≠ '#' := by
  obtain ⟨c, rest, hc, hc'⟩ := h.head
  exact ⟨c, rest ++ ys, by rw [← List.append_assoc, hc, List.cons_append], hc'⟩

/-- A line that begins with what has been read is no comment. -/
theorem head?_trimStart_ne (h : OpensQuotes q begun xs) (ys : List Char) :
    (trimStart (begun ++ (xs ++ ys))).head? ≠ some '#' := by
  obtain ⟨c, rest, hc, hblank, hne⟩ := h.head_append ys
  rw [hc, Text.trimStart_cons hblank]
  simpa using hne

/-- A character that stands for itself leaves the quotes open. -/
theorem concat (h : OpensQuotes q begun xs) (hc : c ≠ '\'' ∧ c ≠ '\\') (hn : c ≠ '\n') :
    OpensQuotes q begun (xs ++ [c]) where
  head := h.head_append [c]
  newline := by simpa [h.newline] using hn.symm
  scan := by rw [scan_append h.scan, scan_strong_singleton hc]

/-- **So does the end of a line**, and the next line goes on with the logical line. -/
theorem newline_strong (h : OpensQuotes q begun xs) :
    OpensQuotes .strong (begun ++ (xs ++ ['\n'])) [] where
  head := by
    rw [List.append_nil]
    exact h.head_append ['\n']
  newline := List.not_mem_nil
  scan := rfl

/-- A line end inside strong quotes goes on with the logical line. -/
theorem logicalLinesFrom_newline (h : OpensQuotes q begun xs) (rest : List Bytes) :
    logicalLinesFrom q begun (Text.encode (String.ofList (xs ++ ['\n'])) :: rest) =
      logicalLinesFrom .strong (begun ++ (xs ++ ['\n'])) rest := by
  have hscan : Environment.scan q (xs ++ ['\n']) = (.strong, xs ++ ['\n']) := by
    rw [scan_append h.scan]
    rfl
  rw [logicalLinesFrom, Text.decode?_encode]
  dsimp only
  rw [String.toList_ofList, if_neg (h.head?_trimStart_ne _), hscan]

/-- **At the closing quote the logical line ends**, with the line of the file. -/
theorem logicalLinesFrom_close (h : OpensQuotes q begun xs) (hend : ending ∈ lineEnds) :
    logicalLinesFrom q begun [Text.encode (String.ofList (xs ++ '\'' :: ending.toList))] =
      [.ok (begun ++ (xs ++ ['\'']))] := by
  have hclose : (Environment.scan .strong ('\'' :: ending.toList)).1 = .plain := by
    revert ending
    decide
  have hwithout : ∀ line : List Char, withoutEnd (line ++ '\'' :: ending.toList) = line ++ ['\''] := by
    intro line
    simp only [lineEnds, List.mem_cons, List.not_mem_nil, or_false] at hend
    rcases hend with rfl | rfl | rfl <;> simp [withoutEnd]
  rw [logicalLinesFrom, Text.decode?_encode]
  dsimp only
  rw [String.toList_ofList, if_neg (h.head?_trimStart_ne _), scan_append h.scan, hclose]
  dsimp only
  rw [← List.append_assoc, hwithout, logicalLinesFrom, if_pos rfl, List.append_assoc]

end OpensQuotes

/-! ## Lines of the file -/

/-- Bytes without a line feed go on with the line that has begun. -/
theorem rawLinesFrom_append {bs : Bytes} (h : 10 ∉ bs) (begun rest : Bytes) :
    rawLinesFrom begun (bs ++ rest) = rawLinesFrom (bs.reverse ++ begun) rest := by
  induction bs generalizing begun with
  | nil => rfl
  | cons b bs ih =>
    obtain ⟨hb, hbs⟩ := not_or.1 (List.mem_cons.not.1 h)
    rw [List.cons_append, rawLinesFrom, if_neg (Ne.symm hb), ih hbs, List.reverse_cons,
      List.append_assoc]
    rfl

/-- At a line feed a line of the file ends. -/
theorem rawLinesFrom_newline (xs cs : List Char) :
    rawLinesFrom (Text.encode (String.ofList xs)).reverse (Text.encode (String.ofList ('\n' :: cs))) =
      Text.encode (String.ofList (xs ++ ['\n'])) ::
        rawLinesFrom [] (Text.encode (String.ofList cs)) := by
  have hline : (10 :: (Text.encode (String.ofList xs)).reverse).reverse =
      Text.encode (String.ofList (xs ++ ['\n'])) := by
    rw [List.reverse_cons, List.reverse_reverse, String.ofList_append, Text.encode_append]
    rfl
  have hrest : Text.encode (String.ofList ('\n' :: cs)) = 10 :: Text.encode (String.ofList cs) := by
    rw [Text.encode_ofList, Text.encode_ofList]
    rfl
  rw [hrest, rawLinesFrom, if_pos rfl, hline]

/-- The bytes of a character other than a line feed go on with the line that has begun. -/
theorem rawLinesFrom_character (hc : c ≠ '\n') (xs cs : List Char) :
    rawLinesFrom (Text.encode (String.ofList xs)).reverse (Text.encode (String.ofList (c :: cs))) =
      rawLinesFrom (Text.encode (String.ofList (xs ++ [c]))).reverse
        (Text.encode (String.ofList cs)) := by
  have hnewline : 10 ∉ Text.encode (String.ofList [c]) :=
    Text.newline_notMem_encode (by simpa using hc.symm)
  rw [← List.singleton_append, String.ofList_append, Text.encode_append,
    rawLinesFrom_append hnewline, String.ofList_append, Text.encode_append, List.reverse_append]

/-- The last line of the file, from the closing quote on. -/
theorem rawLinesFrom_close (hend : ending ∈ lineEnds) (xs : List Char) :
    rawLinesFrom (Text.encode (String.ofList xs)).reverse
        (Text.encode (String.ofList ('\'' :: ending.toList))) =
      [Text.encode (String.ofList (xs ++ '\'' :: ending.toList))] := by
  rw [rawLinesFrom_character (by decide)]
  simp only [lineEnds, List.mem_cons, List.not_mem_nil, or_false] at hend
  rcases hend with rfl | rfl | rfl
  · have hne : Text.encode (String.ofList (xs ++ ['\''])) ≠ [] := Text.encode_ne_nil (by simp)
    show rawLinesFrom _ [] = _
    rw [rawLinesFrom, if_neg (by simpa using hne), List.reverse_reverse]
    rfl
  · show rawLinesFrom _ (Text.encode (String.ofList ['\n'])) = _
    rw [rawLinesFrom_newline, List.append_assoc]
    rfl
  · show rawLinesFrom _ (Text.encode (String.ofList ['\r', '\n'])) = _
    rw [rawLinesFrom_character (by decide), rawLinesFrom_newline, List.append_assoc, List.append_assoc]
    rfl

/-- **Where quotes are open, the logical line goes on to the closing quote**, over as many lines of the
file as there are. -/
theorem logicalLinesFrom_of_opensQuotes (h : OpensQuotes q begun xs) (hcs : IsStrong cs)
    (hend : ending ∈ lineEnds) :
    logicalLinesFrom q begun (rawLinesFrom (Text.encode (String.ofList xs)).reverse
        (Text.encode (String.ofList (cs ++ '\'' :: ending.toList)))) =
      [.ok (begun ++ (xs ++ (cs ++ ['\''])))] := by
  -- On the characters to the closing quote: each goes on with the line of the file or ends it.
  induction cs generalizing q begun xs with
  | nil => rw [List.nil_append, rawLinesFrom_close hend, h.logicalLinesFrom_close hend, List.nil_append]
  | cons c rest ih =>
    obtain ⟨hc, hrest⟩ := isStrong_cons_iff.1 hcs
    rw [List.cons_append]
    by_cases hn : c = '\n'
    · subst hn
      have hnext := ih h.newline_strong hrest
      rw [List.nil_append] at hnext
      rw [rawLinesFrom_newline, h.logicalLinesFrom_newline]
      refine Eq.trans hnext ?_
      simp only [List.append_assoc, List.cons_append, List.nil_append]
    · rw [rawLinesFrom_character hn, ih (h.concat hc hn) hrest]
      simp only [List.append_assoc, List.cons_append, List.nil_append]

/-- A file that begins with a character of a name begins with no mark. -/
theorem isPrefixOf_byteOrderMark (hc : isNameChar c = true) (rest : Bytes) :
    byteOrderMark.isPrefixOf (String.utf8EncodeChar c ++ rest) = false := by
  obtain ⟨-, hh, -⟩ := toNat_of_isNameChar hc
  have hne : (0xEF == UInt8.ofNat c.toNat) = false := by
    have hfirst : (0xEF : UInt8).toNat = 239 := rfl
    rw [beq_eq_false_iff_ne, ne_eq, ← UInt8.toNat_inj, UInt8.toNat_ofNat', hfirst]
    omega
  rw [Text.utf8EncodeChar_eq, if_pos (by omega), List.singleton_append, byteOrderMark,
    List.isPrefixOf_cons_cons, hne, Bool.false_and]

/-- A name, an equals sign and a quote open strong quotes. -/
theorem IsName.opensQuotes (h : IsName name) : OpensQuotes .plain [] (name.toList ++ ['=', '\'']) where
  head := by
    obtain ⟨c, rest, hc, hchar⟩ := h.exists_cons
    exact ⟨c, rest ++ ['=', '\''], by rw [hc]; rfl, isBlank_of_isNameChar hchar,
      ne_of_isNameChar hchar (by decide)⟩
  newline := by
    have hname : '\n' ∉ name.toList := fun hm => ne_of_isNameChar (h.characters _ hm) (by decide) rfl
    simpa using hname
  scan := by
    rw [scan_append (scan_name h.characters)]
    rfl

/-- The characters of an assignment in strong quotes. -/
theorem toList_strongLine (name value : String) :
    (strongLine name value).toList = name.toList ++ '=' :: '\'' :: (value.toList ++ ['\'']) := by
  simp [strongLine]

/-- **The line is one logical line**, however many lines of the file it spans. -/
theorem logicalLines_strongLine (hname : IsName name) (hvalue : IsStrong value.toList)
    (hend : ending ∈ lineEnds) :
    logicalLines (Text.encode (strongLine name value ++ ending)) =
      [.ok (strongLine name value).toList] := by
  obtain ⟨c, rest, hc, hchar⟩ := hname.exists_cons
  have hopens := hname.opensQuotes
  have hcontents : Text.encode (strongLine name value ++ ending) =
      Text.encode (String.ofList (name.toList ++ ['=', '\''])) ++
        Text.encode (String.ofList (value.toList ++ '\'' :: ending.toList)) := by
    rw [← Text.encode_append, ← String.ofList_append]
    congr 1
    simp [strongLine, String.ext_iff]
  have hmark : byteOrderMark.isPrefixOf (Text.encode (strongLine name value ++ ending)) = false := by
    rw [Text.encode, String.toList_append, toList_strongLine, hc]
    exact isPrefixOf_byteOrderMark hchar _
  have hnewline : 10 ∉ Text.encode (String.ofList (name.toList ++ ['=', '\''])) :=
    Text.newline_notMem_encode (by rw [String.toList_ofList]; exact hopens.newline)
  unfold logicalLines
  dsimp only
  rw [hmark, if_neg Bool.false_ne_true, hcontents, rawLinesFrom_append hnewline, List.append_nil,
    logicalLinesFrom_of_opensQuotes hopens hvalue hend, toList_strongLine]
  simp

/-! ## The value -/

/-- **Strong quotes hold their characters as they are.** -/
theorem valueFrom_strong {broken : Nat → FileError} {unclosed : FileError} (hcs : IsStrong cs)
    (i : Nat) : env.valueFrom broken unclosed .strong false i (cs ++ ['\'']) = .ok cs := by
  induction cs generalizing i with
  | nil => rfl
  | cons c rest ih =>
    obtain ⟨hc, hrest⟩ := isStrong_cons_iff.1 hcs
    rw [List.cons_append, valueFrom, if_neg hc.1, ih hrest]
    rfl

/-- **A text in strong quotes stands for itself.** -/
theorem value_strong (hcs : IsStrong cs) :
    env.value ('\'' :: (cs ++ ['\''])) = .ok (String.ofList cs) := by
  unfold value
  dsimp only
  rw [if_neg (by simp), valueFrom, if_neg (by decide), if_neg (by decide), if_neg (by decide),
    if_neg Bool.false_ne_true, if_pos rfl, valueFrom_strong hcs]
  rfl

/-- A name before an equals sign is read as that name. -/
theorem IsName.name?_eq (h : IsName name) (rest : List Char) :
    name? (name.toList ++ '=' :: rest) = some (name, '=' :: rest) := by
  obtain ⟨c, cs, hc, hfirst⟩ := h.first
  have htake : (name.toList ++ '=' :: rest).takeWhile isNameChar = name.toList := by
    rw [List.takeWhile_append_of_pos h.characters, List.takeWhile_cons_of_neg (by decide),
      List.append_nil]
  have hdrop : (name.toList ++ '=' :: rest).dropWhile isNameChar = '=' :: rest := by
    rw [List.dropWhile_append_of_pos h.characters, List.dropWhile_cons_of_neg (by decide)]
  have hmatch : name? (name.toList ++ '=' :: rest) =
      if (c.isAlpha || c = '_') = true then
        some (String.ofList ((name.toList ++ '=' :: rest).takeWhile isNameChar),
          trimStart ((name.toList ++ '=' :: rest).dropWhile isNameChar))
      else none := by
    rw [hc]
    rfl
  rw [hmatch, if_pos hfirst, htake, hdrop, String.ofList_toList, Text.trimStart_cons (by decide)]

/-- **The line assigns the value as it is.** -/
theorem assignment?_strongLine (hname : IsName name) (hvalue : IsStrong value.toList) :
    env.assignment? (strongLine name value).toList = .ok (some ⟨name, value⟩) := by
  obtain ⟨c, rest, hc, hchar⟩ := hname.exists_cons
  have hend : trimEnd (strongLine name value).toList = (strongLine name value).toList := by
    have hlast : (strongLine name value).toList =
        (name.toList ++ '=' :: '\'' :: value.toList) ++ ['\''] := by
      simp [toList_strongLine]
    rw [hlast, Text.trimEnd_concat (by decide)]
  have hstart : trimStart (strongLine name value).toList = (strongLine name value).toList := by
    rw [toList_strongLine, hc, List.cons_append, Text.trimStart_cons (isBlank_of_isNameChar hchar)]
  have hcomment : ¬((strongLine name value).toList.isEmpty = true ∨
      (strongLine name value).toList.head? = some '#') := by
    have hhash : c ≠ '#' := ne_of_isNameChar hchar (by decide)
    rw [toList_strongLine, hc]
    simpa using hhash
  have hassign : (env.value (trimStart ('\'' :: (value.toList ++ ['\''])))).map
      (fun value => some (⟨name, value⟩ : Assignment)) = .ok (some ⟨name, value⟩) := by
    rw [Text.trimStart_cons (by decide), value_strong hvalue, String.ofList_toList]
    rfl
  unfold assignment?
  dsimp only
  rw [hend, hstart, if_neg hcomment, toList_strongLine, hname.name?_eq]
  simp only [hassign]

/-- **A file with one line in strong quotes makes one assignment**, of the value as it is.  No variable
can hold a NUL character. -/
theorem assignments_strongLine (hname : IsName name) (hvalue : IsStrong value.toList)
    (hnul : '\x00' ∉ value.toList) (hend : ending ∈ lineEnds) :
    env.assignments (Text.encode (strongLine name value ++ ending)) = .ok [⟨name, value⟩] := by
  have hadopt : env.canAdopt ⟨name, value⟩ = true := by simp [canAdopt, hnul]
  rw [assignments, logicalLines_strongLine hname hvalue hend, assignmentsIn,
    assignment?_strongLine hname hvalue]
  simp only [hadopt, if_true]
  rfl

end Environment
end DockerMatrix
