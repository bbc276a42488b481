import Scriptorium.Proofs.PhysicalLines

/-!
# What a batch command prints

The commands that the batch processor reads in the line that prints a text. It goes through a line
twice. First percent signs are replaced (`Batch.replacePercents?`): two of them stand for one, and
one alone names a variable, so that a line with one is not read here. Then the line is divided into
commands, character by character (`Batch.step`): a caret makes the character behind it stand for
itself, an ampersand or a bar ends the command, and an angle bracket redirects it. Double quotes and
line ends follow other rules and are not read.

A line prints a text if it is the one command `echo` with that text behind it and without
redirection (`Batch.printing`). Percent signs and ampersands are escaped when the line is written,
but carets, bars and angle brackets are not (`Batch.unescaped`). `commands?_echo_iff` says that this
makes the whole difference: a text is printed as it is exactly if it has none of them.

For one half each character is read back from what is written for it (`read_caretEscaped`). For the
other half the reader has a weight, twice the length of the text of the command that is read, and
one more behind a caret. A character of the text makes it heavier by two at most, and by less if it
is not escaped (`weight_of_read_caretEscaped`), so that too little is left of a text with such a
character.
-/

set_option autoImplicit false
set_option relaxedAutoImplicit false

namespace Scriptorium.Batch

/-! ### Percent signs -/

/-- A line with its percent signs replaced, if it names no variable. -/
def replacePercents? : List Char → Option (List Char)
  | [] => some []
  | '%' :: '%' :: rest => (replacePercents? rest).map ('%' :: ·)
  | '%' :: _ => none
  | c :: rest => (replacePercents? rest).map (c :: ·)

theorem replacePercents?_cons_of_ne {c : Char} (h : c ≠ '%') (rest : List Char) :
    replacePercents? (c :: rest) = (replacePercents? rest).map (c :: ·) :=
  replacePercents?.eq_4 c rest (fun _ hc _ ↦ h hc) h

/-- What is left of a character that is written once its percent signs are replaced. -/
def caretEscaped (c : Char) : List Char := if c = '&' then ['^', '&'] else [c]

/-- Of a text that is written carets are left, and percent signs are as they were. -/
theorem replacePercents?_flatMap (text : List Char) :
    replacePercents? (text.flatMap Dialect.batchEscaped) = some (text.flatMap caretEscaped) := by
  induction text with
  | nil => rfl
  | cons c rest ih =>
    rw [List.flatMap_cons, List.flatMap_cons]
    by_cases hjoin : c = '&'
    · subst hjoin
      show replacePercents? ('^' :: '&' :: rest.flatMap Dialect.batchEscaped) = _
      rw [replacePercents?_cons_of_ne (by decide), replacePercents?_cons_of_ne (by decide), ih]
      rfl
    · by_cases hpercent : c = '%'
      · subst hpercent
        show replacePercents? ('%' :: '%' :: rest.flatMap Dialect.batchEscaped) = _
        rw [replacePercents?, ih]
        rfl
      · have hown : Dialect.batchEscaped c = [c] := by
          rw [Dialect.batchEscaped, if_neg hjoin, if_neg hpercent]
        rw [hown, caretEscaped, if_neg hjoin, List.singleton_append,
          replacePercents?_cons_of_ne hpercent, ih]
        rfl

/-! ### Commands -/

/-- A command: its text, and what stands behind each sign that redirects it, the last one first. -/
structure Command where
  text : List Char
  redirections : List (List Char)
  deriving DecidableEq, Repr

namespace Command

/-- The command before its first character. -/
def empty : Command := ⟨[], []⟩

/-- Puts a character behind what has been read of a command. -/
def push (k : Command) (c : Char) : Command :=
  match k.redirections with
  | [] => { k with text := k.text ++ [c] }
  | place :: others => { k with redirections := (place ++ [c]) :: others }

end Command

/-- What has been read of a line: whether a caret was the last character, the commands that have
ended, and the one that has not. -/
structure Reader where
  escaped : Bool
  ended : List Command
  command : Command
  deriving DecidableEq, Repr

namespace Reader

/-- The reader before a line. -/
def start : Reader := ⟨false, [], .empty⟩

/-- Puts a character behind the command. -/
def push (r : Reader) (c : Char) : Reader := { r with command := r.command.push c }

/-- The commands, with the one that is read. -/
def commands (r : Reader) : List Command := r.ended ++ [r.command]

/-- Ends the command. -/
def endCommand (r : Reader) : Reader := { r with ended := r.commands, command := .empty }

/-- Redirects the command. -/
def redirect (r : Reader) : Reader :=
  { r with command := { r.command with redirections := [] :: r.command.redirections } }

end Reader

/-- The characters that are not read. -/
def unread : List Char := ['\x22', '\r', '\n']

/-- Reads a character. -/
def step (r : Reader) (c : Char) : Option Reader :=
  if c ∈ unread then none
  else if r.escaped then some { r.push c with escaped := false }
  else if c = '^' then some { r with escaped := true }
  else if c = '&' ∨ c = '|' then some r.endCommand
  else if c = '<' ∨ c = '>' then some r.redirect
  else some (r.push c)

/-- Reads characters one after the other. -/
def read (r : Reader) (line : List Char) : Option Reader := line.foldlM step r

/-- The commands of a line. A caret at its end would go on with the next line. -/
def commands? (line : String) : Option (List Command) := do
  let replaced ← replacePercents? line.toList
  let r ← read .start replaced
  if r.escaped then none else some r.commands

/-- The command that prints a text. -/
def printing (text : String) : Command := ⟨"echo ".toList ++ text.toList, []⟩

/-- The characters that mean something else and are written as they are. -/
def unescaped : List Char := ['^', '|', '<', '>']

/-- Whether a text has none of some characters. -/
def HasNone (characters : List Char) (text : String) : Prop := ∀ c ∈ text.toList, c ∉ characters

-- By name, as the instance that is found otherwise may go through every character there is.
instance (characters : List Char) (text : String) : Decidable (HasNone characters text) :=
  List.decidableBAll _ text.toList

theorem hasNone_append_iff {characters : List Char} {first second : String} :
    HasNone characters (first ++ second) ↔
      HasNone characters first ∧ HasNone characters second := by
  simp only [HasNone, String.toList_append, List.forall_mem_append]

theorem read_append (r : Reader) (first second : List Char) :
    read r (first ++ second) = (read r first).bind fun s ↦ read s second :=
  List.foldlM_append

variable {r s : Reader} {c : Char} {text : List Char}

/-! ### Reading back -/

/-- Outside of a caret a character that is escaped or needs not be is read back. -/
theorem read_caretEscaped (hplain : r.escaped = false) (hread : c ∉ unread) (hc : c ∉ unescaped) :
    read r (caretEscaped c) = some (r.push c) := by
  obtain ⟨escaped, ended, command⟩ := r
  obtain rfl : escaped = false := hplain
  simp only [unescaped, List.mem_cons, List.not_mem_nil, or_false, not_or] at hc
  obtain ⟨hcaret, hbar, hless, hgreater⟩ := hc
  by_cases hjoin : c = '&'
  · subst hjoin
    rfl
  · simp [read, caretEscaped, step, Reader.push, hjoin, hread, hcaret, hbar, hless, hgreater]

/-- A text that has none of the characters that are not escaped is read back, if the command is not
redirected. -/
theorem read_flatMap_caretEscaped {ended : List Command} {before : List Char}
    (hread : ∀ c ∈ text, c ∉ unread) (htext : ∀ c ∈ text, c ∉ unescaped) :
    read ⟨false, ended, ⟨before, []⟩⟩ (text.flatMap caretEscaped) =
      some ⟨false, ended, ⟨before ++ text, []⟩⟩ := by
  induction text generalizing before with
  | nil =>
    rw [List.append_nil]
    rfl
  | cons c rest ih =>
    rw [List.forall_mem_cons] at hread htext
    have hpush : Reader.push ⟨false, ended, ⟨before, []⟩⟩ c =
        ⟨false, ended, ⟨before ++ [c], []⟩⟩ := rfl
    rw [List.flatMap_cons, read_append, read_caretEscaped rfl hread.1 htext.1, Option.bind_some,
      hpush, ih hread.2 htext.2, List.append_assoc, List.singleton_append]

/-! ### What is lost -/

/-- Twice the length of the text of the command, and one more behind a caret. -/
def Reader.weight (r : Reader) : Nat := 2 * r.command.text.length + r.escaped.toNat

theorem Reader.length_push_le (r : Reader) (c : Char) :
    (r.push c).command.text.length ≤ r.command.text.length + 1 := by
  unfold push Command.push
  split <;> simp

/-- A character makes the reader heavier by two at most, and by one at most if it means something
else. -/
theorem weight_of_step (h : step r c = some s) :
    s.weight ≤ r.weight + 2 ∧ (c ∈ '&' :: unescaped → s.weight ≤ r.weight + 1) := by
  have hpush := r.length_push_le c
  unfold step at h
  split_ifs at h with hunread hescaped hcaret hend hredirect <;> cases h
  · -- what stands behind a caret is read, and the caret is used up
    simp only [Reader.weight, hescaped, Bool.toNat_true, Bool.toNat_false]
    omega
  · simp only [Reader.weight, hescaped, Bool.toNat_true]
    omega
  · simp only [Reader.weight, Reader.endCommand, Command.empty, List.length_nil]
    omega
  · simp only [Reader.weight, Reader.redirect]
    omega
  · have hplain : c ∉ '&' :: unescaped := by
      simp only [not_or] at hend hredirect
      simp [unescaped, hcaret, hend, hredirect]
    have hsame : (r.push c).escaped = r.escaped := rfl
    refine ⟨?_, fun hmem ↦ absurd hmem hplain⟩
    simp only [Reader.weight, hsame]
    omega

/-- A character of a text makes the reader heavier by two at most, and by one at most if it is not
escaped. -/
theorem weight_of_read_caretEscaped (h : read r (caretEscaped c) = some s) :
    s.weight ≤ r.weight + 2 ∧ (c ∈ unescaped → s.weight ≤ r.weight + 1) := by
  by_cases hjoin : c = '&'
  · -- of the caret and the ampersand each adds one at most
    subst hjoin
    have hread : (step r '^').bind (fun t ↦ step t '&') = some s := by
      simpa [read, caretEscaped] using h
    obtain ⟨t, hcaret, hampersand⟩ := Option.bind_eq_some_iff.mp hread
    have hfirst := (weight_of_step hcaret).2 (by decide)
    have hsecond := (weight_of_step hampersand).2 (by decide)
    exact ⟨by omega, fun hmem ↦ absurd hmem (by decide)⟩
  · have hstep : step r c = some s := by simpa [read, caretEscaped, hjoin] using h
    obtain ⟨hle, hspecial⟩ := weight_of_step hstep
    exact ⟨hle, fun hmem ↦ hspecial (List.mem_cons_of_mem _ hmem)⟩

/-- A text makes the reader heavier by two for each character at most, and by less if one of them is
not escaped. -/
theorem weight_of_read_flatMap (h : read r (text.flatMap caretEscaped) = some s) :
    s.weight ≤ r.weight + 2 * text.length ∧
      ((∃ c ∈ text, c ∈ unescaped) → s.weight < r.weight + 2 * text.length) := by
  induction text generalizing r with
  | nil =>
    obtain rfl : r = s := Option.some.inj h
    exact ⟨Nat.le_refl _, fun ⟨c, hc, _⟩ ↦ absurd hc List.not_mem_nil⟩
  | cons c rest ih =>
    rw [List.flatMap_cons, read_append] at h
    obtain ⟨t, hfirst, hrest⟩ := Option.bind_eq_some_iff.mp h
    obtain ⟨hle, hspecial⟩ := weight_of_read_caretEscaped hfirst
    obtain ⟨hleRest, hspecialRest⟩ := ih hrest
    rw [List.length_cons]
    refine ⟨by omega, ?_⟩
    rintro ⟨d, hd, hunescaped⟩
    rcases List.mem_cons.mp hd with rfl | hd
    · have hless := hspecial hunescaped
      omega
    · have hless := hspecialRest ⟨d, hd, hunescaped⟩
      omega

/-! ### Printing -/

/-- Behind the name of the command stands the text, with carets. -/
theorem commands?_echo (text : String) :
    commands? (Dialect.batch.echo text) =
      (read ⟨false, [], ⟨"echo ".toList, []⟩⟩ (text.toList.flatMap caretEscaped)).bind fun r ↦
        if r.escaped then none else some r.commands := by
  have hline : (Dialect.batch.echo text).toList =
      "echo ".toList ++ text.toList.flatMap Dialect.batchEscaped := by
    simp [Dialect.echo]
  have hpercents : ∀ rest, replacePercents? ("echo ".toList ++ rest) =
      (replacePercents? rest).map ("echo ".toList ++ ·) := by
    intro rest
    show replacePercents? ('e' :: 'c' :: 'h' :: 'o' :: ' ' :: rest) = _
    simp [replacePercents?_cons_of_ne, Function.comp_def]
  have hname : read .start "echo ".toList = some ⟨false, [], ⟨"echo ".toList, []⟩⟩ := by decide
  rw [commands?, hline, hpercents, replacePercents?_flatMap]
  simp only [Option.map_some, Option.bind_eq_bind, Option.bind_some, read_append, hname]

/-- A text that can be read is printed exactly if all its characters are escaped or need not be. -/
theorem commands?_echo_eq_printing_iff {text : String} (hread : HasNone unread text) :
    commands? (Dialect.batch.echo text) = some [printing text] ↔ HasNone unescaped text := by
  rw [commands?_echo]
  constructor
  · intro h c hc hunescaped
    obtain ⟨r, hreader, hend⟩ := Option.bind_eq_some_iff.mp h
    have hlight := (weight_of_read_flatMap hreader).2 ⟨c, hc, hunescaped⟩
    split_ifs at hend with hescaped
    -- no command has ended, and the one that is read has the whole text
    have hcommands : r.ended ++ [r.command] = [] ++ [printing text] := Option.some.inj hend
    obtain ⟨-, hcommand⟩ := List.append_inj' hcommands rfl
    have htext : r.command.text = "echo ".toList ++ text.toList := by
      rw [List.singleton_inj.mp hcommand, printing]
    simp only [Reader.weight, htext, List.length_append, hescaped, Bool.toNat_false] at hlight
    omega
  · intro htext
    rw [read_flatMap_caretEscaped hread htext]
    rfl

theorem hasNone_unread_of_isOneLine {text : String} (hquote : '\x22' ∉ text.toList)
    (hline : IsOneLine text) : HasNone unread text := by
  intro c hc hunread
  obtain ⟨hreturn, hfeed⟩ := hline.ne_of_mem hc
  simp only [unread, List.mem_cons, List.not_mem_nil, or_false] at hunread
  rcases hunread with rfl | rfl | rfl
  · exact hquote hc
  · exact hreturn rfl
  · exact hfeed rfl

/-- The line that prints a text of one line is one line. -/
theorem isOneLine_echo {text : String} (h : IsOneLine text) :
    IsOneLine (Dialect.batch.echo text) := by
  have hname : IsOneLine "echo " := by decide
  refine hname.append fun c hc ↦ ?_
  rw [String.toList_ofList, List.mem_flatMap] at hc
  obtain ⟨d, hd, hwritten⟩ := hc
  unfold Dialect.batchEscaped at hwritten
  split_ifs at hwritten with hjoin hpercent
  · rcases List.mem_pair.mp hwritten with rfl | rfl <;> decide
  · rcases List.mem_pair.mp hwritten with rfl | rfl <;> decide
  · exact List.mem_singleton.mp hwritten ▸ h d hd

/-- A text without double quotes and line ends is printed as it is, by one command without
redirection, exactly if it has no caret, bar or angle bracket. So it is with the name in the section
of a script, where the line that prints it stands behind the heading. -/
theorem commands?_echo_iff (text : String) (hquote : '\x22' ∉ text.toList)
    (hline : IsOneLine text) :
    (commands? (Dialect.batch.echo text) = some [printing text] ↔ HasNone unescaped text) ∧
    ∀ (b after : Draft) (code : String), b.dialect = .batch → b.addSection text code = .ok after →
      ∃ line, after.lines = b.lines ++ headingLines .batch text Draft.headingWidth ++ [line] ++
          codePieces code ++ [hyphenLine .batch Draft.headingWidth] ∧
        (commands? line = some [printing ("--- " ++ text)] ↔ HasNone unescaped text) := by
  have hread := hasNone_unread_of_isOneLine hquote hline
  refine ⟨commands?_echo_eq_printing_iff hread, fun b after code hbatch hsection ↦ ?_⟩
  obtain ⟨-, -, rfl⟩ := Draft.addSection_eq_ok_iff.mp hsection
  have hmark : HasNone unread "--- " ∧ HasNone unescaped "--- " ∧ IsOneLine "--- " := by decide
  obtain ⟨hmarkRead, hmarkPlain, hmarkLine⟩ := hmark
  refine ⟨Dialect.batch.echo ("--- " ++ text), ?_, ?_⟩
  · rw [Draft.extend, sectionLines, hbatch, codePieces_of_isOneLine
      (Draft.echo_ne_empty _ _) (isOneLine_echo (hmarkLine.append hline))]
    simp only [List.append_assoc]
  · rw [commands?_echo_eq_printing_iff (hasNone_append_iff.mpr ⟨hmarkRead, hread⟩),
      hasNone_append_iff, and_iff_right hmarkPlain]

/-- A name with characters that are escaped is printed by its section as it is. -/
theorem commands?_echo_tidy :
    ('\x22' ∉ "Clean & tidy 100%".toList ∧ IsOneLine "Clean & tidy 100%") ∧
      ∃ after line, (Draft.empty .batch).addSection "Clean & tidy 100%" "del a" = .ok after ∧
        line ∈ after.lines ∧ commands? line = some [printing "--- Clean & tidy 100%"] := by
  obtain ⟨after, hafter⟩ : ∃ after,
      (Draft.empty .batch).addSection "Clean & tidy 100%" "del a" = .ok after := ⟨_, rfl⟩
  obtain ⟨-, hsection⟩ := commands?_echo_iff "Clean & tidy 100%" (by decide) (by decide)
  obtain ⟨line, hlines, hprinted⟩ := hsection _ after _ rfl hafter
  refine ⟨by decide, after, line, hafter, ?_, hprinted.mpr (by decide)⟩
  rw [hlines]
  simp

/-- What stands behind a bar is a command of its own, what stands behind an angle bracket is where
the command writes to, and a caret is left out. -/
theorem commands?_echo_of_unescaped :
    ('\x22' ∉ "a|b".toList ∧ IsOneLine "a|b") ∧
      commands? (Dialect.batch.echo "a|b") ≠ some [printing "a|b"] ∧
      commands? (Dialect.batch.echo "a|b") = some [printing "a", ⟨['b'], []⟩] ∧
      commands? (Dialect.batch.echo "a>b") = some [⟨"echo a".toList, [['b']]⟩] ∧
      commands? (Dialect.batch.echo "a^b") = some [printing "ab"] := by
  decide

end Scriptorium.Batch
