import Mathlib.Logic.Relation
import Scriptorium.Proofs.ExecutableLines
import Scriptorium.Proofs.ValidCollection

/-!
# Which code is valid

What the check of a code comes to, and what it reports. A line is ignorable if it is blank, if it
begins with a delimiter of comments apart from case, or if it is made of common words alone
(`Dialect.IsIgnorable`, `isIgnored_iff`). All other lines have to stand in a text once.

The lines that a text repeats are found in one run, which remembers the lines it has seen and those
it has reported. What it still reports depends on both: a line that was not reported and returns
later, or that stands in the rest twice (`mem_returning_iff`), and never a line twice
(`nodup_returning`). As the run looks only at the lines that run, nothing changes when ignorable
lines are put between the lines of a text (`repeatedLines_of_inserts`). `check_iff` is the whole.
-/

set_option autoImplicit false
set_option relaxedAutoImplicit false

namespace Scriptorium

namespace Text

/-! ### Delimiters -/

/-- A text begins with a delimiter that no longer word goes on. -/
theorem beginsWith_iff {delimiter text : List Char} :
    beginsWith delimiter text = true ↔
      ∃ rest, text = delimiter ++ rest ∧ ∀ last ∈ delimiter.getLast?, ∀ next ∈ rest.head?,
        isAlphanumeric last = true → isAlphanumeric next = false := by
  unfold beginsWith
  split
  · rename_i hnone
    refine iff_of_false Bool.false_ne_true ?_
    rintro ⟨rest, htext, -⟩
    cases hnone.symm.trans (dropPrefix?_eq_some_iff.mpr htext)
  · rename_i hend
    rw [dropPrefix?_eq_some_iff] at hend
    exact iff_of_true rfl ⟨[], hend, by simp⟩
  · rename_i c more hmore
    rw [dropPrefix?_eq_some_iff] at hmore
    subst hmore
    cases hlast : delimiter.getLast? with
    | none => simp
    | some last => cases hword : isAlphanumeric last <;> simp [hword]

/-! ### Returning lines -/

theorem returning_cons (seen returned rest : List (List Char)) (first : List Char) :
    returning seen returned (first :: rest) =
      if first ∈ seen then
        if first ∈ returned then returning seen returned rest
        else first :: returning seen (first :: returned) rest
      else returning (first :: seen) returned rest := rfl

/-- What is still reported: a line that was not yet, and that was seen and is there, or is there
twice. -/
theorem mem_returning_iff {seen returned lines : List (List Char)} {line : List Char} :
    line ∈ returning seen returned lines ↔
      line ∉ returned ∧ (line ∈ seen ∧ line ∈ lines ∨ 2 ≤ lines.count line) := by
  induction lines generalizing seen returned with
  | nil =>
    have hnil : returning seen returned [] = [] := rfl
    simp [hnil]
  | cons first rest ih =>
    have htwice : 2 ≤ (first :: rest).count first ↔ first ∈ rest := by
      rw [List.count_cons_self, ← List.one_le_count_iff]
      omega
    have hmem : 2 ≤ rest.count first → first ∈ rest :=
      fun h ↦ List.one_le_count_iff.mp (by omega)
    rw [returning_cons]
    by_cases hline : line = first
    · subst hline
      rw [htwice]
      split
      · split
        · rename_i hreturned
          rw [ih]
          exact iff_of_false (fun h ↦ h.1 hreturned) fun h ↦ h.1 hreturned
        · rename_i hseen hnew
          exact iff_of_true List.mem_cons_self ⟨hnew, .inl ⟨hseen, List.mem_cons_self⟩⟩
      · rename_i hunseen
        rw [ih]
        simp only [List.mem_cons_self, true_and, hunseen, false_and, false_or]
        exact and_congr_right fun _ ↦ ⟨fun h ↦ h.elim id hmem, .inl⟩
    · have hcount : (first :: rest).count line = rest.count line :=
        List.count_cons_of_ne fun h ↦ hline h.symm
      rw [hcount, List.mem_cons, or_iff_right hline]
      split
      · split
        · rw [ih]
        · rw [List.mem_cons, or_iff_right hline, ih, List.mem_cons, or_iff_right hline]
      · rw [ih, List.mem_cons, or_iff_right hline]

/-- No line is reported twice. -/
theorem nodup_returning (seen returned lines : List (List Char)) :
    (returning seen returned lines).Nodup := by
  induction lines generalizing seen returned with
  | nil => exact List.nodup_nil
  | cons first rest ih =>
    rw [returning_cons]
    split
    · split
      · exact ih _ _
      · refine List.nodup_cons.mpr ⟨fun hagain ↦ ?_, ih _ _⟩
        exact (mem_returning_iff.mp hagain).1 List.mem_cons_self
    · exact ih _ _

/-- Of the lines that are kept those are reported that are there twice. -/
theorem mem_returning_filter_iff {keep : List Char → Bool} {lines : List (List Char)}
    {line : List Char} :
    line ∈ returning [] [] (lines.filter keep) ↔ keep line = true ∧ 2 ≤ lines.count line := by
  rw [mem_returning_iff]
  simp only [List.not_mem_nil, not_false_eq_true, false_and, false_or, true_and]
  constructor
  · intro htwice
    have hkept : keep line = true :=
      (List.mem_filter.mp (List.one_le_count_iff.mp (Nat.le_of_succ_le htwice))).2
    exact ⟨hkept, List.count_filter hkept ▸ htwice⟩
  · rintro ⟨hkept, htwice⟩
    rwa [List.count_filter hkept]

/-! ### Places between lines -/

/-- Whether a text is what ends a line: a line break, or a carriage return and a line feed. -/
def IsLineEnd (ends : List Char) : Prop :=
  ends = ['\r', '\n'] ∨ ∃ c, ends = [c] ∧ isLineBreak c = true

/-- Whether a line can begin behind a text. -/
def EndsLine (text : List Char) : Prop :=
  text = [] ∨ ∃ first c, text = first ++ [c] ∧ isLineBreak c = true

end Text

namespace Dialect

/-- Whether a line is not code: it is blank, it is a comment, or it is made of common words alone.
Only a comment or a word in lower case is compared, and a delimiter that ends in a letter or digit
has to end there. -/
inductive IsIgnorable (d : Dialect) (line : List Char) : Prop
  | blank (h : ∀ c ∈ line, Text.isBlank c = true)
  | comment {delimiter : String} {rest : List Char} (hmem : delimiter ∈ d.commentDelimiters)
      (hline : Text.lowercase (Text.trim line) = Text.lowercase delimiter.toList ++ rest)
      (hword : ∀ last ∈ (Text.lowercase delimiter.toList).getLast?, ∀ next ∈ rest.head?,
        Text.isAlphanumeric last = true → Text.isAlphanumeric next = false)
  | common (h : ∀ word ∈ Text.words (Text.lowercase (Text.trim line)),
      String.ofList word ∈ d.commonWords)

/-- Whether every line of a text that is code stands in it once. -/
def RunsOnce (d : Dialect) (text : String) : Prop :=
  ∀ line, ¬ d.IsIgnorable line → (Text.lines text.toList).count line ≤ 1

/-- Whether a text becomes another by an ignorable line, put before one of its lines or behind the
last. -/
inductive Inserts (d : Dialect) : List Char → List Char → Prop
  | before {first second line ends : List Char} (hfirst : Text.EndsLine first)
      (hline : d.IsIgnorable line) (hone : ∀ c ∈ line, Text.isLineBreak c = false)
      (hends : Text.IsLineEnd ends) :
      Inserts d (first ++ second) (first ++ (line ++ (ends ++ second)))
  | behind {text line ends : List Char} (hline : d.IsIgnorable line)
      (hone : ∀ c ∈ line, Text.isLineBreak c = false) (hends : Text.IsLineEnd ends) :
      Inserts d text (text ++ (ends ++ line))

/-- Whether a text becomes another by ignorable lines between its lines, and by nothing else. -/
def IsPadded (d : Dialect) (text padded : List Char) : Prop :=
  Relation.ReflTransGen d.Inserts text padded

variable {d : Dialect}

/-- The lines that are ignored are those that are not code. -/
theorem isIgnored_iff {line : List Char} : d.isIgnored line = true ↔ d.IsIgnorable line := by
  have hcomment : d.isComment (Text.lowercase (Text.trim line)) = true ↔
      ∃ delimiter ∈ d.commentDelimiters, Text.beginsWith (Text.lowercase delimiter.toList)
        (Text.lowercase (Text.trim line)) = true := List.any_eq_true
  have hcommon : d.isCommon (Text.lowercase (Text.trim line)) = true ↔
      ∀ word ∈ Text.words (Text.lowercase (Text.trim line)),
        String.ofList word ∈ d.commonWords := by
    have hword : ∀ word : List Char, ((d.commonWords.map String.toList).contains word = true ↔
        String.ofList word ∈ d.commonWords) := by
      intro word
      rw [List.contains_iff_mem, List.mem_map]
      constructor
      · rintro ⟨common, hmem, rfl⟩
        rwa [String.ofList_toList]
      · exact fun hmem ↦ ⟨_, hmem, String.toList_ofList⟩
    simp only [isCommon, List.all_eq_true, hword]
  unfold isIgnored
  simp only [Bool.or_eq_true, List.isEmpty_iff, hcomment, hcommon]
  constructor
  · rintro ((hempty | ⟨delimiter, hmem, hbegins⟩) | hwords)
    · exact .common (by simp [hempty, Text.words, Text.runs])
    · obtain ⟨rest, hline, hword⟩ := Text.beginsWith_iff.mp hbegins
      exact .comment hmem hline hword
    · exact .common hwords
  · rintro (hblank | ⟨hmem, hline, hword⟩ | hwords)
    · refine .inl (.inl ?_)
      rw [Text.trim_of_blank hblank]
      rfl
    · exact .inl (.inr ⟨_, hmem, Text.beginsWith_iff.mpr ⟨_, hline, hword⟩⟩)
    · exact .inr hwords

/-- The lines that are reported are those that are code and stand in the text twice. -/
theorem mem_repeatedLines_iff {line text : String} :
    line ∈ d.repeatedLines text ↔
      ¬ d.IsIgnorable line.toList ∧ 2 ≤ (Text.lines text.toList).count line.toList := by
  have hmem : line ∈ d.repeatedLines text ↔
      line.toList ∈ Text.returning [] [] (d.executableLines text.toList) := by
    rw [repeatedLines, List.mem_map]
    constructor
    · rintro ⟨own, hown, rfl⟩
      rwa [String.toList_ofList]
    · exact fun hline ↦ ⟨_, hline, String.ofList_toList⟩
  rw [hmem, executableLines, Text.mem_returning_filter_iff, ← isIgnored_iff, Bool.not_eq_true',
    Bool.not_eq_true]

theorem nodup_repeatedLines (d : Dialect) (text : String) : (d.repeatedLines text).Nodup :=
  (Text.nodup_returning _ _ _).map fun _ _ h ↦ String.ofList_injective h

/-- Nothing is reported exactly if every line that is code stands in the text once. -/
theorem repeatedLines_eq_nil_iff_runsOnce {text : String} :
    d.repeatedLines text = [] ↔ d.RunsOnce text := by
  rw [List.eq_nil_iff_forall_not_mem]
  constructor
  · intro h line hcode
    have hnot := h (String.ofList line)
    rw [mem_repeatedLines_iff, String.toList_ofList] at hnot
    by_contra htwice
    exact hnot ⟨hcode, by omega⟩
  · intro h line hline
    obtain ⟨hcode, htwice⟩ := mem_repeatedLines_iff.mp hline
    have honce := h line.toList hcode
    omega

/-! ### Ignorable lines -/

theorem executableLines_append_lineEnd {first second ends : List Char}
    (hends : Text.IsLineEnd ends) :
    d.executableLines (first ++ (ends ++ second)) =
      d.executableLines first ++ d.executableLines second := by
  rcases hends with rfl | ⟨c, rfl, hc⟩
  · rw [List.cons_append, d.executableLines_append_cons _ _ (by decide)]
    exact congrArg _ (d.executableLines_append_cons [] second (by decide))
  · exact d.executableLines_append_cons _ _ hc

/-- What begins a line of its own adds the lines that run of its own. -/
theorem executableLines_append_of_endsLine {first : List Char} (hfirst : Text.EndsLine first)
    (second : List Char) :
    d.executableLines (first ++ second) = d.executableLines first ++ d.executableLines second := by
  rcases hfirst with rfl | ⟨own, c, rfl, hc⟩
  · rfl
  · rw [List.append_assoc, List.singleton_append, d.executableLines_append_cons _ _ hc,
      d.executableLines_append_cons _ _ hc, executableLines_nil, List.append_nil]

/-- A line that is put in and is not code does not run. -/
theorem executableLines_of_inserts {text padded : List Char} (h : d.Inserts text padded) :
    d.executableLines padded = d.executableLines text := by
  have hnone : ∀ {line : List Char}, d.IsIgnorable line →
      (∀ c ∈ line, Text.isLineBreak c = false) → d.executableLines line = [] := by
    intro line hline hone
    rw [d.executableLines_of_forall_not hone, if_pos (isIgnored_iff.mpr hline)]
  cases h with
  | before hfirst hline hone hends =>
    rw [executableLines_append_of_endsLine hfirst, executableLines_append_lineEnd hends,
      hnone hline hone, List.nil_append, executableLines_append_of_endsLine hfirst]
  | behind hline hone hends =>
    rw [executableLines_append_lineEnd hends, hnone hline hone, List.append_nil]

variable {text padded : List Char}

/-- Ignorable lines between the lines of a text do not change the lines that run. -/
theorem executableLines_of_isPadded (h : d.IsPadded text padded) :
    d.executableLines padded = d.executableLines text := by
  induction h with
  | refl => rfl
  | tail _ hstep ih => rw [executableLines_of_inserts hstep, ih]

/-- They do not change what is reported. -/
theorem repeatedLines_of_isPadded {text padded : String}
    (h : d.IsPadded text.toList padded.toList) : d.repeatedLines padded = d.repeatedLines text := by
  rw [repeatedLines, repeatedLines, executableLines_of_isPadded h]

end Dialect

/-! ### The check -/

namespace ScriptCode

/-- Whether a code has a character that is not blank, and another code to revert it if any. -/
structure IsProper (code : ScriptCode) : Prop where
  runs : ∃ c ∈ code.execute.toList, Text.isBlank c = false
  reverts : ∀ revert, code.revert = some revert → revert = "" ∨ revert ≠ code.execute

/-- Whether a text is the first of a code and its revert code in which a line stands twice that is
code. -/
def IsFirstRepeating (code : ScriptCode) (d : Dialect) (text : String) : Prop :=
  text = code.execute ∧ ¬ d.RunsOnce text ∨
    d.RunsOnce code.execute ∧ code.revert = some text ∧ ¬ d.RunsOnce text

variable {code : ScriptCode} {d : Dialect} {name : String}

/-- Without revert code nothing is repeated in it. -/
theorem revert_of_not_runsOnce (h : ¬ d.RunsOnce (code.revert.getD "")) :
    code.revert = some (code.revert.getD "") := by
  cases hrevert : code.revert with
  | none =>
    rw [hrevert] at h
    exact absurd (fun _ _ ↦ Nat.zero_le 1) h
  | some revert => rfl

theorem runsOnce_getD_iff :
    d.RunsOnce (code.revert.getD "") ↔ ∀ revert, code.revert = some revert → d.RunsOnce revert := by
  constructor
  · intro h revert hrevert
    rwa [hrevert] at h
  · intro h
    by_contra hrepeats
    exact hrepeats (h _ (revert_of_not_runsOnce hrepeats))

theorem isProper_iff :
    code.IsProper ↔ Text.isBlankText code.execute.toList = false ∧
      code.revert.getD "" ≠ code.execute := by
  have hblank : Text.isBlankText code.execute.toList = false ↔
      ∃ c ∈ code.execute.toList, Text.isBlank c = false := by
    simp [Text.isBlankText]
  rw [hblank]
  constructor
  · rintro ⟨⟨c, hc, hfilled⟩, hreverts⟩
    refine ⟨⟨c, hc, hfilled⟩, fun hsame ↦ ?_⟩
    have hne : code.execute ≠ "" := by
      intro hempty
      simp [hempty] at hc
    cases hrevert : code.revert with
    | none => exact hne (by simpa [hrevert] using hsame.symm)
    | some revert =>
      obtain rfl : revert = code.execute := by simpa [hrevert] using hsame
      exact (hreverts _ hrevert).elim hne fun h ↦ h rfl
  · rintro ⟨hruns, hdiffers⟩
    refine ⟨hruns, fun revert hrevert ↦ .inr ?_⟩
    rwa [hrevert] at hdiffers

/-- Of a proper code the lines are checked, those of the revert code last. -/
theorem check_of_isProper (h : code.IsProper) :
    code.check d name = checkLines d code.execute >>= fun _ ↦
      checkLines d (code.revert.getD "") := by
  obtain ⟨hfilled, hdiffers⟩ := isProper_iff.mp h
  rw [check, hfilled]
  simp only [Bool.false_eq_true, if_false, if_neg hdiffers]

/-- A code that is not proper is refused for that. -/
theorem exists_check_of_not_isProper (d : Dialect) (name : String) (h : ¬ code.IsProper) :
    ∃ e, code.check d name = .error (.script e) := by
  rw [isProper_iff] at h
  rw [check]
  cases hblank : Text.isBlankText code.execute.toList with
  | true => exact ⟨_, rfl⟩
  | false =>
    have hsame : code.revert.getD "" = code.execute := by simpa [hblank] using h
    simp only [Bool.false_eq_true, if_false, if_pos hsame]
    exact ⟨_, rfl⟩

theorem checkLines_eq_ok_iff_runsOnce {text : String} :
    checkLines d text = .ok () ↔ d.RunsOnce text := by
  rw [checkLines_eq_ok_iff, ← d.repeatedLines_eq_nil_iff, Dialect.repeatedLines_eq_nil_iff_runsOnce]

theorem checkLines_eq_error_iff {text : String} {lines : List String} :
    checkLines d text = .error (.repeatedLines lines) ↔
      ¬ d.RunsOnce text ∧ lines = d.repeatedLines text := by
  rw [← Dialect.repeatedLines_eq_nil_iff_runsOnce, checkLines]
  cases d.repeatedLines text with
  | nil => simp
  | cons first rest => simp [eq_comm]

/-- The check of a code, whole. A code is accepted exactly if it has a character that is not blank,
its revert code is empty or another, and in both every line that is code stands once. It is refused
with repeated lines exactly if it is proper otherwise, with those of the first text that has any:
all the lines that are code and stand in that text twice, each told once. Ignorable lines between
the lines of a text never change what is reported of it, so the check of a proper code does not
change if they leave it proper. -/
theorem check_iff (code : ScriptCode) (d : Dialect) (name : String) :
    (code.check d name = .ok () ↔
      code.IsProper ∧ d.RunsOnce code.execute ∧
        ∀ revert, code.revert = some revert → d.RunsOnce revert) ∧
    (∀ lines, code.check d name = .error (.repeatedLines lines) ↔
      code.IsProper ∧ ∃ text, code.IsFirstRepeating d text ∧ lines = d.repeatedLines text) ∧
    (∀ text, (d.repeatedLines text).Nodup ∧
      ∀ line, line ∈ d.repeatedLines text ↔
        ¬ d.IsIgnorable line.toList ∧ 2 ≤ (Text.lines text.toList).count line.toList) ∧
    (∀ text padded : String, d.IsPadded text.toList padded.toList →
      d.repeatedLines padded = d.repeatedLines text) ∧
    ∀ padded : ScriptCode, code.IsProper → padded.IsProper →
      d.IsPadded code.execute.toList padded.execute.toList →
      d.IsPadded (code.revert.getD "").toList (padded.revert.getD "").toList →
      padded.check d name = code.check d name := by
  refine ⟨?_, fun lines ↦ ?_, fun text ↦ ⟨d.nodup_repeatedLines text,
    fun line ↦ Dialect.mem_repeatedLines_iff⟩, fun _ _ h ↦ Dialect.repeatedLines_of_isPadded h, ?_⟩
  · by_cases hproper : code.IsProper
    · rw [check_of_isProper hproper, bind_eq_ok_iff, ← runsOnce_getD_iff,
        ← checkLines_eq_ok_iff_runsOnce, ← checkLines_eq_ok_iff_runsOnce]
      exact ⟨fun ⟨_, hlines⟩ ↦ ⟨hproper, hlines⟩, fun ⟨_, hlines⟩ ↦ ⟨(), hlines⟩⟩
    · obtain ⟨e, he⟩ := exists_check_of_not_isProper d name hproper
      simp [he, hproper]
  · by_cases hproper : code.IsProper
    · rw [check_of_isProper hproper, bind_eq_error_iff]
      constructor
      · rintro (hexecute | ⟨_, hexecute, hrevert⟩)
        · obtain ⟨hrepeats, hlines⟩ := checkLines_eq_error_iff.mp hexecute
          exact ⟨hproper, code.execute, .inl ⟨rfl, hrepeats⟩, hlines⟩
        · obtain ⟨hrepeats, hlines⟩ := checkLines_eq_error_iff.mp hrevert
          exact ⟨hproper, _, .inr ⟨checkLines_eq_ok_iff_runsOnce.mp hexecute,
            revert_of_not_runsOnce hrepeats, hrepeats⟩, hlines⟩
      · rintro ⟨-, text, ⟨rfl, hrepeats⟩ | ⟨hexecute, hrevert, hrepeats⟩, hlines⟩
        · exact .inl (checkLines_eq_error_iff.mpr ⟨hrepeats, hlines⟩)
        · refine .inr ⟨(), checkLines_eq_ok_iff_runsOnce.mpr hexecute, ?_⟩
          rw [hrevert]
          exact checkLines_eq_error_iff.mpr ⟨hrepeats, hlines⟩
    · obtain ⟨e, he⟩ := exists_check_of_not_isProper d name hproper
      simp [he, hproper]
  · intro padded hproper hpadded hexecute hrevert
    rw [check_of_isProper hproper, check_of_isProper hpadded]
    unfold checkLines
    rw [Dialect.repeatedLines_of_isPadded hexecute, Dialect.repeatedLines_of_isPadded hrevert]

/-- A code for the shell that repeats one line, and others that are not code. -/
def repeatingCode : ScriptCode := ⟨"if a\nfi\n# a\nif a\nfi\n# a", some "b"⟩

/-- The code with one line more, of common words. -/
def paddedCode : ScriptCode := ⟨"if a\nfi\n# a\n\tELSE )\r\nif a\nfi\n# a", some "b"⟩

/-- Both are refused for the same line. -/
theorem check_iff_repeating :
    repeatingCode.check .shell "a" = .error (.repeatedLines ["if a"]) ∧
      repeatingCode.IsProper ∧ paddedCode.IsProper ∧
      Dialect.IsPadded .shell repeatingCode.execute.toList paddedCode.execute.toList ∧
      paddedCode.check .shell "a" = .error (.repeatedLines ["if a"]) := by
  have hproper : repeatingCode.IsProper := isProper_iff.mpr ⟨by decide +kernel, by decide⟩
  have hpadded : paddedCode.IsProper := isProper_iff.mpr ⟨by decide +kernel, by decide⟩
  have hbreak : Text.EndsLine "if a\nfi\n# a\n".toList :=
    .inr ⟨"if a\nfi\n# a".toList, '\n', by decide +kernel, by decide⟩
  have hline : Dialect.IsIgnorable .shell "\tELSE )".toList :=
    Dialect.isIgnored_iff.mp (by decide +kernel)
  have hinserts : Dialect.Inserts .shell ("if a\nfi\n# a\n".toList ++ "if a\nfi\n# a".toList)
      ("if a\nfi\n# a\n".toList ++ ("\tELSE )".toList ++ (['\r', '\n'] ++
        "if a\nfi\n# a".toList))) :=
    .before hbreak hline (by simp [Text.isLineBreak]) (.inl rfl)
  have hlines : Dialect.IsPadded .shell repeatingCode.execute.toList paddedCode.execute.toList :=
    .single hinserts
  have hfirst : Dialect.repeatedLines .shell repeatingCode.execute = ["if a"] := by decide +kernel
  have hrepeats : ¬ Dialect.RunsOnce .shell repeatingCode.execute := by
    rw [← Dialect.repeatedLines_eq_nil_iff_runsOnce, hfirst]
    exact List.cons_ne_nil _ _
  have hrefused : repeatingCode.check .shell "a" = .error (.repeatedLines ["if a"]) :=
    ((check_iff repeatingCode .shell "a").2.1 _).mpr
      ⟨hproper, _, .inl ⟨rfl, hrepeats⟩, hfirst.symm⟩
  have hsame := (check_iff repeatingCode .shell "a").2.2.2.2 paddedCode hproper hpadded hlines .refl
  exact ⟨hrefused, hproper, hpadded, hlines, hsame.trans hrefused⟩

end ScriptCode

end Scriptorium
