import Scriptorium.Proofs.KeptPieces
import Scriptorium.Proofs.ScriptLayout

/-!
# Lines of a draft and lines of its text

A draft holds lines, and its text has lines of its own: what its line ends leave between them
(`physicalLines`). The two are the same if no line of the draft has a line end in it. Code is
divided at its line ends when it is written, so no code can break this, and no title can through the
command that prints it. But a comment is written as it is, and a title is one. So the two stay the
same as long as comments and titles have no line end (`physicalLines_eq_lines`). That this is needed
shows a comment with a line end (`physicalLines_comment_of_lineEnd`): what follows the line end is
outside of any comment, and there are more lines in the text than in the draft.

Every step of writing adds lines behind those that are there, which are known from the step alone
(`Draft.Step.eq_extend_of_apply_eq_ok`). What is known of the lines of each step is known of those
of a whole run (`Draft.run_lines`).
-/

set_option autoImplicit false
set_option relaxedAutoImplicit false

namespace Scriptorium

/-! ### Line ends -/

/-- Whether a text has no line end. -/
def IsOneLine (text : String) : Prop := ∀ c ∈ text.toList, Draft.isLineEnd c = false

-- By name, as the instance that is found otherwise may go through every character there is.
instance (text : String) : Decidable (IsOneLine text) := List.decidableBAll _ text.toList

/-- The lines of a text: a line ends at a line feed, at a carriage return, or at both together. -/
def physicalLines (text : String) : List String :=
  ((Text.unifyNewlines text.toList).splitOn '\n').map String.ofList

/-- Whether every physical line of a text begins with the mark of a comment. -/
def IsComment (d : Dialect) (text : String) : Prop :=
  ∀ line ∈ physicalLines text, d.commentMark.toList <+: line.toList

theorem IsOneLine.ne_of_mem {text : String} (h : IsOneLine text) {c : Char} (hc : c ∈ text.toList) :
    c ≠ '\r' ∧ c ≠ '\n' := by
  simpa [Draft.isLineEnd] using h c hc

theorem IsOneLine.append {first second : String} (hfirst : IsOneLine first)
    (hsecond : IsOneLine second) : IsOneLine (first ++ second) := by
  intro c hc
  rw [String.toList_append, List.mem_append] at hc
  exact hc.elim (hfirst c) (hsecond c)

/-- The line end of a dialect is unified to a line feed. -/
theorem unifyNewlines_lineEnd (d : Dialect) (rest : List Char) :
    Text.unifyNewlines (d.lineEnd.toList ++ rest) = '\n' :: Text.unifyNewlines rest := by
  cases d with
  | shell => exact Text.unifyNewlines_cons_of_ne (by decide) rest
  | batch => rfl

/-- Joining lines without line ends leaves them the lines of the text. -/
theorem physicalLines_intercalate (d : Dialect) {lines : List String} (hlines : lines ≠ [])
    (h : ∀ line ∈ lines, IsOneLine line) : physicalLines (d.lineEnd.intercalate lines) = lines := by
  have hunified : Text.unifyNewlines (d.lineEnd.intercalate lines).toList =
      List.intercalate ['\n'] (lines.map String.toList) := by
    induction lines with
    | nil => exact absurd rfl hlines
    | cons line rest ih =>
      have hreturn : ∀ c ∈ line.toList, c ≠ '\r' :=
        fun c hc ↦ ((h line List.mem_cons_self).ne_of_mem hc).1
      cases rest with
      | nil =>
        simpa using Text.unifyNewlines_of_not_mem fun hmem ↦ hreturn _ hmem rfl
      | cons next others =>
        have hrest := ih (List.cons_ne_nil _ _) fun l hl ↦ h l (List.mem_cons_of_mem _ hl)
        rw [String.intercalate_cons_cons, String.toList_append, String.toList_append,
          List.append_assoc, Text.unifyNewlines_append_of_forall_ne hreturn, unifyNewlines_lineEnd,
          hrest]
        simp
  have hfeed : ∀ text ∈ lines.map String.toList, '\n' ∉ text := by
    intro text htext hmem
    obtain ⟨line, hline, rfl⟩ := List.mem_map.mp htext
    exact ((h line hline).ne_of_mem hmem).2 rfl
  rw [physicalLines, hunified, List.splitOn_intercalate '\n' hfeed (by simpa using hlines),
    List.map_map]
  simp [Function.comp_def]

/-- A text without line ends is its only line. -/
theorem physicalLines_of_isOneLine {text : String} (h : IsOneLine text) :
    physicalLines text = [text] := by
  have hsingle : ∀ line ∈ [text], IsOneLine line := by simpa using h
  simpa using physicalLines_intercalate .shell (List.cons_ne_nil _ _) hsingle

/-! ### Single lines -/

/-- No line of code has a line end. -/
theorem isOneLine_of_mem_codePieces {code line : String} (h : line ∈ codePieces code) :
    IsOneLine line := by
  obtain ⟨piece, hpiece, rfl⟩ := List.mem_map.mp h
  intro c hc
  rw [String.toList_ofList] at hc
  exact Text.eq_false_of_mem_splitOnP (List.mem_filter.mp hpiece).1 c hc

/-- Code without a line end is its only line. -/
theorem codePieces_of_isOneLine {code : String} (hcode : code ≠ "") (h : IsOneLine code) :
    codePieces code = [code] := by
  have hsplit : code.toList.splitOnP Draft.isLineEnd = [code.toList] :=
    List.splitOnP_eq_singleton fun c hc ↦ by simp [h c hc]
  simp [codePieces, hsplit, hcode]

theorem isOneLine_hyphens (count : Int) : IsOneLine (Draft.hyphens count) := by
  intro c hc
  rw [Draft.hyphens, String.toList_ofList] at hc
  rw [List.eq_of_mem_replicate hc]
  rfl

/-- A line of comment begins with the mark of comments, which has no blank to be taken off. -/
theorem commentMark_prefix_commentLine (d : Dialect) (text : String) :
    d.commentMark.toList <+: (Draft.commentLine d text).toList := by
  have hmark : Text.isBlank '#' = false ∧ Text.isBlank ':' = false := by decide
  cases d with
  | shell =>
    simp [Draft.commentLine, Dialect.commentMark, Text.trimRight,
      Text.trimRightWhile_cons_of_not hmark.1]
  | batch =>
    simp [Draft.commentLine, Dialect.commentMark, Text.trimRight,
      Text.trimRightWhile_cons_of_not hmark.2]

/-- A comment without a line end is one line. -/
theorem isOneLine_commentLine (d : Dialect) {text : String} (h : IsOneLine text) :
    IsOneLine (Draft.commentLine d text) := by
  have hmark : IsOneLine (d.commentMark ++ " ") := by cases d <;> decide
  intro c hc
  rw [Draft.commentLine, String.toList_ofList] at hc
  exact (hmark.append h) c ((Text.trimRightWhile_prefix _ _).subset hc)

theorem isComment_commentLine (d : Dialect) {text : String} (h : IsOneLine text) :
    IsComment d (Draft.commentLine d text) := by
  intro line hline
  rw [physicalLines_of_isOneLine (isOneLine_commentLine d h), List.mem_singleton] at hline
  exact hline ▸ commentMark_prefix_commentLine d text

/-- A heading is made of comments: its title, alone or between hyphens and lines of them. -/
theorem exists_of_mem_headingLines {d : Dialect} {title line : String} {width : Nat}
    (htitle : IsOneLine title) (h : line ∈ headingLines d title width) :
    ∃ text, IsOneLine text ∧ line = Draft.commentLine d text := by
  unfold headingLines at h
  split at h
  · exact ⟨title, htitle, List.mem_singleton.mp h⟩
  · simp only [List.mem_cons, List.not_mem_nil, or_false] at h
    rcases h with rfl | rfl | rfl
    · exact ⟨_, isOneLine_hyphens Draft.headingWidth, rfl⟩
    · refine ⟨_, ?_, rfl⟩
      exact ((isOneLine_hyphens (_ : Nat)).append htitle).append (isOneLine_hyphens (_ : Nat))
    · exact ⟨_, isOneLine_hyphens Draft.headingWidth, rfl⟩

/-- A section has no line end in a line if its title has none. -/
theorem isOneLine_of_mem_sectionLines {d : Dialect} {title code line : String}
    (htitle : IsOneLine title) (h : line ∈ sectionLines d title code) : IsOneLine line := by
  simp only [sectionLines, List.mem_append, List.mem_singleton] at h
  rcases h with ((hheading | hecho) | hcode) | rfl
  · obtain ⟨text, htext, rfl⟩ := exists_of_mem_headingLines htitle hheading
    exact isOneLine_commentLine d htext
  · exact isOneLine_of_mem_codePieces hecho
  · exact isOneLine_of_mem_codePieces hcode
  · exact isOneLine_commentLine d (isOneLine_hyphens Draft.headingWidth)

namespace Draft

/-! ### Steps of writing -/

/-- A step of writing a draft. -/
inductive Step where
  | code (text : String)
  | comment (text : String)
  | rule (count : Int)
  | heading (title : String) (width : Int)
  | addSection (title contents : String)
  deriving DecidableEq

namespace Step

/-- What a step makes of a draft. -/
def apply (b : Draft) : Step → Except Error Draft
  | .code text => .ok (b.code text)
  | .comment text => .ok (b.comment text)
  | .rule count => .ok (b.rule count)
  | .heading title width => b.heading title width
  | .addSection title contents => b.addSection title contents

/-- The lines that a step adds if it does not fail. -/
def lines (d : Dialect) : Step → List String
  | .code text => if text = "" then [""] else codePieces text
  | .comment text => [commentLine d text]
  | .rule count => [commentLine d (hyphens count)]
  | .heading title width => headingLines d title width.toNat
  | .addSection title contents => sectionLines d title contents

/-- The texts that a step writes as comments. -/
def comments : Step → List String
  | .code _ | .rule _ => []
  | .comment text => [text]
  | .heading title _ | .addSection title _ => [title]

/-- Whether a step writes nothing but comments. -/
def isCommentary : Step → Bool
  | .comment _ | .rule _ | .heading _ _ => true
  | .code _ | .addSection _ _ => false

variable {d : Dialect} {b after : Draft} {step : Step} {line : String}

/-- A step adds its lines behind those that are there. -/
theorem eq_extend_of_apply_eq_ok (h : step.apply b = .ok after) :
    after = b.extend (step.lines b.dialect) := by
  cases step with
  | code text =>
    obtain rfl := Except.ok.inj h
    by_cases htext : text = ""
    · rw [htext]
      rfl
    · rw [lines, if_neg htext, code_of_ne htext]
  | comment text =>
    obtain rfl := Except.ok.inj h
    rfl
  | rule count =>
    obtain rfl := Except.ok.inj h
    rfl
  | heading title width =>
    have htitle : title ≠ "" := by
      rintro rfl
      cases h
    rw [apply, heading_eq_ok htitle] at h
    exact (Except.ok.inj h).symm
  | addSection title contents => exact (addSection_eq_ok_iff.mp h).2.2

/-- No line that a step adds has a line end if no comment of it has one. -/
theorem isOneLine_of_mem_lines (hcomments : ∀ text ∈ step.comments, IsOneLine text)
    (h : line ∈ step.lines d) : IsOneLine line := by
  cases step with
  | code text =>
    by_cases htext : text = ""
    · rw [lines, if_pos htext, List.mem_singleton] at h
      rw [h]
      decide
    · rw [lines, if_neg htext] at h
      exact isOneLine_of_mem_codePieces h
  | comment text =>
    rw [List.mem_singleton.mp h]
    exact isOneLine_commentLine d (hcomments text List.mem_cons_self)
  | rule count =>
    rw [List.mem_singleton.mp h]
    exact isOneLine_commentLine d (isOneLine_hyphens count)
  | heading title width =>
    obtain ⟨text, htext, rfl⟩ :=
      exists_of_mem_headingLines (hcomments title List.mem_cons_self) h
    exact isOneLine_commentLine d htext
  | addSection title contents =>
    exact isOneLine_of_mem_sectionLines (hcomments title List.mem_cons_self) h

/-- What a step of comments adds are comments if none of them has a line end. -/
theorem isComment_of_mem_lines (hstep : step.isCommentary)
    (hcomments : ∀ text ∈ step.comments, IsOneLine text) (h : line ∈ step.lines d) :
    IsComment d line := by
  cases step with
  | code text => cases hstep
  | comment text =>
    rw [List.mem_singleton.mp h]
    exact isComment_commentLine d (hcomments text List.mem_cons_self)
  | rule count =>
    rw [List.mem_singleton.mp h]
    exact isComment_commentLine d (isOneLine_hyphens count)
  | heading title width =>
    obtain ⟨text, htext, rfl⟩ :=
      exists_of_mem_headingLines (hcomments title List.mem_cons_self) h
    exact isComment_commentLine d htext
  | addSection title contents => cases hstep

end Step

/-- A draft after steps; one that fails leaves it as it is. -/
def run (b : Draft) : List Step → Draft
  | [] => b
  | step :: rest =>
    match step.apply b with
    | .ok after => after.run rest
    | .error _ => b.run rest

/-- A run writes in the dialect of the draft, and every line that it adds is one of its steps. -/
theorem run_lines (b : Draft) (steps : List Step) :
    (b.run steps).dialect = b.dialect ∧ ∀ line ∈ (b.run steps).lines,
      line ∈ b.lines ∨ ∃ step ∈ steps, line ∈ step.lines b.dialect := by
  induction steps generalizing b with
  | nil => exact ⟨rfl, fun line hline ↦ Or.inl hline⟩
  | cons step rest ih =>
    rw [run]
    cases hstep : step.apply b with
    | error e =>
      obtain ⟨hdialect, hlines⟩ := ih b
      refine ⟨hdialect, fun line hline ↦ ?_⟩
      rcases hlines line hline with hold | ⟨other, hother, hadded⟩
      · exact Or.inl hold
      · exact Or.inr ⟨other, List.mem_cons_of_mem _ hother, hadded⟩
    | ok after =>
      obtain rfl := Step.eq_extend_of_apply_eq_ok hstep
      obtain ⟨hdialect, hlines⟩ := ih (b.extend (step.lines b.dialect))
      refine ⟨hdialect, fun line hline ↦ ?_⟩
      rcases hlines line hline with hold | ⟨other, hother, hadded⟩
      · rcases List.mem_append.mp hold with hbefore | hown
        · exact Or.inl hbefore
        · exact Or.inr ⟨step, List.mem_cons_self, hown⟩
      · exact Or.inr ⟨other, List.mem_cons_of_mem _ hother, hadded⟩

/-- The lines of a draft without line ends in them are those of its text. -/
theorem physicalLines_text {b : Draft} (hsome : b.lines ≠ [])
    (h : ∀ line ∈ b.lines, IsOneLine line) : physicalLines b.text = b.lines :=
  physicalLines_intercalate b.dialect hsome h

end Draft

/-! ### Scripts -/

/-- A title of one line is that of a script with a name of one line. -/
theorem isOneLine_title {s : Selection} (h : IsOneLine s.script.name) : IsOneLine s.title := by
  unfold Selection.title
  split
  · exact h.append (by decide)
  · exact h

/-- A script has no line end in a line if no name of a selected script has one. -/
theorem isOneLine_of_mem_scriptLines {d : Dialect} {w : Wrapping} {selections : List Selection}
    {line : String} (hnames : ∀ s ∈ selections, IsOneLine s.script.name)
    (h : line ∈ scriptLines d w selections) : IsOneLine line := by
  have hblank : IsOneLine "" := by decide
  simp only [scriptLines, openingLines, sectionsLines, closingLines, List.mem_append,
    List.mem_flatMap] at h
  rcases h with (hopening | ⟨s, hs, hsection⟩) | hclosing
  · split at hopening
    · cases hopening
    · rcases List.mem_append.mp hopening with hcode | hempty
      · exact isOneLine_of_mem_codePieces hcode
      · exact List.mem_singleton.mp hempty ▸ hblank
  · rcases hsection with hlines | hempty
    · exact isOneLine_of_mem_sectionLines (isOneLine_title (hnames s hs)) hlines
    · exact List.mem_singleton.mp hempty ▸ hblank
  · split at hclosing
    · cases hclosing
    · rcases List.mem_cons.mp hclosing with rfl | hcode
      · exact hblank
      · exact isOneLine_of_mem_codePieces hcode

open Generated in
/-- A draft has the lines of its text, and so does a script, as long as comments and titles have no
line end. The first half is about every run of steps from an empty draft: no line holds a line end,
the lines of the text are those of the draft, and what a step of comments adds are comments. The
second half is about every script that is made from a selection: its lines are those of its layout,
so that its positions are ranges of lines of the text, and its headings are comments. -/
theorem physicalLines_eq_lines (d : Dialect) (steps : List Draft.Step) (selections : List Selection)
    (w : Wrapping) (g : Generated) :
    ((∀ step ∈ steps, ∀ text ∈ step.comments, IsOneLine text) →
      (∀ line ∈ ((Draft.empty d).run steps).lines, IsOneLine line) ∧
      (((Draft.empty d).run steps).lines ≠ [] →
        physicalLines ((Draft.empty d).run steps).text = ((Draft.empty d).run steps).lines) ∧
      ∀ step ∈ steps, step.isCommentary → ∀ b after : Draft, step.apply b = .ok after →
        ∃ added, after = b.extend added ∧ ∀ line ∈ added, IsComment b.dialect line) ∧
    ((∀ s ∈ selections, IsOneLine s.script.name) → selections ≠ [] →
      ofSelections? selections w = .ok g →
        ∃ d, Dialect.ofValue? w.language = .ok d ∧
          physicalLines g.code = scriptLines d w selections ∧
          ∀ (i : Nat) (s : Selection) (p : Position),
            selections[i]? = some s → g.positions[i]? = some p →
              linesAt (physicalLines g.code) p = s.lines d ∧
                ∀ line ∈ headingLines d s.title Draft.headingWidth, IsComment d line) := by
  constructor
  · intro hcomments
    obtain ⟨-, hlines⟩ := (Draft.empty d).run_lines steps
    have hsingle : ∀ line ∈ ((Draft.empty d).run steps).lines, IsOneLine line := by
      intro line hline
      rcases hlines line hline with hold | ⟨step, hstep, hadded⟩
      · cases hold
      · exact Draft.Step.isOneLine_of_mem_lines (hcomments step hstep) hadded
    refine ⟨hsingle, fun hsome ↦ Draft.physicalLines_text hsome hsingle, ?_⟩
    intro step hstep hcommentary b after hafter
    refine ⟨step.lines b.dialect, Draft.Step.eq_extend_of_apply_eq_ok hafter, ?_⟩
    exact fun line hline ↦
      Draft.Step.isComment_of_mem_lines hcommentary (hcomments step hstep) hline
  · intro hnames hsome hg
    obtain ⟨d, hd, hcode, hpositions⟩ := ofSelections?_eq_ok hsome hg
    have hphysical : physicalLines g.code = scriptLines d w selections := by
      rw [hcode]
      exact physicalLines_intercalate d (scriptLines_ne_nil d w hsome)
        fun line hline ↦ isOneLine_of_mem_scriptLines hnames hline
    refine ⟨d, hd, hphysical, ?_⟩
    intro i s p hs hp
    rw [hpositions] at hp
    refine ⟨?_, ?_⟩
    · rw [hphysical]
      exact (linesAt_positionsFrom (openingLines w) (closingLines w) hs hp).2.2
    · intro line hline
      obtain ⟨text, htext, rfl⟩ := exists_of_mem_headingLines
        (isOneLine_title (hnames s (List.mem_of_getElem? hs))) hline
      exact isComment_commentLine d htext

/-- Steps of every kind whose comments have no line end, one of which fails. -/
def plainSteps : List Draft.Step :=
  [.comment "two  ", .code "a\r\nb\n", .heading "" 58, .addSection "Clean" "del a\n\ndel b"]

open Generated in
/-- The run of these steps leaves ten lines, which are those of its text, and a script with names of
one line has the lines of its layout. -/
theorem physicalLines_plainSteps :
    ∃ g, (∀ step ∈ plainSteps, ∀ text ∈ step.comments, IsOneLine text) ∧
      ((Draft.empty .batch).run plainSteps).size = 10 ∧
      physicalLines ((Draft.empty .batch).run plainSteps).text =
        ((Draft.empty .batch).run plainSteps).lines ∧
      (∀ s ∈ cleanSelections, IsOneLine s.script.name) ∧
      ofSelections? cleanSelections cleanWrapping = .ok g ∧
      physicalLines g.code = scriptLines .batch cleanWrapping cleanSelections := by
  obtain ⟨g, hg⟩ : ∃ g, ofSelections? cleanSelections cleanWrapping = .ok g := ⟨_, rfl⟩
  have hcomments : ∀ step ∈ plainSteps, ∀ text ∈ step.comments, IsOneLine text := by decide
  have hnames : ∀ s ∈ cleanSelections, IsOneLine s.script.name := by decide
  obtain ⟨hsteps, hscripts⟩ :=
    physicalLines_eq_lines .batch plainSteps cleanSelections cleanWrapping g
  obtain ⟨-, hlines, -⟩ := hsteps hcomments
  obtain ⟨d, hd, hphysical, -⟩ := hscripts hnames (by decide) hg
  obtain rfl : Dialect.batch = d := Except.ok.inj hd
  exact ⟨g, hcomments, by decide, hlines (by decide), hnames, hg, hphysical⟩

/-- A comment with a line end is one line of the draft, which holds that line end, and two lines of
its text, of which the second is no comment. -/
theorem physicalLines_comment_of_lineEnd :
    ∃ b, b = (Draft.empty .shell).run [.comment "a\nb"] ∧
      ¬ (∀ line ∈ b.lines, IsOneLine line) ∧
      (physicalLines b.text).length ≠ b.size ∧
      ¬ (∀ line ∈ b.lines, IsComment .shell line) := by
  have hlines : physicalLines "# a\nb" = ["# a", "b"] := by decide
  refine ⟨_, rfl, by decide, by decide, ?_⟩
  intro hcomment
  have hsecond := hcomment "# a\nb" List.mem_cons_self "b" (by rw [hlines]; decide)
  revert hsecond
  decide

end Scriptorium
