import Scriptorium.Proofs.Passage

/-!
# Tokens of passages

What `Token.scan` makes of a passage. A line with a tag leaves the tokens of the tag and nothing
else: the indentation is taken off the text before it (`withoutIndent_append`), and the end of the
line goes with the mark that closes the tag (`scanFrom_around`). So the text around it is scanned as
if the line were not there, and a line starts behind it as one started before it.

`Passage.Parses` relates a passage to its tokens and to its statements. It leaves open on which
lines they stand. A scan of a passage comes to such tokens, whatever follows the passage, if a scan
can resume there (`scans_printed`).
-/

set_option autoImplicit false
set_option relaxedAutoImplicit false

namespace Scriptorium.Template

open Text

/-! ### Text before a tag -/

/-- Indentation after text that ends a line is taken off. -/
theorem withoutIndent_append {startsLine : Bool} {text indent : List Char}
    (hline : atLineStart startsLine text) (hblank : isBlankText indent)
    (hfeed : ∀ c ∈ indent, c ≠ '\n') : withoutIndent startsLine (text ++ indent) = text := by
  have htake : (text ++ indent).reverse.takeWhile (· != '\n') = indent.reverse := by
    rw [List.reverse_append, List.takeWhile_append_of_pos]
    · have hnone : text.reverse.takeWhile (· != '\n') = [] := by
        rw [atLineStart, ← List.head?_reverse] at hline
        cases hreverse : text.reverse with
        | nil => rfl
        | cons c others =>
          rw [hreverse] at hline
          obtain rfl := beq_iff_eq.mp hline
          rfl
      rw [hnone, List.append_nil]
    · intro c hc
      exact bne_iff_ne.mpr (hfeed c (List.mem_reverse.mp hc))
  have hstarts : startsLine = true ∨ text ≠ [] := by
    by_cases htext : text = []
    · rw [htext] at hline
      exact Or.inl hline
    · exact Or.inr htext
  have hcondition : ((startsLine || !text.isEmpty) && isBlankText indent) = true := by
    rw [hblank, Bool.and_true]
    rcases hstarts with hstart | htext
    · rw [hstart, Bool.true_or]
    · rw [List.isEmpty_eq_false_iff.mpr htext, Bool.not_false, Bool.or_true]
  have hbefore : (text ++ indent).take ((text ++ indent).length - indent.length) = text := by
    rw [List.length_append, Nat.add_sub_cancel, List.take_left]
  rw [withoutIndent, htake, List.reverse_reverse]
  simp only [hbefore, hcondition, if_true]

/-- Of text that ends a line and the indentation of a tag the text stays. -/
theorem textBefore_indent {startsLine : Bool} {text : List Char}
    (hline : atLineStart startsLine text) (margin : Margin) :
    textBefore startsLine .statement .plain (text ++ margin.indent) = text := by
  refine withoutIndent_append hline margin.isBlankText_indent ?_
  intro c hc
  rcases margin.eq_of_mem_indent hc with rfl | rfl <;> decide

/-- A tag opens a statement. -/
theorem readOpening?_written (tag : Tag) (rest : List Char) :
    readOpening? (tag.written ++ rest) = some (.statement, .plain, tag.inner ++ rest) := by
  cases tag <;> rfl

/-- A text is divided at a line with a tag behind the indentation. -/
theorem splitAtOpening_around (margin : Margin) (tag : Tag) (rest : List Char) :
    splitAtOpening (margin.around tag ++ rest) =
      (margin.indent, some (.statement, .plain, tag.inner ++ (lineEnd margin.ended ++ rest))) := by
  have hindent : isTagFree margin.indent := by
    refine isTagFree_of_forall_ne ?_
    intro c hc
    rcases margin.eq_of_mem_indent hc with rfl | rfl <;> decide
  have hplain : IsDetached (tag.written ++ (lineEnd margin.ended ++ rest)) := by
    have haround := isDetached_around { ended := margin.ended } tag rest
    rwa [Margin.around, List.nil_append, List.append_assoc] at haround
  have hopening : splitAtOpening (tag.written ++ (lineEnd margin.ended ++ rest)) =
      ([], some (.statement, .plain, tag.inner ++ (lineEnd margin.ended ++ rest))) := by
    have hread := readOpening?_written tag (lineEnd margin.ended ++ rest)
    rw [Tag.written, List.cons_append] at hread ⊢
    simp only [splitAtOpening, hread]
  rw [Margin.around, List.append_assoc, List.append_assoc, splitAtOpening_append hindent hplain,
    hopening, List.append_nil]

/-- A scan can go on at a line with a tag. -/
theorem resumes_around (margin : Margin) (tag : Tag) (rest : List Char) :
    Resumes (margin.around tag ++ rest) := by
  intro text size newlines startsLine htext hline
  have hsome : margin.around tag ++ rest ≠ [] := by
    rw [Margin.around, Tag.written]
    simp
  have hsplit := splitAtOpening_append htext (isDetached_around margin tag rest)
  have hown := splitAtOpening_around margin tag rest
  have hstripped := textBefore_indent (hline hsome) margin
  have hnothing : textBefore true .statement .plain ([] ++ margin.indent) = [] :=
    textBefore_indent rfl margin
  rw [List.nil_append] at hnothing
  have hdrop : (text ++ (margin.around tag ++ rest)).drop (text ++ margin.indent).length =
      (margin.around tag ++ rest).drop margin.indent.length := by
    rw [List.length_append, ← List.drop_drop, List.drop_left]
  rw [hown] at hsplit
  rw [scanFrom_text_tag hsplit (Or.inr rfl), scanFrom_text_tag hown (Or.inr rfl), hstripped,
    hnothing, hdrop]
  rfl

/-! ### Lines with a tag -/

/-- The tokens of a tag. -/
def Tag.tokens (line : Nat) (tag : Tag) : List Token :=
  ⟨line, .statementBegin⟩ :: (tag.words.map (fun word ↦ ⟨line, .name word⟩) ++
    [⟨line, .statementEnd⟩])

/-- Words and the mark after them are on one line. -/
theorem lineOf_words {words : List String} (h : ∀ word ∈ words, isPlainName word.toList)
    (more : List Char) (newlines : Nat) :
    lineOf newlines (words.flatMap (fun word ↦ ' ' :: word.toList) ++
      ' ' :: '%' :: '\x7d' :: more) = lineOf newlines more := by
  have hwords : ∀ c ∈ words.flatMap (fun word ↦ ' ' :: word.toList), c ≠ '\n' := by
    intro c hc
    obtain ⟨word, hword, hmem⟩ := List.mem_flatMap.mp hc
    rcases List.mem_cons.mp hmem with rfl | hname
    · decide
    · exact (ne_of_isNameRest (isNameRest_of_mem (h word hword) hname)).2.2
  have hmark : ∀ c ∈ [' ', '%', '\x7d'], c ≠ '\n' := by simp
  rw [lineOf_append hwords]
  exact lineOf_append hmark newlines more

/-- Each word leaves a token, and the mark after them another. -/
theorem scanFrom_words {words : List String} (h : ∀ word ∈ words, isPlainName word.toList)
    (more : List Char) (size newlines : Nat) :
    Token.scanFrom size newlines (.tag .statement [] false)
        (words.flatMap (fun word ↦ ' ' :: word.toList) ++ ' ' :: '%' :: '\x7d' :: more) =
      words.map (fun word ↦ ⟨lineOf newlines more, .name word⟩) ++
        ⟨lineOf newlines more, .statementEnd⟩ ::
          Token.scanFrom size newlines
            (.text (endsLine ('%' :: '\x7d' :: more) (dropNewline more))) (dropNewline more) := by
  induction words with
  | nil =>
    have hend : readTagEnd? .statement ('%' :: '\x7d' :: more) = some (dropNewline more) := rfl
    have hmark : ∀ c ∈ ['%', '\x7d'], c ≠ '\n' := by simp
    have hline : lineOf newlines ('%' :: '\x7d' :: more) = lineOf newlines more :=
      lineOf_append hmark newlines more
    change Token.scanFrom size newlines (.tag .statement [] false)
      (' ' :: '%' :: '\x7d' :: more) = _
    rw [scanFrom_tag_space, scanFrom_tag_end hend, hline]
    rfl
  | cons word rest ih =>
    have hrest : ∀ w ∈ rest, isPlainName w.toList := fun w hw ↦ h w (List.mem_cons_of_mem _ hw)
    have hline := lineOf_words hrest more newlines
    have hafter : ∀ c ∈ (rest.flatMap (fun word ↦ ' ' :: word.toList) ++
        ' ' :: '%' :: '\x7d' :: more).head?, isWord c = false := by
      have hspace : isWord ' ' = false := by decide +kernel
      cases rest <;> simp [hspace]
    rw [List.flatMap_cons, List.append_assoc, List.cons_append, scanFrom_tag_space,
      scanFrom_tag_name (h word List.mem_cons_self) hafter, ih hrest, hline, String.ofList_toList]
    rfl

/-- A line with a tag leaves the tokens of the tag, and another line starts behind it. -/
theorem scanFrom_around (margin : Margin) (tag : Tag) {rest : List Char}
    (h : rest ≠ [] → margin.ended) (size newlines : Nat) :
    ∃ line, Token.scanFrom size newlines (.text true) (margin.around tag ++ rest) =
      tag.tokens line ++ Token.scanFrom size newlines (.text true) rest := by
  have hown := splitAtOpening_around margin tag rest
  have hnothing : textBefore true .statement .plain ([] ++ margin.indent) = [] :=
    textBefore_indent rfl margin
  rw [List.nil_append] at hnothing
  have hinner : tag.inner ++ (lineEnd margin.ended ++ rest) =
      tag.words.flatMap (fun word ↦ ' ' :: word.toList) ++
        ' ' :: '%' :: '\x7d' :: (lineEnd margin.ended ++ rest) := by
    simp [Tag.inner]
  have hbegin : (margin.around tag ++ rest).drop margin.indent.length =
      '\x7b' :: '%' :: (tag.inner ++ (lineEnd margin.ended ++ rest)) := by
    rw [Margin.around, List.append_assoc, List.drop_left]
    simp [Tag.written]
  have hmark : ∀ c ∈ '\x7b' :: '%' :: tag.inner, c ≠ '\n' := by
    intro c hc
    simp only [List.mem_cons] at hc
    rcases hc with rfl | rfl | hinner
    · decide
    · decide
    · exact (Tag.ne_of_mem_inner hinner).2.2
  have hline : lineOf newlines ('\x7b' :: '%' :: (tag.inner ++ (lineEnd margin.ended ++ rest))) =
      lineOf newlines (lineEnd margin.ended ++ rest) := lineOf_append hmark newlines _
  -- The end of the line is taken along with the mark, and where there is none nothing is left.
  have hbehind : Token.scanFrom size newlines
      (.text (endsLine ('%' :: '\x7d' :: (lineEnd margin.ended ++ rest))
        (dropNewline (lineEnd margin.ended ++ rest))))
          (dropNewline (lineEnd margin.ended ++ rest)) =
      Token.scanFrom size newlines (.text true) rest := by
    cases hended : margin.ended with
    | true =>
      have hends : endsLine ('%' :: '\x7d' :: '\n' :: rest) rest = true := by
        have hlength : rest.length + 1 + 1 + 1 - rest.length = 3 := by omega
        simp [endsLine, hlength]
      show Token.scanFrom size newlines (.text (endsLine ('%' :: '\x7d' :: '\n' :: rest) rest)) rest
        = _
      rw [hends]
    | false =>
      obtain rfl : rest = [] := by
        by_contra hsome
        rw [h hsome] at hended
        cases hended
      exact (scanFrom_nil _ _ _).trans (scanFrom_nil _ _ _).symm
  refine ⟨lineOf newlines (lineEnd margin.ended ++ rest), ?_⟩
  rw [scanFrom_text_tag hown (Or.inr rfl), hnothing, hbegin, hline, hinner,
    scanFrom_words (fun word hword ↦ Tag.isPlainName_of_mem hword), hbehind, Tag.tokens]
  show _ :: _ = _
  simp [TagKind.beginLexeme]

/-! ### Runs -/

/-- A line starts behind a run of lines that are ended. -/
theorem atLineStart_runLayout {run : List TextLine} (h : ∀ line ∈ run, line.ended) :
    atLineStart true (runLayout run).unified := by
  have hunified : (runLayout run).unified = run.flatMap fun line ↦
      line.segments.flatMap Segment.unified ++ lineEnd line.ended := by
    have hline : ∀ line : TextLine, line.pieces.flatMap Segment.unified =
        line.segments.flatMap Segment.unified ++ lineEnd line.ended := by
      intro line
      rw [TextLine.pieces, List.flatMap_append, List.flatMap_singleton]
      rfl
    rw [runLayout, Layout.unified_ofSegments, List.flatMap_assoc]
    simp only [hline]
  rw [hunified]
  clear hunified
  induction run with
  | nil => rfl
  | cons line rest ih =>
    have hended : lineEnd line.ended = ['\n'] := by
      rw [h line List.mem_cons_self]
      rfl
    have hline : atLineStart true (line.segments.flatMap Segment.unified ++ ['\n']) = true := by
      rw [atLineStart_append]
      rfl
    rw [List.flatMap_cons, hended, atLineStart_append, hline]
    exact ih fun other hother ↦ h other (List.mem_cons_of_mem _ hother)

/-- A passage without lines has no text. -/
theorem Passage.unified_of_lines_eq_nil {p : Passage} (h : p.lines = []) : p.unified = [] := by
  cases p with
  | text run =>
    obtain rfl : run = [] := List.map_eq_nil_iff.mp h
    rfl
  | guarded before opening name body closing rest => simp [lines] at h
  | either before opening name body middle otherwise closing rest => simp [lines] at h

/-! ### Passages -/

/-- What the tokens and the statements of a passage are, up to the lines on which they stand: those
of its runs and of its tags, and a branch for every tag that opens one. -/
inductive Passage.Parses : Passage → List Token → List Statement → Prop
  | text (run : List TextLine) (newlines : Nat) :
    Parses (.text run) ((runLayout run).tokens newlines) ((runLayout run).statementsFrom newlines)
  | guarded (before : List TextLine) (newlines : Nat) (opening : Margin) (first : Nat)
      (name : ArgumentName) {body : Passage} {inside : List Token} {inner : List Statement}
      (hbody : Parses body inside inner) (closing : Margin) (last : Nat) {rest : Passage}
      {behind : List Token} {after : List Statement} (hrest : Parses rest behind after) :
    Parses (.guarded before opening name body closing rest)
      ((runLayout before).tokens newlines ++ ((Tag.opening name).tokens first ++
        (inside ++ (Tag.closing.tokens last ++ behind))))
      ((runLayout before).statementsFrom newlines ++
        .branch [(.name first name.text, inner)] [] :: after)
  | either (before : List TextLine) (newlines : Nat) (opening : Margin) (first : Nat)
      (name : ArgumentName) {body : Passage} {inside : List Token} {inner : List Statement}
      (hbody : Parses body inside inner) (middle : Margin) (second : Nat) {otherwise : Passage}
      {beside : List Token} {other : List Statement} (hotherwise : Parses otherwise beside other)
      (closing : Margin) (last : Nat) {rest : Passage}
      {behind : List Token} {after : List Statement} (hrest : Parses rest behind after) :
    Parses (.either before opening name body middle otherwise closing rest)
      ((runLayout before).tokens newlines ++ ((Tag.opening name).tokens first ++
        (inside ++ (Tag.alternative.tokens second ++
          (beside ++ (Tag.closing.tokens last ++ behind))))))
      ((runLayout before).statementsFrom newlines ++
        .branch [(.name first name.text, inner)] other :: after)

/-- The tokens of a run before a line with a tag. -/
theorem scanFrom_run_around {run : List TextLine} (htags : (runLayout run).isTagFree)
    (hrun : areEnded true (run.map .text)) (margin : Margin) (tag : Tag) (rest : List Char)
    (h : rest ≠ [] → margin.ended) (size newlines : Nat) :
    ∃ before line, Token.scanFrom size newlines (.text true)
        ((runLayout run).unified ++ (margin.around tag ++ rest)) =
      (runLayout run).tokens before ++ (tag.tokens line ++
        Token.scanFrom size newlines (.text true) rest) := by
  obtain ⟨line, hline⟩ := scanFrom_around margin tag h size newlines
  have hstart : margin.around tag ++ rest ≠ [] → atLineStart true (runLayout run).unified :=
    fun _ ↦ atLineStart_runLayout fun line hline ↦ ended_of_areEnded hrun hline
  refine ⟨newlines - newlineCount (margin.around tag ++ rest), line, ?_⟩
  rw [scanFrom_unified htags (isDetached_around margin tag rest) (resumes_around margin tag rest)
    size newlines hstart, hline]

/-- The last line of a branch is ended if anything is left behind it. -/
theorem ended_of_append_ne_nil {margin : Margin} {p : Passage} {rest : List Char} {followed : Bool}
    (hfollowed : rest ≠ [] → followed)
    (h : (margin.ended || (p.lines.isEmpty && !followed)) = true) (hsome : p.unified ++ rest ≠ []) :
    margin.ended := by
  by_contra hopen
  rw [Bool.not_eq_true] at hopen
  rw [hopen, Bool.false_or, Bool.and_eq_true, List.isEmpty_iff, Bool.not_eq_true'] at h
  refine hsome ?_
  rw [Passage.unified_of_lines_eq_nil h.1, List.nil_append]
  by_contra hrest
  rw [hfollowed hrest] at h
  cases h.2

/-- Whether the tokens of a passage stand where it is scanned from the start of a line, whatever
follows it, if a scan can resume there and the lines before are ended. -/
def Passage.Scans (size newlines : Nat) (p : Passage) : Prop :=
  ∀ (followed : Bool) (rest : List Char), areEnded followed p.lines → (rest ≠ [] → followed) →
    IsDetached rest → Resumes rest →
    ∃ tokens statements, p.Parses tokens statements ∧
      Token.scanFrom size newlines (.text true) (p.unified ++ rest) =
        tokens ++ Token.scanFrom size newlines (.text true) rest

/-- The tokens of a passage before a line with a tag. -/
theorem Passage.Scans.around {size newlines : Nat} {p : Passage} (h : p.Scans size newlines)
    (hlines : areEnded true p.lines) (margin : Margin) (tag : Tag) (rest : List Char)
    (hrest : rest ≠ [] → margin.ended) :
    ∃ tokens statements line, p.Parses tokens statements ∧
      Token.scanFrom size newlines (.text true) (p.unified ++ (margin.around tag ++ rest)) =
        tokens ++ (tag.tokens line ++ Token.scanFrom size newlines (.text true) rest) := by
  obtain ⟨line, hline⟩ := scanFrom_around margin tag hrest size newlines
  obtain ⟨tokens, statements, hparses, hscan⟩ := h true (margin.around tag ++ rest) hlines
    (fun _ ↦ rfl) (isDetached_around margin tag rest) (resumes_around margin tag rest)
  exact ⟨tokens, statements, line, hparses, by rw [hscan, hline]⟩

/-- From the start of a line on the tokens are those of a passage and of what is left. -/
theorem scans_printed {p : Passage} (htags : ∀ run ∈ p.runs, (runLayout run).isTagFree)
    (size newlines : Nat) : p.Scans size newlines := by
  -- What follows is arbitrary, so that a body is scanned before the tag that closes it as well as
  -- alone. Every scan is taken up at the start of a line, which is where indentation is dropped.
  induction p with
  | text run =>
    intro followed rest hended hfollowed hdetached hresumes
    refine ⟨_, _, .text run (newlines - newlineCount rest), ?_⟩
    refine scanFrom_unified (htags run List.mem_cons_self) hdetached hresumes size newlines ?_
    intro hsome
    rw [hfollowed hsome] at hended
    exact atLineStart_runLayout fun line hline ↦ ended_of_areEnded hended hline
  | guarded before opening name body closing after hbody hafter =>
    intro followed rest hended hfollowed hdetached hresumes
    simp only [Passage.lines, areEnded_append_cons, Bool.and_eq_true] at hended
    obtain ⟨hbefore, hopening, hinside, hclosing, hbehind⟩ := hended
    simp only [Passage.runs, List.mem_cons, List.mem_append] at htags
    have hopened : opening.ended = true := by simpa [Line.isEnded] using hopening
    obtain ⟨behind, statements, hstatements, hrest⟩ :=
      hafter (fun run hrun ↦ htags run (Or.inr (Or.inr hrun))) followed rest hbehind hfollowed
        hdetached hresumes
    obtain ⟨inside, inner, last, hinner, hlast⟩ :=
      (hbody fun run hrun ↦ htags run (Or.inr (Or.inl hrun))).around hinside closing .closing
        _ (ended_of_append_ne_nil hfollowed hclosing)
    obtain ⟨n, first, hfirst⟩ := scanFrom_run_around (htags before (Or.inl rfl)) hbefore opening
      (.opening name) (body.unified ++ (closing.around .closing ++ (after.unified ++ rest)))
      (fun _ ↦ hopened) size newlines
    refine ⟨_, _, .guarded before n opening first name hinner closing last hstatements, ?_⟩
    rw [hrest] at hlast
    rw [hlast] at hfirst
    simpa only [Passage.unified, Passage.printed, List.append_assoc] using hfirst
  | either before opening name body middle otherwise closing after hbody hotherwise hafter =>
    intro followed rest hended hfollowed hdetached hresumes
    simp only [Passage.lines, areEnded_append_cons, Bool.and_eq_true] at hended
    obtain ⟨hbefore, hopening, hinside, hmiddle, hbeside, hclosing, hbehind⟩ := hended
    simp only [Passage.runs, List.mem_cons, List.mem_append] at htags
    have hopened : opening.ended = true := by simpa [Line.isEnded] using hopening
    have hdivided : middle.ended = true := by simpa [Line.isEnded] using hmiddle
    obtain ⟨behind, statements, hstatements, hrest⟩ :=
      hafter (fun run hrun ↦ htags run (Or.inr (Or.inr (Or.inr hrun)))) followed rest hbehind
        hfollowed hdetached hresumes
    obtain ⟨beside, other, last, hother, hlast⟩ :=
      (hotherwise fun run hrun ↦ htags run (Or.inr (Or.inr (Or.inl hrun)))).around hbeside closing
        .closing _ (ended_of_append_ne_nil hfollowed hclosing)
    obtain ⟨inside, inner, second, hinner, hsecond⟩ :=
      (hbody fun run hrun ↦ htags run (Or.inr (Or.inl hrun))).around hinside middle .alternative
        (otherwise.unified ++ (closing.around .closing ++ (after.unified ++ rest)))
        (fun _ ↦ hdivided)
    obtain ⟨n, first, hfirst⟩ := scanFrom_run_around (htags before (Or.inl rfl)) hbefore opening
      (.opening name) (body.unified ++ (middle.around .alternative ++
        (otherwise.unified ++ (closing.around .closing ++ (after.unified ++ rest)))))
      (fun _ ↦ hopened) size newlines
    refine ⟨_, _, .either before n opening first name hinner middle second hother closing last
      hstatements, ?_⟩
    rw [hrest] at hlast
    rw [hlast] at hsecond
    rw [hsecond] at hfirst
    simpa only [Passage.unified, Passage.printed, List.append_assoc] using hfirst

/-- The tokens of a passage. -/
theorem parses_scan {p : Passage} (htags : ∀ run ∈ p.runs, (runLayout run).isTagFree)
    (hended : areEnded false p.lines) :
    ∃ statements, p.Parses (Token.scan p.unified) statements := by
  obtain ⟨tokens, statements, hparses, hscan⟩ :=
    scans_printed htags p.unified.length (newlineCount p.unified) false [] hended
      (fun hsome ↦ absurd rfl hsome) isDetached_nil resumes_nil
  rw [List.append_nil, scanFrom_nil, List.append_nil] at hscan
  rw [Token.scan, hscan]
  exact ⟨statements, hparses⟩

end Scriptorium.Template
