import Scriptorium.Proofs.Placeholder
import Scriptorium.Template.Token

/-!
# Tokens of placeholders

What `Token.scan` makes of a layout. A stretch of text in which no tag begins is divided nowhere, so
it becomes one token or, if it is empty, none. Inside a tag the scan goes on one blank, one name or
one symbol at a time, and each of these steps has a lemma of its own, which holds in tags of either
kind. A placeholder has no line end, so its tokens are all of the line that it is on
(`Placeholder.tokens`), and the tokens of a layout are those of its stretches and its placeholders
in turn (`scan_unified`).
-/

set_option autoImplicit false
set_option relaxedAutoImplicit false

namespace Scriptorium.Template

open Text

/-! ### Text up to a tag -/

/-- What begins no tag has no opening to be read. -/
theorem readOpening?_of_beginsTag {text : List Char} (h : beginsTag text = false) :
    readOpening? text = none := by
  simp only [beginsTag, Bool.or_eq_false_iff] at h
  obtain ⟨⟨hstatement, hcomment⟩, hprint⟩ := h
  unfold readOpening?
  split
  · cases hstatement
  · cases hprint
  · cases hcomment
  · rfl

/-- A text is divided behind a stretch in which no tag begins. -/
theorem splitAtOpening_append {text after : List Char} (h : isTagFree text)
    (hafter : IsDetached after) :
    splitAtOpening (text ++ after) =
      (text ++ (splitAtOpening after).1, (splitAtOpening after).2) := by
  induction text with
  | nil => rfl
  | cons c rest ih =>
    obtain ⟨hbegins, hrest⟩ := isTagFree_cons h
    have hnone := readOpening?_of_beginsTag (beginsTag_append hbegins hafter)
    rw [List.cons_append] at hnone ⊢
    simp only [splitAtOpening, hnone, ih hrest, List.cons_append]

/-! ### Characters inside a tag -/

/-- A character that begins a name is no sign, no digit, no blank and no mark of a tag. -/
theorem ne_of_isNameStart {c : Char} (h : isNameStart c) :
    c ≠ '-' ∧ c ≠ '+' ∧ c ≠ '%' ∧ c ≠ '\x7d' ∧ c ≠ '0' ∧ c ≠ '.' ∧ isBlank c = false ∧
      isDigit c = false ∧
      ('1' ≤ c && c ≤ '9') = false ∧ isIdentifierStart c := by
  have hchar : (!isNameStart c ||
      (c != '-' && c != '+' && c != '%' && c != '\x7d' && c != '0' && c != '.' &&
        !isBlank c && !isDigit c && !('1' ≤ c && c ≤ '9') && isIdentifierStart c)) = true :=
    of_isNameRest (p := fun c ↦ !isNameStart c ||
      (c != '-' && c != '+' && c != '%' && c != '\x7d' && c != '0' && c != '.' &&
        !isBlank c && !isDigit c && !('1' ≤ c && c ≤ '9') && isIdentifierStart c))
      (by decide +kernel) (isNameRest_of_isNameStart h)
  simpa only [h, Bool.not_true, Bool.false_or, Bool.and_eq_true, bne_iff_ne, Bool.not_eq_true',
    and_assoc] using hchar

/-- A character of a name is one of a word, and can stand in an identifier. -/
theorem isWord_of_isNameRest {c : Char} (h : isNameRest c) : isWord c ∧ isIdentifierContinue c := by
  have hchar : (isWord c && isIdentifierContinue c) = true :=
    of_isNameRest (p := fun c ↦ isWord c && isIdentifierContinue c) (by decide +kernel) h
  simpa using hchar

/-- A plain name is an identifier. -/
theorem isIdentifier_of_isPlainName {name : List Char} (h : isPlainName name) :
    isIdentifier name := by
  cases name with
  | nil => cases h
  | cons c rest =>
    simp only [isPlainName, Bool.and_eq_true, List.all_eq_true] at h
    simp only [isIdentifier, Bool.and_eq_true, List.all_eq_true]
    exact ⟨(ne_of_isNameStart h.1).2.2.2.2.2.2.2.2.2,
      fun d hd ↦ (isWord_of_isNameRest (h.2 d hd)).2⟩

/-- A name is read up to the first character that is none of a word. -/
theorem readLexeme?_name {name after : List Char} (h : isPlainName name)
    (hafter : ∀ c ∈ after.head?, isWord c = false) (afterDot : Bool) :
    readLexeme? afterDot (name ++ after) = some (.name (String.ofList name), after) := by
  cases name with
  | nil => cases h
  | cons c rest =>
    have hidentifier := isIdentifier_of_isPlainName h
    simp only [isPlainName, Bool.and_eq_true, List.all_eq_true] at h
    obtain ⟨-, -, -, -, hzero, -, -, hdigit, hdecimal, -⟩ := ne_of_isNameStart h.1
    have hfloat : (if afterDot then none else readFloat? (c :: (rest ++ after))) = none := by
      simp [readFloat?, readDigits?, hdigit]
    have hinteger : readInteger? (c :: (rest ++ after)) = none := by
      unfold readInteger?
      split
      · rename_i heq
        exact absurd (List.cons.inj heq).1 hzero
      · rename_i heq
        obtain ⟨rfl, -⟩ := List.cons.inj heq
        rw [hdecimal]
        rfl
      · rfl
    have hword : isWord c = true := (isWord_of_isNameRest (isNameRest_of_isNameStart h.1)).1
    have hrest : ∀ d ∈ rest, isWord d = true := fun d hd ↦ (isWord_of_isNameRest (h.2 d hd)).1
    have htake : (rest ++ after).takeWhile isWord = rest := by
      rw [List.takeWhile_append_of_pos hrest]
      cases after with
      | nil => simp
      | cons d more => simp [hafter d rfl]
    have hdrop : (rest ++ after).dropWhile isWord = after := by
      rw [List.dropWhile_append_of_pos hrest]
      cases after with
      | nil => rfl
      | cons d more => simp [hafter d rfl]
    simp only [readLexeme?, List.cons_append, hfloat, hinteger, hword, htake, hdrop, hidentifier,
      if_true]

/-- A bar is read as such, unless a sign of equality follows. -/
theorem readLexeme?_pipe (after : List Char) :
    readLexeme? false ('|' :: ' ' :: after) = some (.symbol .pipe, ' ' :: after) := rfl

/-! ### Steps of the scan -/

/-- The line of a place where so much is left. -/
def lineOf (newlines : Nat) (rest : List Char) : Nat := newlines - newlineCount rest + 1

/-- Text without a tag is one token. -/
theorem scanFrom_text {text before : List Char} (h : splitAtOpening text = (before, none))
    (size newlines : Nat)
    (startsLine : Bool) :
    Token.scanFrom size newlines (.text startsLine) text =
      dataTokens (lineOf newlines text) before := by
  rw [Token.scanFrom]
  split
  · rename_i found hfound
    obtain ⟨rfl, -⟩ := Prod.mk.inj (h.symm.trans hfound)
    rfl
  · rename_i hfound
    cases h.symm.trans hfound

/-- Text up to a tag is a token, and the tag begins. -/
theorem scanFrom_text_tag {text before rest : List Char} {kind : TagKind} {sign : Sign}
    (h : splitAtOpening text = (before, some (kind, sign, rest)))
    (hkind : kind = .print ∨ kind = .statement)
    (size newlines : Nat) (startsLine : Bool) :
    Token.scanFrom size newlines (.text startsLine) text =
      dataTokens (lineOf newlines text) (textBefore startsLine kind sign before) ++
        ⟨lineOf newlines (text.drop before.length), kind.beginLexeme⟩ ::
          Token.scanFrom size newlines (.tag kind [] false) rest := by
  conv_lhs => rw [Token.scanFrom]
  split
  · rename_i hfound
    cases h.symm.trans hfound
  · rename_i hfound
    obtain ⟨rfl, htag⟩ := Prod.mk.inj (h.symm.trans hfound)
    obtain ⟨rfl, hrest⟩ := Prod.mk.inj (Option.some.inj htag)
    obtain ⟨rfl, rfl⟩ := Prod.mk.inj hrest
    rcases hkind with rfl | rfl <;> rfl

/-- A tag ends at its mark. -/
theorem scanFrom_tag_end {kind : TagKind} {text after : List Char}
    (h : readTagEnd? kind text = some after)
    (size newlines : Nat) (afterDot : Bool) :
    Token.scanFrom size newlines (.tag kind [] afterDot) text =
      ⟨lineOf newlines text, kind.endLexeme⟩ ::
        Token.scanFrom size newlines (.text (endsLine text after)) after := by
  conv_lhs => rw [Token.scanFrom]
  split
  · rename_i found hfound
    obtain rfl := Option.some.inj (h.symm.trans hfound)
    rfl
  · rename_i hfound
    cases h.symm.trans hfound

/-- A blank in a tag leaves no token. -/
theorem scanFrom_tag_blank {kind : TagKind} {c : Char} {rest : List Char}
    (hend : readTagEnd? kind (c :: rest) = none) (hblank : isBlank c) (size newlines : Nat)
    (afterDot : Bool) :
    Token.scanFrom size newlines (.tag kind [] afterDot) (c :: rest) =
      Token.scanFrom size newlines (.tag kind [] false) rest := by
  conv_lhs => rw [Token.scanFrom]
  split
  · rename_i hfound
    cases hend.symm.trans hfound
  · exact if_pos hblank

/-- A name or a symbol in a tag is a token. -/
theorem scanFrom_tag_lexeme {kind : TagKind} {c : Char} {rest after : List Char} {lexeme : Lexeme}
    (hend : readTagEnd? kind (c :: rest) = none) (hblank : isBlank c = false)
    (hread : readLexeme? false (c :: rest) = some (lexeme, after))
    (hlexeme : (∃ name, lexeme = .name name) ∨ lexeme = .symbol .pipe) (size newlines : Nat) :
    Token.scanFrom size newlines (.tag kind [] false) (c :: rest) =
      ⟨lineOf newlines (c :: rest), lexeme⟩ ::
        Token.scanFrom size newlines (.tag kind [] (c == '.')) after := by
  conv_lhs => rw [Token.scanFrom]
  split
  · rename_i hfound
    cases hend.symm.trans hfound
  · dsimp only
    rw [if_neg (by rw [hblank]; decide)]
    split
    · rename_i hstep
      cases hread.symm.trans hstep
    · rename_i hstep
      obtain ⟨rfl, -⟩ := Prod.mk.inj (Option.some.inj (hread.symm.trans hstep))
      rcases hlexeme with ⟨name, hname⟩ | hpipe
      · cases hname
      · cases hpipe
    · rename_i hstep
      obtain ⟨rfl, rfl⟩ := Prod.mk.inj (Option.some.inj (hread.symm.trans hstep))
      rcases hlexeme with ⟨name, rfl⟩ | rfl <;> rfl

/-! ### Placeholders -/

/-- The line does not change over characters that are no line feeds. -/
theorem lineOf_append {first : List Char} (h : ∀ c ∈ first, c ≠ '\n') (newlines : Nat)
    (rest : List Char) :
    lineOf newlines (first ++ rest) = lineOf newlines rest := by
  have hcount : first.count '\n' = 0 := List.count_eq_zero.mpr fun hmem ↦ h _ hmem rfl
  rw [lineOf, lineOf, newlineCount, newlineCount, List.count_append, hcount, Nat.zero_add]

/-- No tag ends at a character that is no sign and no mark. -/
theorem readTagEnd?_of_ne {c : Char} (hminus : c ≠ '-') (hplus : c ≠ '+') (hpercent : c ≠ '%')
    (hbrace : c ≠ '\x7d')
    (kind : TagKind) (rest : List Char) : readTagEnd? kind (c :: rest) = none := by
  have hprint : readPrintEnd? (c :: rest) = none := by
    unfold readPrintEnd?
    split
    · rename_i heq
      exact absurd (List.cons.inj heq).1 hminus
    · rename_i heq
      exact absurd (List.cons.inj heq).1 hbrace
    · rfl
  have hstatement : readStatementEnd? (c :: rest) = none := by
    unfold readStatementEnd?
    split
    · rename_i heq
      exact absurd (List.cons.inj heq).1 hplus
    · rename_i heq
      exact absurd (List.cons.inj heq).1 hminus
    · rename_i heq
      exact absurd (List.cons.inj heq).1 hpercent
    · rfl
  cases kind
  case print => exact hprint
  all_goals exact hstatement

/-- A space in a tag leaves no token. -/
theorem scanFrom_tag_space (size newlines : Nat) (kind : TagKind) (rest : List Char) :
    Token.scanFrom size newlines (.tag kind [] false) (' ' :: rest) =
      Token.scanFrom size newlines (.tag kind [] false) rest :=
  scanFrom_tag_blank (readTagEnd?_of_ne (by decide) (by decide) (by decide) (by decide) kind rest)
    (by decide)
    size newlines false

/-- A plain name in a tag is a token. -/
theorem scanFrom_tag_name {name after : List Char} (h : isPlainName name)
    (hafter : ∀ c ∈ after.head?, isWord c = false) (size newlines : Nat) (kind : TagKind) :
    Token.scanFrom size newlines (.tag kind [] false) (name ++ after) =
      ⟨lineOf newlines after, .name (String.ofList name)⟩ ::
        Token.scanFrom size newlines (.tag kind [] false) after := by
  have hline : lineOf newlines (name ++ after) = lineOf newlines after :=
    lineOf_append (fun c hc ↦ (ne_of_isNameRest (isNameRest_of_mem h hc)).2.2) newlines after
  have hread := readLexeme?_name h hafter false
  cases name with
  | nil => cases h
  | cons c rest =>
    have hstart : isNameStart c = true := by
      simp only [isPlainName, Bool.and_eq_true] at h
      exact h.1
    obtain ⟨hminus, hplus, hpercent, hbrace, -, hdot, hblank, -⟩ := ne_of_isNameStart hstart
    rw [List.cons_append] at hline hread ⊢
    rw [scanFrom_tag_lexeme (readTagEnd?_of_ne hminus hplus hpercent hbrace kind _) hblank hread
        (Or.inl ⟨_, rfl⟩), hline, beq_eq_false_iff_ne.mpr hdot]

/-- The tokens of filters. -/
def filterTokens (line : Nat) (filters : List CodeFilter) : List Token :=
  filters.flatMap fun f ↦ [⟨line, .symbol .pipe⟩, ⟨line, .name f.name⟩]

/-- The tokens of a placeholder. -/
def Placeholder.tokens (line : Nat) (p : Placeholder) : List Token :=
  ⟨line, .printBegin⟩ :: ⟨line, .name p.name⟩ ::
    (filterTokens line p.filters ++ [⟨line, .printEnd⟩])

/-- The name of a filter is plain. -/
theorem CodeFilter.isPlainName_name (f : CodeFilter) : isPlainName f.name.toList := by
  cases f <;> decide

/-- Filters and the mark after them begin with a space. -/
theorem isWord_of_mem_head? (filters : List CodeFilter) (more : List Char) :
    ∀ c ∈ (filters.flatMap CodeFilter.written ++ ' ' :: '\x7d' :: '\x7d' :: more).head?,
      isWord c = false := by
  have hspace : isWord ' ' = false := by decide +kernel
  cases filters <;> simp [CodeFilter.written, hspace]

/-- Filters and the mark after them are on one line. -/
theorem lineOf_filters (filters : List CodeFilter) (more : List Char) (newlines : Nat) :
    lineOf newlines (filters.flatMap CodeFilter.written ++ ' ' :: '\x7d' :: '\x7d' :: more) =
      lineOf newlines more := by
  have hfilters : ∀ c ∈ filters.flatMap CodeFilter.written, c ≠ '\n' := by
    intro c hc
    obtain ⟨f, -, hf⟩ := List.mem_flatMap.mp hc
    exact (CodeFilter.ne_of_mem_written hf).2.2
  have hmark : ∀ c ∈ [' ', '\x7d', '\x7d'], c ≠ '\n' := by simp
  rw [lineOf_append hfilters]
  exact lineOf_append hmark newlines more

/-- Each filter leaves two tokens, and the mark after them another. -/
theorem scanFrom_filters (filters : List CodeFilter) (more : List Char) (size newlines : Nat) :
    Token.scanFrom size newlines (.tag .print [] false)
        (filters.flatMap CodeFilter.written ++ ' ' :: '\x7d' :: '\x7d' :: more) =
      filterTokens (lineOf newlines more) filters ++ ⟨lineOf newlines more, .printEnd⟩ ::
        Token.scanFrom size newlines (.text false) more := by
  induction filters with
  | nil =>
    have hend : readTagEnd? .print ('\x7d' :: '\x7d' :: more) = some more := rfl
    have hmark : ∀ c ∈ ['\x7d', '\x7d'], c ≠ '\n' := by simp
    have hline : lineOf newlines ('\x7d' :: '\x7d' :: more) = lineOf newlines more :=
      lineOf_append hmark newlines more
    have hends : endsLine ('\x7d' :: '\x7d' :: more) more = false := by
      have hlength : more.length + 1 + 1 - more.length = 2 := by omega
      simp [endsLine, hlength]
    change Token.scanFrom size newlines (.tag .print [] false) (' ' :: '\x7d' :: '\x7d' :: more) = _
    rw [scanFrom_tag_space, scanFrom_tag_end hend, hline, hends]
    rfl
  | cons f rest ih =>
    have hafter := isWord_of_mem_head? rest more
    have hline := lineOf_filters rest more newlines
    generalize htail : rest.flatMap CodeFilter.written ++ ' ' :: '\x7d' :: '\x7d' :: more =
      tail at *
    have htext : (f :: rest).flatMap CodeFilter.written ++ ' ' :: '\x7d' :: '\x7d' :: more =
        ' ' :: '|' :: ' ' :: (f.name.toList ++ tail) := by
      rw [← htail]
      simp [CodeFilter.written]
    have hpipe := scanFrom_tag_lexeme
      (readTagEnd?_of_ne (by decide) (by decide) (by decide) (by decide) .print _) (by decide)
      (readLexeme?_pipe (f.name.toList ++ tail)) (Or.inr rfl) size newlines
    have hdot : ('|' == '.') = false := rfl
    have hbar : lineOf newlines ('|' :: ' ' :: (f.name.toList ++ tail)) = lineOf newlines more := by
      have hname : ∀ c ∈ f.written, c ≠ '\n' := fun c hc ↦ (CodeFilter.ne_of_mem_written hc).2.2
      rw [← hline]
      exact lineOf_append (fun c hc ↦ hname c (List.mem_cons_of_mem _ hc)) newlines tail
    rw [htext, scanFrom_tag_space, hpipe, hdot, scanFrom_tag_space,
      scanFrom_tag_name f.isPlainName_name hafter, ih, hbar, hline, String.ofList_toList]
    rfl

/-- What is written of a placeholder after the dollar sign leaves its tokens but the first. -/
theorem scanFrom_inner (p : Placeholder) (more : List Char) (size newlines : Nat) :
    ⟨lineOf newlines (p.unified ++ more), .printBegin⟩ ::
        Token.scanFrom size newlines (.tag .print [] false) (p.inner ++ more) =
      p.tokens (lineOf newlines more) ++ Token.scanFrom size newlines (.text false) more := by
  have hline : lineOf newlines (p.unified ++ more) = lineOf newlines more :=
    lineOf_append (fun c hc ↦ (Placeholder.ne_of_mem_unified hc).2) newlines more
  have htext : p.inner ++ more =
      p.name.toList ++
        (p.filters.flatMap CodeFilter.written ++ ' ' :: '\x7d' :: '\x7d' :: more) := by
    simp [Placeholder.inner]
  rw [htext, scanFrom_tag_name p.plain (isWord_of_mem_head? p.filters more), scanFrom_filters,
    lineOf_filters, hline, String.ofList_toList]
  simp [Placeholder.tokens]

/-! ### Layouts -/

/-- The tokens of placeholders and the stretches after them. -/
def partTokens (newlines : Nat) : List (Placeholder × List Char) → List Token
  | [] => []
  | (p, text) :: rest =>
    let line := lineOf newlines (text ++ unifiedParts rest)
    p.tokens line ++ (dataTokens line text ++ partTokens newlines rest)

/-- The tokens of a layout. -/
def Layout.tokens (newlines : Nat) (layout : Layout) : List Token :=
  dataTokens (lineOf newlines layout.unified) layout.lead ++ partTokens newlines layout.parts

/-- A placeholder with one blank is an opening of a print tag. -/
theorem splitAtOpening_unified (p : Placeholder) (more : List Char) :
    splitAtOpening (p.unified ++ more) = ([], some (.print, .plain, p.inner ++ more)) := by
  obtain ⟨c, rest, hname⟩ := List.exists_cons_of_ne_nil (l := p.name.toList) fun hnil ↦ by
    have hplain := p.plain
    rw [hnil] at hplain
    cases hplain
  have hstart : isNameStart c = true := by
    have hplain := p.plain
    rw [hname, isPlainName, Bool.and_eq_true] at hplain
    exact hplain.1
  obtain ⟨hminus, hplus, -⟩ := ne_of_isNameStart hstart
  obtain ⟨tail, htail⟩ : ∃ tail, p.inner ++ more = c :: tail := by
    rw [Placeholder.inner, hname]
    exact ⟨_, rfl⟩
  have hsign : readSign (c :: tail) = (.plain, c :: tail) := by
    unfold readSign
    split
    · rename_i heq
      exact absurd (List.cons.inj heq).1 hminus
    · rename_i heq
      exact absurd (List.cons.inj heq).1 hplus
    · rfl
  have hopening : readOpening? ('\x7b' :: '\x7b' :: ' ' :: '$' :: (c :: tail)) =
      some (.print, .plain, c :: tail) := by
    change some (TagKind.print, (readSign (c :: tail)).1, (readSign (c :: tail)).2) = _
    rw [hsign]
  have htext : p.unified ++ more = '\x7b' :: '\x7b' :: ' ' :: '$' :: (c :: tail) := by
    rw [Placeholder.unified, List.append_assoc, htail]
    rfl
  rw [htext, htail]
  simp only [splitAtOpening, hopening]

/-- Whether a line starts behind a text, if it is known whether one starts before it. -/
def atLineStart (startsLine : Bool) (text : List Char) : Bool :=
  match text.getLast? with
  | none => startsLine
  | some c => c == '\n'

theorem atLineStart_append (startsLine : Bool) (first second : List Char) :
    atLineStart startsLine (first ++ second) =
      atLineStart (atLineStart startsLine first) second := by
  unfold atLineStart
  rw [List.getLast?_append]
  cases second.getLast? <;> rfl

/-- No line starts behind a placeholder. -/
theorem atLineStart_unified (startsLine : Bool) (p : Placeholder) :
    atLineStart startsLine p.unified = false := by
  have hlast : p.unified.getLast? = some '\x7d' := by
    simp [Placeholder.unified, Placeholder.inner]
  rw [atLineStart, hlast]
  rfl

/-- Whether a scan of plain text can go on at a text as at the start of a line, whatever stretch
without tags stands before it; the stretch has to end a line unless nothing is left. -/
def Resumes (rest : List Char) : Prop :=
  ∀ (text : List Char) (size newlines : Nat) (startsLine : Bool), isTagFree text →
    (rest ≠ [] → atLineStart startsLine text) →
    Token.scanFrom size newlines (.text startsLine) (text ++ rest) =
      dataTokens (lineOf newlines (text ++ rest)) text ++
        Token.scanFrom size newlines (.text true) rest

/-- Where nothing is left there are no more tokens. -/
theorem scanFrom_nil (size newlines : Nat) (startsLine : Bool) :
    Token.scanFrom size newlines (.text startsLine) [] = [] := by
  rw [scanFrom_text rfl]
  rfl

/-- A scan can go on where nothing is left. -/
theorem resumes_nil : Resumes [] := by
  intro text size newlines startsLine htext _
  have hsplit := splitAtOpening_append htext isDetached_nil
  have hnil : splitAtOpening [] = ([], none) := rfl
  rw [hnil, List.append_nil] at hsplit
  rw [List.append_nil, scanFrom_text hsplit, scanFrom_nil, List.append_nil]

/-- The line of a place where more is left behind a text. -/
theorem lineOf_append_right (newlines : Nat) (first rest : List Char) :
    lineOf newlines (first ++ rest) = lineOf (newlines - newlineCount rest) first := by
  rw [lineOf, lineOf, newlineCount, newlineCount, newlineCount, List.count_append]
  omega

/-- From plain text on the tokens are those of a stretch and of the placeholders behind it, and of
what is left. -/
theorem scanFrom_unifiedParts {parts : List (Placeholder × List Char)} {text rest : List Char}
    (htext : isTagFree text) (h : ∀ part ∈ parts, isTagFree part.2) (hdetached : IsDetached rest)
    (hrest : Resumes rest) (size newlines : Nat) {startsLine : Bool}
    (hline : rest ≠ [] → atLineStart startsLine (text ++ unifiedParts parts)) :
    Token.scanFrom size newlines (.text startsLine) (text ++ (unifiedParts parts ++ rest)) =
      dataTokens (lineOf (newlines - newlineCount rest) (text ++ unifiedParts parts)) text ++
        (partTokens (newlines - newlineCount rest) parts ++
          Token.scanFrom size newlines (.text true) rest) := by
  induction parts generalizing text startsLine with
  | nil =>
    have hnil : unifiedParts [] = [] := rfl
    rw [hnil, List.append_nil] at hline
    rw [hnil, List.nil_append, List.append_nil, hrest text size newlines startsLine htext hline,
      lineOf_append_right, partTokens, List.nil_append]
  | cons part others ih =>
    obtain ⟨p, after⟩ := part
    have hunified : unifiedParts ((p, after) :: others) =
        p.unified ++ (after ++ unifiedParts others) := unifiedParts_cons (p, after) others
    have hbehind : rest ≠ [] → atLineStart false (after ++ unifiedParts others) := by
      intro hsome
      have hwhole := hline hsome
      rwa [hunified, atLineStart_append, atLineStart_append, atLineStart_unified] at hwhole
    have hwhole : lineOf (newlines - newlineCount rest)
        (text ++ unifiedParts ((p, after) :: others)) =
          lineOf newlines (text ++ (p.unified ++ (after ++ (unifiedParts others ++ rest)))) := by
      rw [← lineOf_append_right, hunified]
      simp only [List.append_assoc]
    have hafter : lineOf (newlines - newlineCount rest) (after ++ unifiedParts others) =
        lineOf newlines (after ++ (unifiedParts others ++ rest)) := by
      rw [← lineOf_append_right, List.append_assoc]
    have htokens : partTokens (newlines - newlineCount rest) ((p, after) :: others) =
        p.tokens (lineOf (newlines - newlineCount rest) (after ++ unifiedParts others)) ++
          (dataTokens (lineOf (newlines - newlineCount rest)
            (after ++ unifiedParts others)) after ++
              partTokens (newlines - newlineCount rest) others) := rfl
    have hsplit := splitAtOpening_append htext
      (isDetached_unifiedParts ((p, after) :: others) hdetached)
    rw [hunified, List.append_assoc, List.append_assoc, splitAtOpening_unified, List.append_nil]
      at hsplit
    rw [hwhole, hunified, List.append_assoc, List.append_assoc,
      scanFrom_text_tag hsplit (Or.inl rfl), List.drop_left, htokens, hafter]
    change dataTokens _ text ++ (⟨_, .printBegin⟩ :: _) = _
    rw [scanFrom_inner,
      ih (h _ List.mem_cons_self) (fun part hpart ↦ h part (List.mem_cons_of_mem _ hpart)) hbehind,
      hafter]
    simp only [List.append_assoc]

/-- The tokens of a layout are those of its stretches and its placeholders, and of what is left. -/
theorem scanFrom_unified {layout : Layout} (h : layout.isTagFree) {rest : List Char}
    (hdetached : IsDetached rest) (hrest : Resumes rest) (size newlines : Nat) {startsLine : Bool}
    (hline : rest ≠ [] → atLineStart startsLine layout.unified) :
    Token.scanFrom size newlines (.text startsLine) (layout.unified ++ rest) =
      layout.tokens (newlines - newlineCount rest) ++
        Token.scanFrom size newlines (.text true) rest := by
  obtain ⟨hlead, hparts⟩ := Layout.isTagFree_iff.mp h
  rw [Layout.unified, List.append_assoc,
    scanFrom_unifiedParts hlead hparts hdetached hrest size newlines hline, Layout.tokens,
    Layout.unified, List.append_assoc]

/-- The tokens of a layout are those of its stretches and its placeholders. -/
theorem scan_unified {layout : Layout} (h : layout.isTagFree) :
    Token.scan layout.unified = layout.tokens (newlineCount layout.unified) := by
  have hline : ([] : List Char) ≠ [] → atLineStart true layout.unified :=
    fun hsome ↦ absurd rfl hsome
  have hscan := scanFrom_unified h isDetached_nil resumes_nil layout.unified.length
    (newlineCount layout.unified) hline
  rw [List.append_nil, scanFrom_nil, List.append_nil] at hscan
  exact hscan

end Scriptorium.Template
