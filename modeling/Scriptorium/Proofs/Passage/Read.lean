import Scriptorium.Proofs.Passage.Scan

/-!
# Statements of passages

What `readTemplate` makes of a passage: the statements of its runs, and for every tag that opens one
a branch with one case, on its name. A body is read up to the tag that closes it, which is left
(`reads_word`), so that a passage is read inside a branch as it is read alone
(`readsThrough_parses`).

A reader counts the branches that are open and opens no more of them than `openBlockLimit`. So a
passage is read if its branches are not nested deeper than that (`readTemplate_parses`), and is
refused if they are (`readTemplate_of_openBlockLimit_lt`).
-/

set_option autoImplicit false
set_option relaxedAutoImplicit false

namespace Scriptorium.Template

open Reader Text

variable {n line : Nat} {awaited : List (List String)} {opened closers : List String}
  {body : List Statement} {tokens left rest : List Token}

/-! ### Tags -/

/-- The tokens of a tag can be read. -/
theorem isSettled_tag (line : Nat) (tag : Tag) (rest : List Token) :
    IsSettled (tag.tokens line ++ rest) := by
  intro _ _ heq
  cases heq

/-- The tokens of a passage can be read. -/
theorem isSettled_parses {p : Passage} {statements : List Statement}
    (h : p.Parses tokens statements) (hrest : IsSettled rest) : IsSettled (tokens ++ rest) := by
  cases h with
  | text run newlines => exact isSettled_tokens newlines (runLayout run) hrest
  | guarded before newlines opening first name hbody closing last hrest =>
    rw [List.append_assoc, List.append_assoc]
    exact isSettled_tokens newlines (runLayout before) (isSettled_tag first _ _)
  | either before newlines opening first name hbody middle second hotherwise closing last hrest =>
    rw [List.append_assoc, List.append_assoc]
    exact isSettled_tokens newlines (runLayout before) (isSettled_tag first _ _)

/-- A tag with a word that closes a body ends it, and the word is left. -/
theorem reads_word {word : String} (h : word ∈ closers) :
    Reads awaited opened closers (⟨line, .statementBegin⟩ :: ⟨line, .name word⟩ :: rest) []
      (⟨line, .name word⟩ :: rest) := by
  intro n l b hn
  obtain ⟨m, rfl⟩ : ∃ m, n = m + 1 := ⟨n - 1, by omega⟩
  refine ⟨⟨⟨line, .name word⟩ :: rest, line, b⟩, rfl, ?_⟩
  rw [readBody, bind_of_ok (show peek _ = .ok (some .statementBegin, _) from rfl)]
  dsimp only
  rw [bind_of_ok (advance_cons (isSettled_name line word rest) l b),
    bind_of_ok (show peek _ = .ok (some (.name word), _) from rfl)]
  dsimp only
  rw [List.contains_iff_mem.mpr h]
  rfl

/-- A name that comes next is passed over. -/
theorem skipName_self {name : String} (h : IsSettled rest) (l b : Nat) :
    skipName name ⟨⟨line, .name name⟩ :: rest, l, b⟩ = .ok (true, ⟨rest, line, b⟩) := by
  have hname : isName name ⟨⟨line, .name name⟩ :: rest, l, b⟩ =
      .ok (true, ⟨⟨line, .name name⟩ :: rest, l, b⟩) := by
    change Except.ok (name == name, _) = _
    rw [beq_self_eq_true]
  rw [skipName, bind_of_ok hname, if_pos rfl, bind_of_ok (advance_cons h l b)]
  rfl

/-! ### Blocks -/

/-- The end of a tag before tokens that can be read is passed over. -/
theorem expectStatementEnd_cons (h : IsSettled rest) (l b : Nat) :
    expectStatementEnd ⟨⟨line, .statementEnd⟩ :: rest, l, b⟩ = .ok ((), ⟨rest, line, b⟩) := by
  rw [expectStatementEnd, bind_of_ok (show peek _ = .ok (some .statementEnd, _) from rfl)]
  exact advance_cons h l b

/-- A block is the body behind the end of its tag, if that ends before the end of the template. -/
theorem readBlock_of_reads {t : Token} (hsettled : IsSettled tokens)
    (h : Reads (closers :: awaited) opened closers tokens body (t :: left))
    (hn : tokens.length + 20 ≤ n) (l b : Nat) :
    ∃ d : Cursor, d.tokens = t :: left ∧
      readBlock (n + 1) awaited opened closers ⟨⟨line, .statementEnd⟩ :: tokens, l, b⟩ =
        .ok (body, d) := by
  obtain ⟨⟨_, dl, db⟩, rfl, hd⟩ := h n line b hn
  have hcolon : skipSymbol .colon ⟨⟨line, .statementEnd⟩ :: tokens, l, b⟩ =
      .ok (false, ⟨⟨line, .statementEnd⟩ :: tokens, l, b⟩) := rfl
  refine ⟨⟨t :: left, dl, db⟩, rfl, ?_⟩
  rw [readBlock, bind_of_ok hcolon, bind_of_ok (expectStatementEnd_cons hsettled l b),
    bind_of_ok hd, bind_of_ok (show peek _ = .ok (some t.lexeme, _) from rfl)]
  rfl

/-- The words that can close the first body of a branch. -/
def branchClosers : List String := ["elif", "else", "endif"]

/-- Whether tokens are read as the cases of a branch and what is rendered otherwise, and up to
where. The fuel has to exceed their number. -/
def ReadsCases (awaited : List (List String)) (opened : List String) (tokens : List Token)
    (cases : List (Expr × List Statement)) (otherwise : List Statement) (left : List Token) :
    Prop :=
  ∀ n l b, tokens.length + 20 ≤ n → ∃ d : Cursor, d.tokens = left ∧
    readCases n awaited opened ⟨tokens, l, b⟩ = .ok ((cases, otherwise), d)

/-- A name after the word that opens a branch is its test. -/
theorem readTuple_test (name : ArgumentName) (rest : List Token) (hn : 15 ≤ n) (l b : Nat) :
    readTuple n .block ⟨⟨line, .name name.text⟩ :: ⟨line, .statementEnd⟩ :: rest, l, b⟩ =
      .ok (.name line name.text, ⟨⟨line, .statementEnd⟩ :: rest, line, line⟩) :=
  readTuple_name name.unreserved (.statement line rest line line) [] hn .block

/-- After the first body of a branch its second body is read if there is one. -/
theorem readCases_of_reads (first : Nat) (name : ArgumentName) {word : String}
    (hword : word ≠ "elif") (hsettled : IsSettled tokens)
    (h : Reads (branchClosers :: awaited) opened branchClosers tokens body
      (⟨line, .name word⟩ :: left)) (hn : tokens.length + 20 ≤ n) (l b : Nat) :
    ∃ c : Cursor, c.tokens = ⟨line, .name word⟩ :: left ∧
      readCases (n + 2) awaited opened
          ⟨⟨first, .name name.text⟩ :: ⟨first, .statementEnd⟩ :: tokens, l, b⟩ =
        (do
          if ← skipName "else" then
            let otherwise ← readBlock (n + 1) awaited opened ["endif"]
            advance
            return ([(Expr.name first name.text, body)], otherwise)
          else
            advance
            return ([(Expr.name first name.text, body)], [])) c := by
  unfold branchClosers at h
  obtain ⟨⟨_, cl, cb⟩, rfl, hblock⟩ := readBlock_of_reads hsettled h hn first first
  refine ⟨⟨⟨line, .name word⟩ :: left, cl, cb⟩, rfl, ?_⟩
  rw [readCases, bind_of_ok (readTuple_test name _ (by omega) l b), bind_of_ok hblock,
    bind_of_ok (skipName_of_ne hword line cl cb _)]
  dsimp only
  rw [if_neg Bool.false_ne_true]

/-- A branch with one body. -/
theorem readsCases_guarded (first : Nat) {last : Nat} {inside behind : List Token}
    {inner : List Statement} (name : ArgumentName)
    (hsettled : IsSettled (inside ++ (Tag.closing.tokens last ++ behind)))
    (h : Reads (branchClosers :: awaited) opened branchClosers
      (inside ++ (Tag.closing.tokens last ++ behind)) inner
      (⟨last, .name "endif"⟩ :: ⟨last, .statementEnd⟩ :: behind)) :
    ReadsCases awaited opened (⟨first, .name name.text⟩ :: ⟨first, .statementEnd⟩ ::
        (inside ++ (Tag.closing.tokens last ++ behind)))
      [(.name first name.text, inner)] [] (⟨last, .statementEnd⟩ :: behind) := by
  intro n l b hn
  rw [List.length_cons, List.length_cons] at hn
  obtain ⟨m, rfl⟩ : ∃ m, n = m + 2 := ⟨n - 2, by omega⟩
  obtain ⟨⟨_, dl, db⟩, rfl, hcases⟩ :=
    readCases_of_reads first name (by decide) hsettled h (show _ + 20 ≤ m by omega) l b
  refine ⟨⟨⟨last, .statementEnd⟩ :: behind, last, db⟩, rfl, ?_⟩
  rw [hcases, bind_of_ok (skipName_of_ne (by decide) last dl db _), if_neg Bool.false_ne_true,
    bind_of_ok (advance_cons (isSettled_statementEnd last behind) dl db)]
  rfl

/-- A branch with two bodies. -/
theorem readsCases_either (first : Nat) {second last : Nat} {inside beside behind : List Token}
    {inner other : List Statement} (name : ArgumentName)
    (hsettled : IsSettled (inside ++ (Tag.alternative.tokens second ++
      (beside ++ (Tag.closing.tokens last ++ behind)))))
    (h : Reads (branchClosers :: awaited) opened branchClosers
      (inside ++ (Tag.alternative.tokens second ++ (beside ++ (Tag.closing.tokens last ++ behind))))
      inner (⟨second, .name "else"⟩ :: ⟨second, .statementEnd⟩ ::
        (beside ++ (Tag.closing.tokens last ++ behind))))
    (hother : IsSettled (beside ++ (Tag.closing.tokens last ++ behind)))
    (hreads : Reads (["endif"] :: awaited) opened ["endif"]
      (beside ++ (Tag.closing.tokens last ++ behind)) other
      (⟨last, .name "endif"⟩ :: ⟨last, .statementEnd⟩ :: behind)) :
    ReadsCases awaited opened (⟨first, .name name.text⟩ :: ⟨first, .statementEnd⟩ ::
        (inside ++ (Tag.alternative.tokens second ++
          (beside ++ (Tag.closing.tokens last ++ behind)))))
      [(.name first name.text, inner)] other (⟨last, .statementEnd⟩ :: behind) := by
  intro n l b hn
  rw [List.length_cons, List.length_cons] at hn
  obtain ⟨m, rfl⟩ : ∃ m, n = m + 2 := ⟨n - 2, by omega⟩
  obtain ⟨⟨_, dl, db⟩, rfl, hcases⟩ :=
    readCases_of_reads first name (by decide) hsettled h (show _ + 20 ≤ m by omega) l b
  have hshorter : (beside ++ (Tag.closing.tokens last ++ behind)).length + 20 ≤ m := by
    rw [List.length_append, List.length_append] at hn
    omega
  obtain ⟨⟨_, el, eb⟩, rfl, hotherwise⟩ :=
    readBlock_of_reads hother hreads hshorter second db
  refine ⟨⟨⟨last, .statementEnd⟩ :: behind, last, eb⟩, rfl, ?_⟩
  rw [hcases, bind_of_ok (skipName_self (isSettled_statementEnd second _) dl db), if_pos rfl,
    bind_of_ok hotherwise, bind_of_ok (advance_cons (isSettled_statementEnd last behind) el eb)]
  rfl

/-- A tag that opens a branch begins a statement where it does not close a body. -/
theorem readBody_opening (name : ArgumentName) (hclosers : "if" ∉ closers) (l b : Nat) :
    readBody (n + 1) awaited opened closers ⟨(Tag.opening name).tokens line ++ tokens, l, b⟩ =
      (readStatement n awaited opened >>= fun statement ↦ expectStatementEnd >>= fun _ ↦
        readBody n awaited opened closers >>= fun others ↦ pure (statement :: others))
        ⟨⟨line, .name "if"⟩ :: ⟨line, .name name.text⟩ :: ⟨line, .statementEnd⟩ :: tokens,
          line, b⟩ := by
  have htokens : (Tag.opening name).tokens line ++ tokens = ⟨line, .statementBegin⟩ ::
      ⟨line, .name "if"⟩ :: ⟨line, .name name.text⟩ :: ⟨line, .statementEnd⟩ :: tokens := rfl
  have hcontains : closers.contains "if" = false := by
    rw [← Bool.not_eq_true, List.contains_iff_mem]
    exact hclosers
  rw [htokens, readBody, bind_of_ok (show peek _ = .ok (some .statementBegin, _) from rfl)]
  dsimp only
  rw [bind_of_ok (advance_cons (isSettled_name line "if" _) l b),
    bind_of_ok (show peek _ = .ok (some (.name "if"), _) from rfl)]
  dsimp only
  rw [hcontains]
  rfl

/-- A branch is its cases, if not too many branches are open. -/
theorem readStatement_opening (name : ArgumentName) (l b : Nat) :
    readStatement (n + 1) awaited opened
        ⟨⟨line, .name "if"⟩ :: ⟨line, .name name.text⟩ :: ⟨line, .statementEnd⟩ :: tokens, l, b⟩ =
      if openBlockLimit ≤ opened.length then .error (.fault .recursion)
      else (readCases n awaited ("if" :: opened)
          ⟨⟨line, .name name.text⟩ :: ⟨line, .statementEnd⟩ :: tokens, line, b⟩).map fun read ↦
        (.branch read.1.1 read.1.2, read.2) := by
  rw [readStatement]
  by_cases hopened : openBlockLimit ≤ opened.length
  · rw [if_pos hopened, if_pos hopened]
    rfl
  · rw [if_neg hopened, if_neg hopened]
    change (peek >>= _) _ = _
    rw [bind_of_ok (show peek _ = .ok (some (.name "if"), _) from rfl)]
    change (advance >>= fun _ ↦ readCases n awaited ("if" :: opened) >>= fun result ↦
      pure (Statement.branch result.1 result.2)) _ = _
    rw [bind_of_ok (advance_cons (isSettled_name line name.text _) l b)]
    cases hcases : readCases n awaited ("if" :: opened)
        ⟨⟨line, .name name.text⟩ :: ⟨line, .statementEnd⟩ :: tokens, line, b⟩ with
    | error failure => exact bind_of_error hcases
    | ok read => exact bind_of_ok hcases

/-- A branch whose cases are read up to the end of its last tag is read. -/
theorem readsThrough_branch (last : Nat) (name : ArgumentName)
    {cases : List (Expr × List Statement)} {otherwise : List Statement}
    (hopened : opened.length < openBlockLimit) (hclosers : "if" ∉ closers)
    (hcases : ReadsCases awaited ("if" :: opened)
      (⟨line, .name name.text⟩ :: ⟨line, .statementEnd⟩ :: (tokens ++ rest)) cases otherwise
      (⟨last, .statementEnd⟩ :: rest))
    (hrest : IsSettled rest) :
    ReadsThrough awaited opened closers ((Tag.opening name).tokens line ++ tokens)
      [.branch cases otherwise] rest := by
  intro n l b hn
  rw [List.append_assoc] at hn ⊢
  have hlength : ((Tag.opening name).tokens line ++ (tokens ++ rest)).length =
      tokens.length + rest.length + 4 := by
    rw [List.length_append, List.length_append, Nat.add_comm]
    rfl
  obtain ⟨m, rfl⟩ : ∃ m, n = m + 2 := ⟨n - 2, by omega⟩
  have hfuel : (⟨line, .name name.text⟩ :: ⟨line, .statementEnd⟩ :: (tokens ++ rest) :
      List Token).length + 20 ≤ m := by
    rw [List.length_cons, List.length_cons, List.length_append]
    omega
  obtain ⟨⟨_, dl, db⟩, rfl, hread⟩ := hcases m line b hfuel
  have hstatement : readStatement (m + 1) awaited opened ⟨⟨line, .name "if"⟩ ::
        ⟨line, .name name.text⟩ :: ⟨line, .statementEnd⟩ :: (tokens ++ rest), line, b⟩ =
      .ok (.branch cases otherwise, ⟨⟨last, .statementEnd⟩ :: rest, dl, db⟩) := by
    rw [readStatement_opening, if_neg (Nat.not_le_of_lt hopened), hread]
    rfl
  refine ⟨m + 1, last, db, by omega, ?_⟩
  rw [readBody_opening name hclosers, bind_of_ok hstatement,
    bind_of_ok (expectStatementEnd_cons hrest dl db)]
  cases hbody : readBody (m + 1) awaited opened closers ⟨rest, last, db⟩ with
  | error failure => exact bind_of_error hbody
  | ok read => exact bind_of_ok hbody

/-! ### Passages -/

/-- A body before a tag that closes it is read up to the word of the tag. -/
theorem ReadsThrough.reads_closer {tag : Tag} {word : String} (hwords : tag.words = [word])
    (hword : word ∈ closers) {statements : List Statement}
    (h : ReadsThrough awaited opened closers tokens statements (tag.tokens line ++ rest)) :
    Reads awaited opened closers (tokens ++ (tag.tokens line ++ rest)) statements
      (⟨line, .name word⟩ :: ⟨line, .statementEnd⟩ :: rest) := by
  have htag : tag.tokens line ++ rest =
      ⟨line, .statementBegin⟩ :: ⟨line, .name word⟩ :: ⟨line, .statementEnd⟩ :: rest := by
    rw [Tag.tokens, hwords]
    rfl
  have hreads := h.reads (htag ▸ reads_word hword)
  rwa [List.append_nil] at hreads

/-- A run, a branch and what follows it are read one after the other. -/
theorem readsThrough_before (newlines : Nat) (before : List TextLine) {name : ArgumentName}
    {behind : List Token} {cases : List (Expr × List Statement)} {otherwise after : List Statement}
    (hbranch : ReadsThrough awaited opened closers ((Tag.opening name).tokens line ++ tokens)
      [.branch cases otherwise] (behind ++ rest))
    (hafter : ReadsThrough awaited opened closers behind after rest) :
    ReadsThrough awaited opened closers
      ((runLayout before).tokens newlines ++ ((Tag.opening name).tokens line ++ (tokens ++ behind)))
      ((runLayout before).statementsFrom newlines ++ .branch cases otherwise :: after) rest := by
  have hwhole := hbranch.append hafter
  rw [List.append_assoc] at hwhole
  refine (readsThrough_tokens ?_ newlines (runLayout before)).append hwhole
  rw [List.append_assoc]
  exact isSettled_tag line (.opening name) _

/-- A branch with one body is read if the body is read inside it. -/
theorem readsThrough_guarded (first last : Nat) (name : ArgumentName) {p : Passage}
    {inside : List Token} {inner : List Statement} (hparses : p.Parses inside inner)
    (hopened : opened.length < openBlockLimit) (hclosers : "if" ∉ closers) (hrest : IsSettled rest)
    (hinner : ReadsThrough (branchClosers :: awaited) ("if" :: opened) branchClosers inside inner
      (Tag.closing.tokens last ++ rest)) :
    ReadsThrough awaited opened closers
      ((Tag.opening name).tokens first ++ (inside ++ Tag.closing.tokens last))
      [.branch [(.name first name.text, inner)] []] rest := by
  have hcases := readsCases_guarded first name
    (isSettled_parses hparses (isSettled_tag last .closing rest))
    (hinner.reads_closer rfl (by decide))
  rw [← List.append_assoc] at hcases
  exact readsThrough_branch last name hopened hclosers hcases hrest

/-- A branch with two bodies is read if both are read inside it. -/
theorem readsThrough_either (first second last : Nat) (name : ArgumentName) {p q : Passage}
    {inside beside : List Token} {inner other : List Statement} (hparses : p.Parses inside inner)
    (hother : q.Parses beside other) (hopened : opened.length < openBlockLimit)
    (hclosers : "if" ∉ closers) (hrest : IsSettled rest)
    (hinner : ReadsThrough (branchClosers :: awaited) ("if" :: opened) branchClosers inside inner
      (Tag.alternative.tokens second ++ (beside ++ (Tag.closing.tokens last ++ rest))))
    (hotherwise : ReadsThrough (["endif"] :: awaited) ("if" :: opened) ["endif"] beside other
      (Tag.closing.tokens last ++ rest)) :
    ReadsThrough awaited opened closers
      ((Tag.opening name).tokens first ++
        (inside ++ (Tag.alternative.tokens second ++ (beside ++ Tag.closing.tokens last))))
      [.branch [(.name first name.text, inner)] other] rest := by
  have hcases := readsCases_either first name
    (isSettled_parses hparses (isSettled_tag second .alternative _))
    (hinner.reads_closer rfl (by decide))
    (isSettled_parses hother (isSettled_tag last .closing rest))
    (hotherwise.reads_closer rfl (by decide))
  refine readsThrough_branch last name hopened hclosers ?_ hrest
  simpa only [List.append_assoc] using hcases

/-- A passage is read as its statements if not too many branches are open. -/
theorem readsThrough_parses {p : Passage} {statements : List Statement}
    (hparses : p.Parses tokens statements) (hdepth : opened.length + p.depth ≤ openBlockLimit)
    (hclosers : "if" ∉ closers) (hrest : IsSettled rest) :
    ReadsThrough awaited opened closers tokens statements rest := by
  -- Inside a branch there is one more open and other words close the body, so all of them vary.
  induction hparses generalizing awaited opened closers rest with
  | text run newlines => exact readsThrough_tokens hrest newlines (runLayout run)
  | @guarded before newlines opening first name p inside inner hbody closing last q behind after
      hafter ihbody ihafter =>
    rw [Passage.depth] at hdepth
    have hinner : ReadsThrough (branchClosers :: awaited) ("if" :: opened) branchClosers inside
        inner (Tag.closing.tokens last ++ (behind ++ rest)) :=
      ihbody (by rw [List.length_cons]; omega) (by decide) (isSettled_tag last .closing _)
    have hbranch := readsThrough_guarded first last name hbody (by omega) hclosers
      (isSettled_parses hafter hrest) hinner
    have hwhole := readsThrough_before newlines before hbranch (ihafter (by omega) hclosers hrest)
    simpa only [List.append_assoc] using hwhole
  | @either before newlines opening first name p inside inner hbody middle second q beside other
      hotherwise closing last r behind after hafter ihbody ihotherwise ihafter =>
    rw [Passage.depth] at hdepth
    have hinner : ReadsThrough (branchClosers :: awaited) ("if" :: opened) branchClosers inside
        inner (Tag.alternative.tokens second ++
          (beside ++ (Tag.closing.tokens last ++ (behind ++ rest)))) :=
      ihbody (by rw [List.length_cons]; omega) (by decide) (isSettled_tag second .alternative _)
    have hother : ReadsThrough (["endif"] :: awaited) ("if" :: opened) ["endif"] beside other
        (Tag.closing.tokens last ++ (behind ++ rest)) :=
      ihotherwise (by rw [List.length_cons]; omega) (by decide) (isSettled_tag last .closing _)
    have hbranch := readsThrough_either first second last name hbody hotherwise (by omega) hclosers
      (isSettled_parses hafter hrest) hinner hother
    have hwhole := readsThrough_before newlines before hbranch (ihafter (by omega) hclosers hrest)
    simpa only [List.append_assoc] using hwhole

/-- A passage is read as its statements if its branches are not nested too deep. -/
theorem readTemplate_parses {p : Passage} {statements : List Statement}
    (hparses : p.Parses (Token.scan p.unified) statements) (hdepth : p.depth ≤ openBlockLimit) :
    readTemplate p.unified = .ok statements := by
  have hopened : ([] : List String).length + p.depth ≤ openBlockLimit := by
    rwa [List.length_nil, Nat.zero_add]
  have hthrough : ReadsThrough [] [] [] (Token.scan p.unified) statements [] :=
    readsThrough_parses hparses hopened List.not_mem_nil isSettled_nil
  have hreads := hthrough.reads reads_nil
  have hsettled := isSettled_parses hparses isSettled_nil
  rw [List.append_nil] at hsettled
  rw [List.append_nil, List.append_nil] at hreads
  exact readTemplate_of_reads hsettled hreads

/-! ### Passages that are refused -/

/-- Whether a body is refused because too many branches are open in it. -/
def Refuses (awaited : List (List String)) (opened closers : List String) (tokens : List Token) :
    Prop :=
  ∀ n l b, tokens.length + 20 ≤ n →
    readBody n awaited opened closers ⟨tokens, l, b⟩ = .error (.fault .recursion)

/-- Whether the cases of a branch are refused because too many branches are open in them. -/
def RefusesCases (awaited : List (List String)) (opened : List String) (tokens : List Token) :
    Prop :=
  ∀ n l b, tokens.length + 20 ≤ n →
    readCases n awaited opened ⟨tokens, l, b⟩ = .error (.fault .recursion)

/-- What is refused is refused after tokens that are read. -/
theorem ReadsThrough.refuses {statements : List Statement}
    (h : ReadsThrough awaited opened closers tokens statements rest)
    (hrest : Refuses awaited opened closers rest) :
    Refuses awaited opened closers (tokens ++ rest) := by
  intro n l b hn
  obtain ⟨m, k, c, hm, hread⟩ := h n l b hn
  rw [hread, hrest m k c hm]
  rfl

/-- A block is refused if its body is. -/
theorem readBlock_of_refuses (hsettled : IsSettled tokens)
    (h : Refuses (closers :: awaited) opened closers tokens) (hn : tokens.length + 20 ≤ n)
    (l b : Nat) :
    readBlock (n + 1) awaited opened closers ⟨⟨line, .statementEnd⟩ :: tokens, l, b⟩ =
      .error (.fault .recursion) := by
  have hcolon : skipSymbol .colon ⟨⟨line, .statementEnd⟩ :: tokens, l, b⟩ =
      .ok (false, ⟨⟨line, .statementEnd⟩ :: tokens, l, b⟩) := rfl
  rw [readBlock, bind_of_ok hcolon, bind_of_ok (expectStatementEnd_cons hsettled l b)]
  exact bind_of_error (h n line b hn)

/-- A branch is refused if its first body is. -/
theorem refusesCases_body (first : Nat) (name : ArgumentName) (hsettled : IsSettled tokens)
    (h : Refuses (branchClosers :: awaited) opened branchClosers tokens) :
    RefusesCases awaited opened
      (⟨first, .name name.text⟩ :: ⟨first, .statementEnd⟩ :: tokens) := by
  unfold branchClosers at h
  intro n l b hn
  rw [List.length_cons, List.length_cons] at hn
  obtain ⟨m, rfl⟩ : ∃ m, n = m + 2 := ⟨n - 2, by omega⟩
  rw [readCases, bind_of_ok (readTuple_test name _ (by omega) l b)]
  exact bind_of_error (readBlock_of_refuses hsettled h (show _ + 20 ≤ m by omega) first first)

/-- A branch is refused if its second body is. -/
theorem refusesCases_otherwise (first : Nat) {second : Nat} (name : ArgumentName)
    {inside beside : List Token} {inner : List Statement}
    (hsettled : IsSettled (inside ++ (Tag.alternative.tokens second ++ beside)))
    (hinner : Reads (branchClosers :: awaited) opened branchClosers
      (inside ++ (Tag.alternative.tokens second ++ beside)) inner
      (⟨second, .name "else"⟩ :: ⟨second, .statementEnd⟩ :: beside))
    (hbeside : IsSettled beside) (h : Refuses (["endif"] :: awaited) opened ["endif"] beside) :
    RefusesCases awaited opened (⟨first, .name name.text⟩ :: ⟨first, .statementEnd⟩ ::
      (inside ++ (Tag.alternative.tokens second ++ beside))) := by
  intro n l b hn
  rw [List.length_cons, List.length_cons] at hn
  obtain ⟨m, rfl⟩ : ∃ m, n = m + 2 := ⟨n - 2, by omega⟩
  obtain ⟨⟨_, dl, db⟩, rfl, hcases⟩ :=
    readCases_of_reads first name (by decide) hsettled hinner (show _ + 20 ≤ m by omega) l b
  have hshorter : beside.length + 20 ≤ m := by
    rw [List.length_append, List.length_append] at hn
    omega
  rw [hcases, bind_of_ok (skipName_self (isSettled_statementEnd second beside) dl db), if_pos rfl]
  exact bind_of_error (readBlock_of_refuses hbeside h hshorter second db)

/-- A tag that opens a branch is refused if too many are open or else the branch is refused. -/
theorem refuses_branch (name : ArgumentName) (hclosers : "if" ∉ closers)
    (h : opened.length < openBlockLimit → RefusesCases awaited ("if" :: opened)
      (⟨line, .name name.text⟩ :: ⟨line, .statementEnd⟩ :: tokens)) :
    Refuses awaited opened closers ((Tag.opening name).tokens line ++ tokens) := by
  intro n l b hn
  have hlength : ((Tag.opening name).tokens line ++ tokens).length = tokens.length + 4 := by
    rw [List.length_append, Nat.add_comm]
    rfl
  obtain ⟨m, rfl⟩ : ∃ m, n = m + 2 := ⟨n - 2, by omega⟩
  rw [readBody_opening name hclosers]
  refine bind_of_error ?_
  rw [readStatement_opening]
  by_cases hopened : openBlockLimit ≤ opened.length
  · rw [if_pos hopened]
  · have hcases := h (Nat.not_le.mp hopened)
    have hfuel : (⟨line, .name name.text⟩ :: ⟨line, .statementEnd⟩ :: tokens :
        List Token).length + 20 ≤ m := by
      rw [List.length_cons, List.length_cons]
      omega
    rw [if_neg hopened, hcases m line b hfuel]
    rfl

/-- A run and a branch are refused if the branch is. -/
theorem refuses_before (newlines : Nat) (before : List TextLine) (name : ArgumentName)
    (h : Refuses awaited opened closers ((Tag.opening name).tokens line ++ tokens)) :
    Refuses awaited opened closers
      ((runLayout before).tokens newlines ++ ((Tag.opening name).tokens line ++ tokens)) :=
  (readsThrough_tokens (isSettled_tag line (.opening name) tokens) newlines
    (runLayout before)).refuses h

/-- A passage is refused if more branches are open in it than can be. -/
theorem refuses_parses {p : Passage} {statements : List Statement}
    (hparses : p.Parses tokens statements) (hdeep : openBlockLimit < opened.length + p.depth)
    (hopened : opened.length ≤ openBlockLimit) (hclosers : "if" ∉ closers)
    (hrest : IsSettled rest) : Refuses awaited opened closers (tokens ++ rest) := by
  induction hparses generalizing awaited opened closers rest with
  | text run newlines =>
    rw [Passage.depth] at hdeep
    omega
  | @guarded before newlines opening first name p inside inner hbody closing last q behind after
      hafter ihbody ihafter =>
    rw [Passage.depth] at hdeep
    have hbehind : IsSettled (behind ++ rest) := isSettled_parses hafter hrest
    have hclosing := isSettled_tag last .closing (behind ++ rest)
    have hbranch : Refuses awaited opened closers ((Tag.opening name).tokens first ++
        (inside ++ (Tag.closing.tokens last ++ (behind ++ rest)))) := by
      by_cases hbelow : openBlockLimit < ("if" :: opened).length + p.depth
      · refine refuses_branch name hclosers fun hopen ↦ ?_
        exact refusesCases_body first name (isSettled_parses hbody hclosing)
          (ihbody hbelow hopen (by decide) hclosing)
      · -- The branch is read, so what follows it is refused.
        rw [List.length_cons] at hbelow
        have hinner : ReadsThrough (branchClosers :: awaited) ("if" :: opened) branchClosers inside
            inner (Tag.closing.tokens last ++ (behind ++ rest)) :=
          readsThrough_parses hbody (by rw [List.length_cons]; omega) (by decide) hclosing
        have hread := readsThrough_guarded first last name hbody (by omega) hclosers hbehind hinner
        have hwhole := hread.refuses (ihafter (by omega) hopened hclosers hrest)
        simpa only [List.append_assoc] using hwhole
    have hwhole := refuses_before newlines before name hbranch
    simpa only [List.append_assoc] using hwhole
  | @either before newlines opening first name p inside inner hbody middle second q beside other
      hotherwise closing last r behind after hafter ihbody ihotherwise ihafter =>
    rw [Passage.depth] at hdeep
    have hbehind : IsSettled (behind ++ rest) := isSettled_parses hafter hrest
    have hclosing := isSettled_tag last .closing (behind ++ rest)
    have hbeside := isSettled_parses hotherwise hclosing
    have hmiddle := isSettled_tag second .alternative
      (beside ++ (Tag.closing.tokens last ++ (behind ++ rest)))
    have hbranch : Refuses awaited opened closers ((Tag.opening name).tokens first ++
        (inside ++ (Tag.alternative.tokens second ++
          (beside ++ (Tag.closing.tokens last ++ (behind ++ rest)))))) := by
      by_cases hbelow : openBlockLimit < ("if" :: opened).length + p.depth
      · refine refuses_branch name hclosers fun hopen ↦ ?_
        exact refusesCases_body first name (isSettled_parses hbody hmiddle)
          (ihbody hbelow hopen (by decide) hmiddle)
      have hinner : ReadsThrough (branchClosers :: awaited) ("if" :: opened) branchClosers inside
          inner (Tag.alternative.tokens second ++
            (beside ++ (Tag.closing.tokens last ++ (behind ++ rest)))) :=
        readsThrough_parses hbody (Nat.not_lt.mp hbelow) (by decide) hmiddle
      by_cases hnext : openBlockLimit < ("if" :: opened).length + q.depth
      · refine refuses_branch name hclosers fun hopen ↦ ?_
        exact refusesCases_otherwise first name (isSettled_parses hbody hmiddle)
          (hinner.reads_closer rfl (by decide)) hbeside
          (ihotherwise hnext hopen (by decide) hclosing)
      · -- The branch is read, so what follows it is refused.
        have hother : ReadsThrough (["endif"] :: awaited) ("if" :: opened) ["endif"] beside other
            (Tag.closing.tokens last ++ (behind ++ rest)) :=
          readsThrough_parses hotherwise (Nat.not_lt.mp hnext) (by decide) hclosing
        rw [List.length_cons] at hbelow hnext
        have hread := readsThrough_either first second last name hbody hotherwise (by omega)
          hclosers hbehind hinner hother
        have hwhole := hread.refuses (ihafter (by omega) hopened hclosers hrest)
        simpa only [List.append_assoc] using hwhole
    have hwhole := refuses_before newlines before name hbranch
    simpa only [List.append_assoc] using hwhole

/-- A passage is refused if its branches are nested deeper than branches can be open. -/
theorem readTemplate_of_openBlockLimit_lt {p : Passage} {statements : List Statement}
    (hparses : p.Parses (Token.scan p.unified) statements) (hdeep : openBlockLimit < p.depth) :
    readTemplate p.unified = .error (.fault .recursion) := by
  have hopen : openBlockLimit < ([] : List String).length + p.depth := by
    rwa [List.length_nil, Nat.zero_add]
  have hrefuses : Refuses [] [] [] (Token.scan p.unified ++ []) :=
    refuses_parses hparses hopen (Nat.zero_le _) List.not_mem_nil isSettled_nil
  have hsettled := isSettled_parses hparses isSettled_nil
  rw [List.append_nil] at hsettled hrefuses
  rw [readTemplate]
  dsimp only
  rw [settle_of_isSettled hsettled]
  change (readBody _ [] [] [] _ >>= fun result ↦ pure result.1) = _
  rw [hrefuses _ 1 1 (by omega)]
  rfl

end Scriptorium.Template
