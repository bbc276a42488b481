import Scriptorium.Proofs.Placeholder.Scan
import Scriptorium.Template.Grammar

/-!
# Statements of placeholders

What `readTemplate` makes of a layout: a text for every stretch that is not empty, and for every
placeholder the print of an expression, which is its name with its filters around it
(`Placeholder.expr`).

A reader of an expression ends where no reader could go on. At the end of a tag (`AtTagEnd`) the
readers from the choice down to the power have nothing to add to an operand, so each of them gives
what the one below gives, and what remains is the operand with its filters
(`readTuple_of_readSigned`). This holds of the tags of statements as well.
-/

set_option autoImplicit false
set_option relaxedAutoImplicit false

namespace Scriptorium.Template

open Reader Text

/-! ### Steps of readers -/

/-- A computation after one that succeeds. -/
theorem bind_of_ok {σ ε α β : Type} {x : StateT σ (Except ε) α} {f : α → StateT σ (Except ε) β}
    {s t : σ} {a : α}
    (h : x s = .ok (a, t)) : (x >>= f) s = f a t := by
  show (x s >>= fun result ↦ f result.1 result.2) = f a t
  rw [h]
  rfl

/-- A computation after one that fails. -/
theorem bind_of_error {σ ε α β : Type} {x : StateT σ (Except ε) α} {f : α → StateT σ (Except ε) β}
    {s : σ} {e : ε}
    (h : x s = .error e) : (x >>= f) s = .error e := by
  show (x s >>= fun result ↦ f result.1 result.2) = .error e
  rw [h]
  rfl

/-- A function of what a computation gives. -/
theorem map_of_ok {σ ε α β : Type} {x : StateT σ (Except ε) α} {f : α → β} {s t : σ} {a : α}
    (h : x s = .ok (a, t)) : (f <$> x) s = .ok (f a, t) := by
  show (x s >>= fun result ↦ pure (f result.1, result.2)) = .ok (f a, t)
  rw [h]
  rfl

/-- A function of what a computation that fails would give. -/
theorem map_of_error {σ ε α β : Type} {x : StateT σ (Except ε) α} {f : α → β} {s : σ} {e : ε}
    (h : x s = .error e) : (f <$> x) s = .error e := by
  show (x s >>= fun result ↦ pure (f result.1, result.2)) = .error e
  rw [h]
  rfl

/-- A computation that leaves the state alone. -/
theorem liftM_eq {σ ε α : Type} (x : Except ε α) (s : σ) :
    (liftM x : StateT σ (Except ε) α) s = x.map fun a ↦ (a, s) := by
  cases x <;> rfl

/-- Tokens of which the first can be read. -/
def IsSettled (tokens : List Token) : Prop :=
  ∀ line obstacle, tokens.head? ≠ some ⟨line, .unreadable obstacle⟩

/-- A cursor stays if its first token can be read. -/
theorem settle_of_isSettled {c : Cursor} (h : IsSettled c.tokens) : settle c = .ok c := by
  unfold settle
  split
  · rename_i line obstacle rest heq
    exact absurd (congrArg List.head? heq) (h line obstacle)
  · rfl

/-- A name can be read. -/
theorem isSettled_name (line : Nat) (name : String) (rest : List Token) :
    IsSettled (⟨line, .name name⟩ :: rest) := by
  intro _ _ heq
  cases heq

/-- The end of a tag can be read. -/
theorem isSettled_statementEnd (line : Nat) (rest : List Token) :
    IsSettled (⟨line, .statementEnd⟩ :: rest) := by
  intro _ _ heq
  cases heq

/-- A token is passed over. -/
theorem advance_cons {t : Token} {rest : List Token} (h : IsSettled rest) (line built : Nat) :
    advance ⟨t :: rest, line, built⟩ = .ok ((), ⟨rest, t.line, built⟩) := by
  change (settle ⟨rest, t.line, built⟩).map ((), ·) = _
  rw [settle_of_isSettled h]
  rfl

/-- The line of the next token changes nothing. -/
theorem exists_currentLine (c : Cursor) : ∃ line, currentLine c = .ok (line, c) := by
  unfold currentLine
  split
  · exact ⟨_, rfl⟩
  · exact ⟨_, rfl⟩

/-- Another name than the one that comes next is not passed over. -/
theorem skipName_of_ne {name other : String} (h : other ≠ name) (line l b : Nat)
    (rest : List Token) :
    skipName name ⟨⟨line, .name other⟩ :: rest, l, b⟩ =
      .ok (false, ⟨⟨line, .name other⟩ :: rest, l, b⟩) := by
  have hname : isName name ⟨⟨line, .name other⟩ :: rest, l, b⟩ =
      .ok (false, ⟨⟨line, .name other⟩ :: rest, l, b⟩) := by
    change Except.ok (other == name, _) = _
    rw [beq_eq_false_iff_ne.mpr h]
  rw [skipName, bind_of_ok hname]
  rfl

/-! ### The end of a tag -/

/-- A cursor at the end of a tag. -/
inductive AtTagEnd : Cursor → Prop
  | print (line : Nat) (rest : List Token) (l b : Nat) : AtTagEnd ⟨⟨line, .printEnd⟩ :: rest, l, b⟩
  | statement (line : Nat) (rest : List Token) (l b : Nat) :
      AtTagEnd ⟨⟨line, .statementEnd⟩ :: rest, l, b⟩

variable {n : Nat} {c d : Cursor} {e : Expr}

/-- A power at the end of a tag is its operand. -/
theorem readPower_of_readSigned (h : readSigned (n + 1) true c = .ok (e, d)) (hend : AtTagEnd d) :
    readPower (n + 2) c = .ok (e, d) := by
  obtain ⟨line, hline⟩ := exists_currentLine c
  rw [readPower, bind_of_ok hline, bind_of_ok h, readPowers]
  cases hend <;> rfl

/-- A product at the end of a tag is its factor. -/
theorem readProduct_of_readPower (h : readPower (n + 1) c = .ok (e, d)) (hend : AtTagEnd d) :
    readProduct (n + 2) c = .ok (e, d) := by
  obtain ⟨line, hline⟩ := exists_currentLine c
  rw [readProduct, bind_of_ok hline, bind_of_ok h, readProducts]
  cases hend <;> rfl

/-- A concatenation at the end of a tag is its part. -/
theorem readConcat_of_readProduct (h : readProduct (n + 1) c = .ok (e, d)) (hend : AtTagEnd d) :
    readConcat (n + 2) c = .ok (e, d) := by
  have hparts : readConcats (n + 1) d = .ok ([], d) := by
    rw [readConcats]
    cases hend <;> rfl
  obtain ⟨line, hline⟩ := exists_currentLine c
  rw [readConcat, bind_of_ok hline, bind_of_ok h, bind_of_ok hparts]
  rfl

/-- A sum at the end of a tag is its term. -/
theorem readSum_of_readConcat (h : readConcat (n + 1) c = .ok (e, d)) (hend : AtTagEnd d) :
    readSum (n + 2) c = .ok (e, d) := by
  obtain ⟨line, hline⟩ := exists_currentLine c
  rw [readSum, bind_of_ok hline, bind_of_ok h, readSums]
  cases hend <;> rfl

/-- A comparison at the end of a tag is its value. -/
theorem readCompare_of_readSum (h : readSum (n + 1) c = .ok (e, d)) (hend : AtTagEnd d) :
    readCompare (n + 2) c = .ok (e, d) := by
  have hrelations : readCompares (n + 1) d = .ok ([], d) := by
    rw [readCompares]
    cases hend <;> rfl
  rw [readCompare, bind_of_ok h, bind_of_ok hrelations]
  rfl

/-- What does not begin with the word for it is no negation. -/
theorem readNot_of_readCompare (hnot : skipName "not" c = .ok (false, c))
    (h : readCompare n c = .ok (e, d)) :
    readNot (n + 1) c = .ok (e, d) := by
  obtain ⟨line, hline⟩ := exists_currentLine c
  rw [readNot, bind_of_ok hline, bind_of_ok hnot]
  exact h

/-- A conjunction at the end of a tag is its member. -/
theorem readAnd_of_readNot (h : readNot (n + 1) c = .ok (e, d)) (hend : AtTagEnd d) :
    readAnd (n + 2) c = .ok (e, d) := by
  obtain ⟨line, hline⟩ := exists_currentLine c
  rw [readAnd, bind_of_ok hline, bind_of_ok h, readAnds]
  cases hend <;> rfl

/-- A disjunction at the end of a tag is its member. -/
theorem readOr_of_readAnd (h : readAnd (n + 1) c = .ok (e, d)) (hend : AtTagEnd d) :
    readOr (n + 2) c = .ok (e, d) := by
  obtain ⟨line, hline⟩ := exists_currentLine c
  rw [readOr, bind_of_ok hline, bind_of_ok h, readOrs]
  cases hend <;> rfl

/-- A choice at the end of a tag is its value. -/
theorem readChoice_of_readOr (h : readOr (n + 1) c = .ok (e, d)) (hend : AtTagEnd d) :
    readChoice (n + 2) c = .ok (e, d) := by
  obtain ⟨line, hline⟩ := exists_currentLine c
  rw [readChoice, bind_of_ok hline, bind_of_ok h, readChoices]
  cases hend <;> rfl

/-- A single expression is no sequence. -/
theorem readTuple_of_item {place : Position} (hbegin : atTupleEnd c = .ok (false, c))
    (h : (if place = .block then readOr (n + 1) else readChoice (n + 1)) c = .ok (e, d))
    (hend : AtTagEnd d) :
    readTuple (n + 3) place c = .ok (e, d) := by
  have hcomma : isSymbol .comma d = .ok (false, d) := by
    cases hend <;> rfl
  have hitems : readTupleItems (n + 2) place true c = .ok (([e], none), d) := by
    rw [readTupleItems]
    simp only [Bool.not_true, Bool.false_eq_true, if_false]
    rw [bind_of_ok hbegin]
    by_cases hplace : place = .block
    · simp only [hplace, if_true, Bool.false_eq_true, if_false] at h ⊢
      rw [bind_of_ok h, bind_of_ok hcomma]
      rfl
    · simp only [hplace, Bool.false_eq_true, if_false] at h ⊢
      rw [bind_of_ok h, bind_of_ok hcomma]
      rfl
  obtain ⟨line, hline⟩ := exists_currentLine c
  rw [readTuple, bind_of_ok hline, bind_of_ok hitems]
  rfl

/-! ### Operands with filters -/

/-- What no word of the language is called is no value that is written as a name. -/
theorem literalOfName?_of_not_mem {name : String} (h : name ∉ reservedNames) :
    literalOfName? name = none := by
  simp only [reservedNames, List.mem_cons, not_or] at h
  simp [literalOfName?, h]

/-- Filters around an expression, the first of them innermost. -/
def filterExpr (line : Nat) (filters : List CodeFilter) (e : Expr) : Expr :=
  filters.foldl (fun e f ↦ .filter line e f.name .empty) e

/-- The expression of a placeholder. -/
def Placeholder.expr (line : Nat) (p : Placeholder) : Expr :=
  filterExpr line p.filters (.name line p.name)

/-- A cursor where a filter begins or a tag ends. -/
inductive AtFilterOrEnd : Cursor → Prop
  | filter (line : Nat) (rest : List Token) (l b : Nat) :
      AtFilterOrEnd ⟨⟨line, .symbol .pipe⟩ :: rest, l, b⟩
  | tagEnd {c : Cursor} (h : AtTagEnd c) : AtFilterOrEnd c

/-- Filters before the end of a tag begin there, or the tag ends. -/
theorem atFilterOrEnd_filterTokens {line l b : Nat} {rest : List Token} (filters : List CodeFilter)
    (hend : AtTagEnd ⟨rest, l, b⟩) : AtFilterOrEnd ⟨filterTokens line filters ++ rest, l, b⟩ := by
  cases filters with
  | nil => exact .tagEnd hend
  | cons f more => exact .filter line _ l b

/-- Where a filter begins or a tag ends the tokens can be read. -/
theorem AtFilterOrEnd.isSettled (h : AtFilterOrEnd c) : IsSettled c.tokens := by
  intro line obstacle heq
  rcases h with ⟨_, _, _, _⟩ | ⟨⟨_, _, _, _⟩ | ⟨_, _, _, _⟩⟩ <;> cases heq

/-- An operand has no suffix where a filter begins or a tag ends. -/
theorem readSuffixes_of_atFilterOrEnd (h : AtFilterOrEnd c) (n : Nat) (e : Expr) :
    readSuffixes (n + 1) e c = .ok (e, c) := by
  rw [readSuffixes]
  rcases h with ⟨_, _, _, _⟩ | ⟨⟨_, _, _, _⟩ | ⟨_, _, _, _⟩⟩ <;> rfl

/-- A name with a filter or the end of a tag after it has no points. -/
theorem dottedName_of_atFilterOrEnd {line l b : Nat} {name : String} {rest : List Token}
    (h : AtFilterOrEnd ⟨rest, line, b⟩) (n : Nat) :
    dottedName (n + 1) ⟨⟨line, .name name⟩ :: rest, l, b⟩ = .ok (name, ⟨rest, line, b⟩) := by
  have hname : expectName ⟨⟨line, .name name⟩ :: rest, l, b⟩ = .ok (name, ⟨rest, line, b⟩) := by
    change (advance >>= fun _ ↦ pure name) ⟨⟨line, .name name⟩ :: rest, l, b⟩ = _
    rw [bind_of_ok (advance_cons h.isSettled l b)]
    rfl
  have hdot : skipSymbol .dot ⟨rest, line, b⟩ = .ok (false, ⟨rest, line, b⟩) := by
    rcases h with ⟨_, _, _, _⟩ | ⟨⟨_, _, _, _⟩ | ⟨_, _, _, _⟩⟩ <;> rfl
  rw [dottedName, bind_of_ok hname, bind_of_ok hdot]
  rfl

/-- A filter without arguments. -/
theorem readFilter_of_atFilterOrEnd {line l b : Nat} {name : String} {rest : List Token}
    (h : AtFilterOrEnd ⟨rest, line, b⟩) (n : Nat) (e : Expr) :
    readFilter (n + 2) e ⟨⟨line, .name name⟩ :: rest, l, b⟩ =
      .ok (.filter line e name .empty, ⟨rest, line, line⟩) := by
  have hround : isSymbol .openRound ⟨rest, line, b⟩ = .ok (false, ⟨rest, line, b⟩) := by
    rcases h with ⟨_, _, _, _⟩ | ⟨⟨_, _, _, _⟩ | ⟨_, _, _, _⟩⟩ <;> rfl
  have hline : currentLine ⟨⟨line, .name name⟩ :: rest, l, b⟩ =
      .ok (line, ⟨⟨line, .name name⟩ :: rest, l, b⟩) := rfl
  rw [readFilter, bind_of_ok hline, bind_of_ok (dottedName_of_atFilterOrEnd h n), bind_of_ok hround]
  rfl

/-- The filters before the end of a tag go around the operand one after the other. -/
theorem readFilters_filterTokens {line : Nat} {rest : List Token}
    (hend : AtTagEnd ⟨rest, line, line⟩)
    (filters : List CodeFilter) (n : Nat) (e : Expr) :
    readFilters (n + filters.length + 2) e ⟨filterTokens line filters ++ rest, line, line⟩ =
      .ok (filterExpr line filters e, ⟨rest, line, line⟩) := by
  induction filters generalizing e with
  | nil =>
    change readFilters (n + 2) e ⟨rest, line, line⟩ = .ok (e, ⟨rest, line, line⟩)
    obtain ⟨l, hline⟩ := exists_currentLine ⟨rest, line, line⟩
    rw [readFilters, bind_of_ok hline]
    cases hend <;> rfl
  | cons f more ih =>
    have hmore : AtFilterOrEnd ⟨filterTokens line more ++ rest, line, line⟩ :=
      atFilterOrEnd_filterTokens more hend
    have htokens : filterTokens line (f :: more) ++ rest =
        ⟨line, .symbol .pipe⟩ :: ⟨line, .name f.name⟩ :: (filterTokens line more ++ rest) := rfl
    have hfilter : readFilter (n + more.length + 2) e
        ⟨⟨line, .name f.name⟩ :: (filterTokens line more ++ rest), line, line⟩ =
          .ok (.filter line e f.name .empty, ⟨filterTokens line more ++ rest, line, line⟩) :=
      readFilter_of_atFilterOrEnd hmore (n + more.length) e
    change readFilters (n + more.length + 2 + 1) e _ = _
    rw [htokens, readFilters, bind_of_ok (show currentLine _ = .ok (line, _) from rfl),
      bind_of_ok (show peek _ = .ok (some (.symbol .pipe), _) from rfl)]
    dsimp only
    rw [bind_of_ok (advance_cons (isSettled_name line f.name _) line line), bind_of_ok hfilter, ih]
    rfl

/-- A name that is no word of the language is read with its filters. -/
theorem readSigned_name {line l b : Nat} {name : String} {rest : List Token}
    (hname : name ∉ reservedNames)
    (hend : AtTagEnd ⟨rest, line, line⟩) (filters : List CodeFilter) (n : Nat) :
    readSigned (n + filters.length + 3) true
      ⟨⟨line, .name name⟩ :: (filterTokens line filters ++ rest), l, b⟩ =
      .ok (filterExpr line filters (.name line name), ⟨rest, line, line⟩) := by
  have hmore : AtFilterOrEnd ⟨filterTokens line filters ++ rest, line, line⟩ :=
    atFilterOrEnd_filterTokens filters hend
  have hprimary : readPrimary (n + filters.length + 2)
      ⟨⟨line, .name name⟩ :: (filterTokens line filters ++ rest), l, b⟩ =
        .ok (.name line name, ⟨filterTokens line filters ++ rest, line, line⟩) := by
    rw [readPrimary, bind_of_ok (show currentLine _ = .ok (line, _) from rfl),
      bind_of_ok (show peek _ = .ok (some (.name name), _) from rfl)]
    change (advance >>= _) _ = _
    rw [bind_of_ok (advance_cons hmore.isSettled l b), literalOfName?_of_not_mem hname]
    rfl
  rw [readSigned, bind_of_ok (show currentLine _ = .ok (line, _) from rfl)]
  change (readPrimary _ >>= fun operand ↦ readSuffixes _ operand >>= fun value ↦
    readFilters _ value) _ = _
  rw [bind_of_ok hprimary, bind_of_ok (readSuffixes_of_atFilterOrEnd hmore _ _),
    readFilters_filterTokens hend]

/-- A name with filters is a choice, or what stands for one after the word of a block. -/
theorem readTuple_name {line l b : Nat} {name : String} {rest : List Token}
    (hname : name ∉ reservedNames)
    (hend : AtTagEnd ⟨rest, line, line⟩) (filters : List CodeFilter) {n : Nat}
    (hn : filters.length + 15 ≤ n)
    (place : Position) :
    readTuple n place ⟨⟨line, .name name⟩ :: (filterTokens line filters ++ rest), l, b⟩ =
      .ok (filterExpr line filters (.name line name), ⟨rest, line, line⟩) := by
  have hnot : name ≠ "not" := by
    rintro rfl
    exact hname (by decide)
  have hcompare : ∀ m, readCompare (m + filters.length + 8)
      ⟨⟨line, .name name⟩ :: (filterTokens line filters ++ rest), l, b⟩ =
        .ok (filterExpr line filters (.name line name), ⟨rest, line, line⟩) := fun m ↦
    readCompare_of_readSum (readSum_of_readConcat (readConcat_of_readProduct
      (readProduct_of_readPower (readPower_of_readSigned (readSigned_name hname hend filters m)
        hend) hend) hend) hend) hend
  have hor : ∀ m, readOr (m + filters.length + 11)
      ⟨⟨line, .name name⟩ :: (filterTokens line filters ++ rest), l, b⟩ =
        .ok (filterExpr line filters (.name line name), ⟨rest, line, line⟩) := fun m ↦
    readOr_of_readAnd (readAnd_of_readNot
      (readNot_of_readCompare (skipName_of_ne hnot line l b _) (hcompare m))
      hend) hend
  obtain ⟨m, rfl⟩ : ∃ m, n = m + filters.length + 15 := ⟨n - (filters.length + 15), by omega⟩
  refine readTuple_of_item rfl ?_ hend
  by_cases hplace : place = .block
  · rw [if_pos hplace]
    have hshift : m + filters.length + 12 + 1 = m + 2 + filters.length + 11 := by omega
    rw [hshift]
    exact hor (m + 2)
  · rw [if_neg hplace]
    have hshift : m + filters.length + 12 + 1 = m + 1 + filters.length + 10 + 1 + 1 := by omega
    rw [hshift]
    exact readChoice_of_readOr (hor (m + 1)) hend

/-! ### Bodies -/

variable {awaited : List (List String)} {opened closers : List String} {body : List Statement}

/-- A text is a statement. -/
theorem readBody_data {line l b : Nat} (text : List Char) {rest : List Token}
    (hrest : IsSettled rest) :
    readBody (n + 1) awaited opened closers ⟨⟨line, .data text⟩ :: rest, l, b⟩ =
      (readBody n awaited opened closers ⟨rest, line, b⟩).map fun read ↦
        (.text text :: read.1, read.2) := by
  rw [readBody, bind_of_ok (show peek _ = .ok (some (.data text), _) from rfl)]
  dsimp only
  rw [bind_of_ok (advance_cons hrest l b)]
  cases hbody : readBody n awaited opened closers ⟨rest, line, b⟩ with
  | error failure => exact bind_of_error hbody
  | ok read => exact bind_of_ok hbody

/-- A placeholder is the print of its expression. -/
theorem readBody_placeholder {line l b : Nat} {rest : List Token} (p : Placeholder)
    (hrest : IsSettled rest) (hn : p.filters.length + 15 ≤ n) :
    readBody (n + 1) awaited opened closers ⟨p.tokens line ++ rest, l, b⟩ =
      (readBody n awaited opened closers ⟨rest, line, line⟩).map fun read ↦
        (.print (p.expr line) :: read.1, read.2) := by
  have htokens : p.tokens line ++ rest =
      ⟨line, .printBegin⟩ :: ⟨line, .name p.name⟩ ::
        (filterTokens line p.filters ++ ⟨line, .printEnd⟩ :: rest) := by
    simp [Placeholder.tokens]
  have hname : IsSettled (⟨line, .name p.name⟩ ::
      (filterTokens line p.filters ++ ⟨line, .printEnd⟩ :: rest)) := isSettled_name line p.name _
  have hprintEnd : expectPrintEnd ⟨⟨line, .printEnd⟩ :: rest, line, line⟩ =
      .ok ((), ⟨rest, line, line⟩) := by
    rw [expectPrintEnd, bind_of_ok (show peek _ = .ok (some .printEnd, _) from rfl)]
    exact advance_cons hrest line line
  rw [htokens, readBody, bind_of_ok (show peek _ = .ok (some .printBegin, _) from rfl)]
  dsimp only
  rw [bind_of_ok (advance_cons hname l b),
    bind_of_ok (readTuple_name p.unreserved (.print line rest line line) p.filters hn .tag),
    bind_of_ok hprintEnd]
  cases hbody : readBody n awaited opened closers ⟨rest, line, line⟩ with
  | error failure => exact bind_of_error hbody
  | ok read => exact bind_of_ok hbody

/-! ### Layouts -/

/-- A stretch of text as a statement; there is none for no text. -/
def textStatements (text : List Char) : List Statement := if text.isEmpty then [] else [.text text]

/-- Placeholders and the stretches after them as statements. -/
def partStatements (newlines : Nat) : List (Placeholder × List Char) → List Statement
  | [] => []
  | (p, text) :: rest =>
    .print (p.expr (lineOf newlines (text ++ unifiedParts rest))) ::
      (textStatements text ++ partStatements newlines rest)

/-- The statements of a layout behind which so many line feeds fewer are left than in a template. -/
def Layout.statementsFrom (newlines : Nat) (layout : Layout) : List Statement :=
  textStatements layout.lead ++ partStatements newlines layout.parts

/-- The statements of a layout. -/
def Layout.statements (layout : Layout) : List Statement :=
  textStatements layout.lead ++ partStatements (newlineCount layout.unified) layout.parts

/-- Nothing is left that cannot be read. -/
theorem isSettled_nil : IsSettled [] := by
  intro line obstacle heq
  cases heq

/-- The tokens of placeholders can be read. -/
theorem isSettled_partTokens (newlines : Nat) (parts : List (Placeholder × List Char))
    {rest : List Token} (hrest : IsSettled rest) :
    IsSettled (partTokens newlines parts ++ rest) := by
  cases parts with
  | nil => exact hrest
  | cons part others =>
    intro line obstacle heq
    cases heq

/-- The tokens of a stretch and of what follows can be read. -/
theorem isSettled_dataTokens {rest : List Token} (hrest : IsSettled rest) (line : Nat)
    (text : List Char) :
    IsSettled (dataTokens line text ++ rest) := by
  unfold dataTokens
  split
  · exact hrest
  · intro _ _ heq
    cases heq

/-- The tokens of a layout can be read. -/
theorem isSettled_tokens (newlines : Nat) (layout : Layout) {rest : List Token}
    (hrest : IsSettled rest) : IsSettled (layout.tokens newlines ++ rest) := by
  rw [Layout.tokens, List.append_assoc]
  exact isSettled_dataTokens (isSettled_partTokens newlines layout.parts hrest) _ _

/-- A placeholder has two tokens for each filter and three others. -/
theorem Placeholder.length_tokens (line : Nat) (p : Placeholder) :
    (p.tokens line).length = 2 * p.filters.length + 3 := by
  have hfilters : ∀ filters : List CodeFilter,
      (filterTokens line filters).length = 2 * filters.length := by
    intro filters
    induction filters with
    | nil => rfl
    | cons f rest ih =>
      have hcons : filterTokens line (f :: rest) =
          ⟨line, .symbol .pipe⟩ :: ⟨line, .name f.name⟩ :: filterTokens line rest := rfl
      rw [hcons, List.length_cons, List.length_cons, ih, List.length_cons]
      omega
  rw [tokens, List.length_cons, List.length_cons, List.length_append, hfilters,
    List.length_singleton]

/-- Whether tokens are read as a body, and up to where. The fuel has to exceed their number. -/
def Reads (awaited : List (List String)) (opened closers : List String) (tokens : List Token)
    (body : List Statement) (left : List Token) : Prop :=
  ∀ n l b, tokens.length + 20 ≤ n → ∃ d : Cursor, d.tokens = left ∧
    readBody n awaited opened closers ⟨tokens, l, b⟩ = .ok (body, d)

/-- Whether tokens before others are read as statements, whatever becomes of the others: a body that
begins with them is these statements and what the others are read as, and fails as they do. -/
def ReadsThrough (awaited : List (List String)) (opened closers : List String) (tokens : List Token)
    (statements : List Statement) (rest : List Token) : Prop :=
  ∀ n l b, (tokens ++ rest).length + 20 ≤ n → ∃ m k c, rest.length + 20 ≤ m ∧
    readBody n awaited opened closers ⟨tokens ++ rest, l, b⟩ =
      (readBody m awaited opened closers ⟨rest, k, c⟩).map fun read ↦
        (statements ++ read.1, read.2)

section Reads

variable {tokens others left rest : List Token} {statements more : List Statement}

/-- The end of the template ends a body. -/
theorem reads_nil : Reads awaited opened closers [] [] [] := by
  intro n l b hn
  obtain ⟨m, rfl⟩ : ∃ m, n = m + 1 := ⟨n - 1, by omega⟩
  refine ⟨⟨[], l, b⟩, rfl, ?_⟩
  rw [readBody]
  rfl

/-- Tokens are read with what others after them are read as. -/
theorem ReadsThrough.reads (h : ReadsThrough awaited opened closers tokens statements rest)
    (hrest : Reads awaited opened closers rest body left) :
    Reads awaited opened closers (tokens ++ rest) (statements ++ body) left := by
  intro n l b hn
  obtain ⟨m, k, c, hm, hread⟩ := h n l b hn
  obtain ⟨d, hleft, hd⟩ := hrest m k c hm
  exact ⟨d, hleft, by rw [hread, hd]; rfl⟩

/-- No tokens are no statements. -/
theorem readsThrough_nil : ReadsThrough awaited opened closers [] [] rest := by
  intro n l b hn
  refine ⟨n, l, b, hn, ?_⟩
  rw [List.nil_append]
  cases readBody n awaited opened closers ⟨rest, l, b⟩ <;> rfl

/-- Tokens are read one part after the other. -/
theorem ReadsThrough.append
    (h : ReadsThrough awaited opened closers tokens statements (others ++ rest))
    (hothers : ReadsThrough awaited opened closers others more rest) :
    ReadsThrough awaited opened closers (tokens ++ others) (statements ++ more) rest := by
  intro n l b hn
  rw [List.append_assoc] at hn ⊢
  obtain ⟨m, k, c, hm, hread⟩ := h n l b hn
  obtain ⟨i, j, e, hi, hmore⟩ := hothers m k c hm
  refine ⟨i, j, e, hi, ?_⟩
  rw [hread, hmore]
  cases readBody i awaited opened closers ⟨rest, j, e⟩ with
  | error failure => rfl
  | ok read => simp [Except.map]

/-- A stretch is read as its statement. -/
theorem readsThrough_dataTokens (hrest : IsSettled rest) (line : Nat) (text : List Char) :
    ReadsThrough awaited opened closers (dataTokens line text) (textStatements text) rest := by
  by_cases htext : text.isEmpty
  · have htokens : dataTokens line text = [] := if_pos htext
    have hstatements : textStatements text = [] := if_pos htext
    rw [htokens, hstatements]
    exact readsThrough_nil
  · have htokens : dataTokens line text = [⟨line, .data text⟩] := if_neg htext
    have hstatements : textStatements text = [.text text] := if_neg htext
    intro n l b hn
    rw [htokens, List.length_append, List.length_singleton] at hn
    obtain ⟨m, rfl⟩ : ∃ m, n = m + 1 := ⟨n - 1, by omega⟩
    rw [htokens, hstatements]
    exact ⟨m, line, b, by omega, readBody_data text hrest⟩

/-- A placeholder is read as its print. -/
theorem readsThrough_placeholder (hrest : IsSettled rest) (line : Nat) (p : Placeholder) :
    ReadsThrough awaited opened closers (p.tokens line) [.print (p.expr line)] rest := by
  intro n l b hn
  rw [List.length_append, Placeholder.length_tokens] at hn
  obtain ⟨m, rfl⟩ : ∃ m, n = m + 1 := ⟨n - 1, by omega⟩
  exact ⟨m, line, line, by omega, readBody_placeholder p hrest (by omega)⟩

/-- Placeholders and the stretches after them are read as their statements. -/
theorem readsThrough_partTokens (hrest : IsSettled rest) (newlines : Nat)
    (parts : List (Placeholder × List Char)) :
    ReadsThrough awaited opened closers (partTokens newlines parts)
      (partStatements newlines parts) rest := by
  induction parts with
  | nil => exact readsThrough_nil
  | cons part more ih =>
    obtain ⟨p, text⟩ := part
    have hsettled := isSettled_partTokens newlines more hrest
    have htext := (readsThrough_dataTokens hsettled
      (lineOf newlines (text ++ unifiedParts more)) text).append ih
    refine (readsThrough_placeholder ?_ _ p).append htext
    rw [List.append_assoc]
    exact isSettled_dataTokens hsettled _ text

/-- A layout is read as its statements. -/
theorem readsThrough_tokens (hrest : IsSettled rest) (newlines : Nat) (layout : Layout) :
    ReadsThrough awaited opened closers (layout.tokens newlines) (layout.statementsFrom newlines)
      rest :=
  (readsThrough_dataTokens (isSettled_partTokens newlines layout.parts hrest) _ _).append
    (readsThrough_partTokens hrest newlines layout.parts)

end Reads

/-- What is read as the body of a template without anything left is its reading. -/
theorem readTemplate_of_reads {text : List Char} (hsettled : IsSettled (Token.scan text))
    (h : Reads [] [] [] (Token.scan text) body []) : readTemplate text = .ok body := by
  obtain ⟨d, -, hd⟩ := h (32 * ((Token.scan text).length + 2)) 1 1 (by omega)
  rw [readTemplate]
  dsimp only
  rw [settle_of_isSettled hsettled]
  change (readBody _ [] [] [] _ >>= fun result ↦ pure result.1) = _
  rw [hd]
  rfl

/-- A layout is read as its statements. -/
theorem readTemplate_unified {layout : Layout} (h : layout.isTagFree) :
    readTemplate layout.unified = .ok layout.statements := by
  have hreads : Reads [] [] [] (Token.scan layout.unified) layout.statements [] := by
    have htokens := (readsThrough_tokens isSettled_nil (newlineCount layout.unified) layout).reads
      (reads_nil : Reads [] [] [] [] [] [])
    rwa [List.append_nil, List.append_nil, ← scan_unified h] at htokens
  have hsettled := isSettled_tokens (newlineCount layout.unified) layout isSettled_nil
  rw [List.append_nil, ← scan_unified h] at hsettled
  exact readTemplate_of_reads hsettled hreads

end Scriptorium.Template
