import Scriptorium.Proofs.Placeholder.Read
import Scriptorium.Template.Check

/-!
# Checks of placeholders

What `checkTemplate` says of a layout. The expression of a placeholder is not constant, so it stays
as it is, and its name is known because the frame of a template has every name that is read in it.
What can be wrong is its size alone: each filter adds one to its height and one to its brackets. So
the check comes to a count of filters (`checkTemplate_statementsFrom`), and what it accepts it
leaves as it is.
-/

set_option autoImplicit false
set_option relaxedAutoImplicit false

namespace Scriptorium.Template

open Text

/-! ### Measures of an expression with filters -/

variable {line : Nat} {e : Expr}

/-- Filters read no names. -/
theorem names_filterExpr (filters : List CodeFilter) :
    (filterExpr line filters e).names = e.names := by
  induction filters generalizing e with
  | nil => rfl
  | cons f rest ih =>
    refine ih.trans ?_
    show e.names ++ Arguments.empty.names = e.names
    exact List.append_nil e.names

/-- Each filter adds one to the height. -/
theorem height_filterExpr (filters : List CodeFilter) :
    (filterExpr line filters e).height = e.height + filters.length := by
  induction filters generalizing e with
  | nil => rfl
  | cons f rest ih =>
    have hfilter : (Expr.filter line e f.name .empty).height = e.height + 1 := by
      show max e.height 0 + 1 = e.height + 1
      rw [Nat.max_eq_left (Nat.zero_le _)]
    refine ih.trans ?_
    rw [hfilter, List.length_cons]
    omega

/-- Each filter adds one bracket. -/
theorem brackets_filterExpr (frames : List Frame) (filters : List CodeFilter) :
    (filterExpr line filters e).brackets frames = e.brackets frames + filters.length := by
  induction filters generalizing e with
  | nil => rfl
  | cons f rest ih =>
    have hfilter : (Expr.filter line e f.name .empty).brackets frames = e.brackets frames + 1 := by
      show max (e.brackets frames) 0 + 1 = e.brackets frames + 1
      rw [Nat.max_eq_left (Nat.zero_le _)]
    refine ih.trans ?_
    rw [hfilter, List.length_cons]
    omega

/-! ### Constants -/

/-- The filters of placeholders exist. -/
def CodeFilter.filter : CodeFilter → Filter
  | escapeDoubleQuotes => .escapeDoubleQuotes
  | inlinePowerShell => .inlinePowerShell

/-- A filter of placeholders is found under its name. -/
theorem CodeFilter.ofName?_name (f : CodeFilter) : Filter.ofName? f.name = some f.filter := by
  cases f <;> rfl

/-- No arguments are constant. -/
theorem constant_empty : Arguments.empty.constant = (pure ([], []) : Folding _) := rfl

/-- Filters around what is not constant are not constant. -/
theorem constant_filterExpr (h : e.constant = notConstant) (filters : List CodeFilter) :
    (filterExpr line filters e).constant = notConstant := by
  induction filters generalizing e with
  | nil => exact h
  | cons f rest ih =>
    refine ih ?_
    rw [Expr.constant, f.ofName?_name, constant_empty, h]
    rfl

/-- What is not constant stays. -/
theorem settled_of_constant (h : e.constant = notConstant) : e.settled = .ok e := by
  rw [Expr.settled, h]
  rfl

/-- Filters around what is not constant stay. -/
theorem fold_filterExpr (h : e.constant = notConstant) (hfold : e.fold = .ok e)
    (filters : List CodeFilter) :
    (filterExpr line filters e).fold = .ok (filterExpr line filters e) := by
  induction filters generalizing e with
  | nil => exact hfold
  | cons f rest ih =>
    have hconstant : (Expr.filter line e f.name .empty).constant = notConstant :=
      constant_filterExpr h [f]
    refine ih hconstant ?_
    rw [Expr.fold, hfold]
    exact settled_of_constant hconstant

/-! ### Frames -/

namespace Frame

/-- A frame whose names all get their values from the arguments. -/
def IsOfArguments (f : Frame) : Prop := ∀ s ∈ f.sources, s.2 = .argument

/-- A frame without names takes none from elsewhere. -/
theorem isOfArguments_empty : empty.IsOfArguments := by
  intro s hs
  cases hs

/-- A name that is not there is added at the end. -/
theorem setSource_of_not_has {f : Frame} {name : String} (h : f.has name = false)
    (source : Source) :
    setSource name source f.sources = f.sources ++ [(name, source)] := by
  have hnone : ∀ s ∈ f.sources, (s.1 == name) = false := by
    simpa [has] using h
  generalize f.sources = sources at hnone
  induction sources with
  | nil => rfl
  | cons s rest ih =>
    rw [setSource, if_neg (by rw [hnone s List.mem_cons_self]; decide),
      ih fun t ht ↦ hnone t (List.mem_cons_of_mem _ ht), List.cons_append]

/-- What a frame at the outermost level is after a name is read in it. -/
theorem read_nil (f : Frame) (name : String) :
    f.read [] name =
      if f.has name then f else { f with sources := f.sources ++ [(name, .argument)] } := by
  cases h : f.has name with
  | true => simp [read, levelOf?, h]
  | false => simp [read, levelOf?, h, setSource_of_not_has h]

/-- Reading names, a frame at the outermost level comes to have them. -/
theorem has_readAll (f : Frame) (names : List String) (n : String) :
    (f.readAll [] names).has n = (f.has n || names.contains n) := by
  induction names generalizing f with
  | nil => simp [readAll]
  | cons name rest ih =>
    have hread : (f.read [] name).has n = (f.has n || n == name) := by
      rw [read_nil]
      by_cases hname : f.has name
      · rw [if_pos hname]
        by_cases heq : n = name
        · subst heq
          simp [hname]
        · simp [heq]
      · rw [if_neg hname, BEq.comm]
        simp [has]
    show ((f.read [] name).readAll [] rest).has n = _
    rw [ih, hread, List.contains_cons, Bool.or_assoc]

/-- Reading names, a frame at the outermost level takes them from the arguments. -/
theorem isOfArguments_readAll {f : Frame} (h : f.IsOfArguments) (names : List String) :
    (f.readAll [] names).IsOfArguments := by
  induction names generalizing f with
  | nil => exact h
  | cons name rest ih =>
    refine ih (f := f.read [] name) ?_
    rw [read_nil]
    by_cases hname : f.has name
    · rwa [if_pos hname]
    · rw [if_neg hname]
      intro s hs
      rcases List.mem_append.mp hs with hold | hnew
      · exact h s hold
      · rw [List.mem_singleton.mp hnew]

/-- What comes from the arguments is no parameter. -/
theorem isParameter_of_isOfArguments {f : Frame} (h : f.IsOfArguments) (name : String) :
    isParameter name [f] = false := by
  rw [isParameter]
  split
  · rename_i source hlookup
    obtain ⟨before, after, hsources, -⟩ := List.lookup_eq_some_iff.mp hlookup
    have hmem : (name, source) ∈ f.sources := by
      rw [hsources]
      exact List.mem_append_right _ List.mem_cons_self
    obtain rfl : source = .argument := h _ hmem
    rfl
  · rfl

end Frame

/-- The names of placeholders. -/
def partNames (parts : List (Placeholder × List Char)) : List String := parts.map (·.1.name)

/-- A stretch of text uses no names. -/
theorem usesOfBody_textStatements (text : List Char) (rest : List Statement) :
    usesOfBody (textStatements text ++ rest) = usesOfBody rest := by
  unfold textStatements
  split <;> rfl

/-- A stretch of text adds no names to a frame. -/
theorem addBody_textStatements (f : Frame) (text : List Char) (rest : List Statement) :
    Frame.addBody [] f (textStatements text ++ rest) = Frame.addBody [] f rest := by
  unfold textStatements
  split <;> rfl

/-- Placeholders use their names. -/
theorem usesOfBody_partStatements (newlines : Nat) (parts : List (Placeholder × List Char)) :
    usesOfBody (partStatements newlines parts) = readsOf (partNames parts) := by
  induction parts with
  | nil => rfl
  | cons part rest ih =>
    have hnames : (part.1.expr (lineOf newlines (part.2 ++ unifiedParts rest))).names =
        [part.1.name] :=
      names_filterExpr part.1.filters
    show readsOf (part.1.expr _).names ++
      usesOfBody (textStatements part.2 ++ partStatements newlines rest) = _
    rw [hnames, usesOfBody_textStatements, ih]
    rfl

/-- Placeholders add their names to a frame. -/
theorem addBody_partStatements (f : Frame) (newlines : Nat)
    (parts : List (Placeholder × List Char)) :
    Frame.addBody [] f (partStatements newlines parts) = f.readAll [] (partNames parts) := by
  induction parts generalizing f with
  | nil => rfl
  | cons part rest ih =>
    have hnames : (part.1.expr (lineOf newlines (part.2 ++ unifiedParts rest))).names =
        [part.1.name] :=
      names_filterExpr part.1.filters
    show Frame.addBody [] (f.readAll [] (part.1.expr _).names)
      (textStatements part.2 ++ partStatements newlines rest) = _
    rw [hnames, addBody_textStatements, ih]
    rfl

/-- A layout uses the names of its placeholders. -/
theorem usesOfBody_statementsFrom (newlines : Nat) (layout : Layout) :
    usesOfBody (layout.statementsFrom newlines) = readsOf (partNames layout.parts) := by
  rw [Layout.statementsFrom, usesOfBody_textStatements, usesOfBody_partStatements]

/-- A layout adds the names of its placeholders to a frame. -/
theorem addBody_statementsFrom (f : Frame) (newlines : Nat) (layout : Layout) :
    Frame.addBody [] f (layout.statementsFrom newlines) =
      f.readAll [] (partNames layout.parts) := by
  rw [Layout.statementsFrom, addBody_textStatements, addBody_partStatements]

/-- What is only read is read first if it is read. -/
theorem readsFirst_readsOf (name : String) (names : List String) :
    readsFirst name (readsOf names) = names.contains name := by
  induction names with
  | nil => rfl
  | cons n rest ih =>
    show (n == name || readsFirst name (readsOf rest)) = _
    rw [ih, List.contains_cons, BEq.comm]

/-- The frame of a template that reads names and does nothing else with any, if the word for the
template is not among them. -/
theorem ofTemplate_of_usesOfBody {body : List Statement} {names : List String}
    (huses : usesOfBody body = readsOf names) (hself : "self" ∉ names) :
    Frame.ofTemplate body = Frame.addBody [] .empty body := by
  rw [Frame.ofTemplate, huses, readsFirst_readsOf, if_neg (by simpa using hself)]

/-- The names of placeholders are plain and no words of the language. -/
theorem isPlainName_of_mem_partNames {parts : List (Placeholder × List Char)} {name : String}
    (h : name ∈ partNames parts) : isPlainName name.toList ∧ name ∉ reservedNames := by
  obtain ⟨part, -, rfl⟩ := List.mem_map.mp h
  exact ⟨part.1.plain, part.1.unreserved⟩

/-- The frame of a layout has the names of its placeholders. -/
theorem ofTemplate_statementsFrom (newlines : Nat) (layout : Layout) :
    Frame.ofTemplate (layout.statementsFrom newlines) =
      Frame.empty.readAll [] (partNames layout.parts) := by
  have hself : "self" ∉ partNames layout.parts :=
    fun hmem ↦ (isPlainName_of_mem_partNames hmem).2 (by decide)
  rw [ofTemplate_of_usesOfBody (usesOfBody_statementsFrom newlines layout) hself,
    addBody_statementsFrom]

/-! ### Whether a placeholder is accepted -/

variable {place : Place} {notes : Notes}

/-- Filters are accepted around what is accepted. -/
theorem check_filterExpr (h : e.check place notes = .ok (e, notes)) (filters : List CodeFilter) :
    (filterExpr line filters e).check place notes = .ok (filterExpr line filters e, notes) := by
  induction filters generalizing e with
  | nil => exact h
  | cons f rest ih =>
    refine ih ?_
    have harguments : Arguments.empty.check place [] notes = .ok (.empty, notes) := rfl
    rw [Expr.check, f.ofName?_name]
    show (e.check place >>= fun i ↦ Arguments.empty.check place [] >>= fun a ↦
      pure (Expr.filter line i f.name a)) notes = _
    rw [bind_of_ok h, bind_of_ok harguments]
    rfl

/-- Notes with code that is malformed, unless there is a flaw already. -/
def Notes.flawed (notes : Notes) : Notes :=
  if notes.flaw.isNone then { notes with flaw := some .malformedCode } else notes

/-- That code is malformed is noted. -/
theorem noteFlaw_malformedCode (notes : Notes) :
    noteFlaw .malformedCode notes = .ok ((), notes.flawed) := by
  obtain ⟨extended, flaw⟩ := notes
  cases flaw <;> rfl

/-- Noting a flaw again changes nothing. -/
theorem Notes.flawed_flawed (notes : Notes) : notes.flawed.flawed = notes.flawed := by
  obtain ⟨extended, flaw⟩ := notes
  cases flaw <;> rfl

/-- An expression with filters is a name or a filter. -/
theorem Placeholder.expr_eq {line : Nat} (p : Placeholder) :
    p.expr line = .name line p.name ∨
      ∃ input name, p.expr line = .filter line input name .empty := by
  have hcases : ∀ (filters : List CodeFilter) (e : Expr), filterExpr line filters e = e ∨
      ∃ input name, filterExpr line filters e = .filter line input name .empty := by
    intro filters
    induction filters with
    | nil => exact fun e ↦ Or.inl rfl
    | cons f rest ih =>
      intro e
      rcases ih (.filter line e f.name .empty) with hsame | hfilter
      · exact Or.inr ⟨e, f.name, hsame⟩
      · exact Or.inr hfilter
  exact hcases p.filters (.name line p.name)

/-- How the expression of a placeholder is made ready. -/
theorem prepare_expr (p : Placeholder) :
    (p.expr line).prepare place = (do
      if heightLimit < (p.expr line).height then throw (.fault .recursion)
      (← liftM (p.expr line).fold).check place) := by
  rcases p.expr_eq with hexpr | ⟨input, name, hexpr⟩
  all_goals
    rw [hexpr, Expr.prepare]
    all_goals
      intro _ heq
      cases heq

/-- The height of the expression of a placeholder. -/
theorem height_expr (p : Placeholder) : (p.expr line).height = p.filters.length + 1 := by
  rw [Placeholder.expr, height_filterExpr, Expr.height, Nat.add_comm]

/-- The expression of a placeholder with too many filters is refused. -/
theorem prepare_expr_of_lt {p : Placeholder} (hheight : heightLimit < p.filters.length + 1) :
    (p.expr line).prepare place notes = .error (.fault .recursion) := by
  rw [prepare_expr, if_pos (by rwa [height_expr])]
  rfl

/-- The expression of a placeholder is accepted if its name is known and its height is within the
limit. -/
theorem prepare_expr_of_le {p : Placeholder} (hname : (Frame.levelOf? p.name place.frames).isSome)
    (hheight : p.filters.length + 1 ≤ heightLimit) :
    (p.expr line).prepare place notes = .ok (p.expr line, notes) := by
  have hcheck : (p.expr line).check place notes = .ok (p.expr line, notes) := by
    refine check_filterExpr ?_ p.filters
    rw [Expr.check, Option.isNone_eq_false_iff.mpr hname]
    rfl
  have hfold : (p.expr line).fold = .ok (p.expr line) := fold_filterExpr rfl rfl p.filters
  rw [prepare_expr, if_neg (by rw [height_expr]; omega), hfold]
  exact hcheck

/-- How the expression of a placeholder comes to be ready inside the brackets of a print. An
expression that is too high is refused, and for one with too many brackets a flaw is noted: one of
them is around the whole and two are around a name that is no parameter. -/
theorem ready_expr {p : Placeholder} (hname : (Frame.levelOf? p.name place.frames).isSome)
    (hparameter : Frame.isParameter p.name place.frames = false) :
    (p.expr line).ready place 1 notes =
      if heightLimit < p.filters.length + 1 then .error (.fault .recursion)
      else .ok (p.expr line,
        if bracketLimit < p.filters.length + 3 then notes.flawed else notes) := by
  have hbrackets : 1 + (p.expr line).brackets place.frames = p.filters.length + 3 := by
    have hown : (Expr.name line p.name).brackets place.frames = 2 := by
      rw [Expr.brackets, hparameter]
      rfl
    rw [Placeholder.expr, brackets_filterExpr, hown]
    omega
  rw [Expr.ready]
  by_cases hheight : heightLimit < p.filters.length + 1
  · rw [if_pos hheight, bind_of_error (prepare_expr_of_lt hheight)]
  · rw [if_neg hheight, bind_of_ok (prepare_expr_of_le hname (Nat.le_of_not_lt hheight)), hbrackets]
    by_cases hflaw : bracketLimit < p.filters.length + 3
    · rw [if_pos hflaw, if_pos hflaw, bind_of_ok (noteFlaw_malformedCode notes)]
      rfl
    · rw [if_neg hflaw, if_neg hflaw]
      rfl

/-- What the print of a placeholder comes to. -/
theorem check_print {p : Placeholder} (hguarded : place.guarded = false)
    (hname : (Frame.levelOf? p.name place.frames).isSome)
    (hparameter : Frame.isParameter p.name place.frames = false) :
    (Statement.print (p.expr line)).check place notes =
      if heightLimit < p.filters.length + 1 then .error (.fault .recursion)
      else .ok ([.print (p.expr line)],
        if bracketLimit < p.filters.length + 3 then notes.flawed else notes) := by
  have hconstant : (p.expr line).constant = notConstant := constant_filterExpr rfl p.filters
  have htext : (p.expr line).constantText? = none := by
    rw [Expr.constantText?, hconstant]
    rfl
  have hready : (p.expr line).ready place 1 notes = _ := ready_expr hname hparameter
  rw [Statement.check, hguarded]
  show ((checkPrinted place (p.expr line)) >>= fun s ↦ pure [s]) notes = _
  rw [checkPrinted, htext]
  by_cases hheight : heightLimit < p.filters.length + 1
  · rw [if_pos hheight] at hready ⊢
    exact bind_of_error (map_of_error hready)
  · rw [if_neg hheight] at hready ⊢
    exact bind_of_ok (map_of_ok hready)

/-! ### Whether a layout is accepted -/

/-- Whether some placeholder has so many filters that its expression is too high. -/
def isTooHigh (parts : List (Placeholder × List Char)) : Bool :=
  parts.any fun part ↦ heightLimit < part.1.filters.length + 1

/-- Whether some placeholder has so many filters that its expression has too many brackets. -/
def isTooNested (parts : List (Placeholder × List Char)) : Bool :=
  parts.any fun part ↦ bracketLimit < part.1.filters.length + 3

/-- A body of which the first statement is accepted and does not end what counts. -/
theorem checkBody_cons_of_ok {s : Statement} {rest ready : List Statement} {after : Notes}
    (hextended : (notes.extended && s.isExtension) = false)
    (h : s.check place notes = .ok (ready, after)) :
    checkBody place (s :: rest) notes =
      (checkBody place rest after).map fun checked ↦ (ready ++ checked.1, checked.2) := by
  rw [checkBody]
  show (s.check place >>= fun first ↦ if notes.extended && s.isExtension then pure first
    else checkBody place rest >>= fun others ↦ pure (first ++ others)) notes = _
  rw [bind_of_ok h, hextended]
  cases hrest : checkBody place rest after with
  | ok checked => exact bind_of_ok hrest
  | error failure => exact bind_of_error hrest

/-- A body of which the first statement is refused. -/
theorem checkBody_cons_of_error {s : Statement} {rest : List Statement} {failure : Failure}
    (h : s.check place notes = .error failure) :
    checkBody place (s :: rest) notes = .error failure := by
  rw [checkBody]
  show (s.check place >>= fun first ↦ if notes.extended && s.isExtension then pure first
    else checkBody place rest >>= fun others ↦ pure (first ++ others)) notes = _
  exact bind_of_error h

/-- A stretch of text is accepted as it is. -/
theorem checkBody_textStatements (hguarded : place.guarded = false) (text : List Char)
    (rest : List Statement) :
    checkBody place (textStatements text ++ rest) notes =
      (checkBody place rest notes).map fun checked ↦
        (textStatements text ++ checked.1, checked.2) := by
  have htext : (Statement.text text).check place notes = .ok ([.text text], notes) := by
    rw [Statement.check, hguarded]
    rfl
  unfold textStatements
  split
  · cases hrest : checkBody place rest notes <;> exact hrest
  · exact checkBody_cons_of_ok (Bool.and_false _) htext

/-- What placeholders and the stretches after them come to. -/
theorem checkBody_partStatements (hguarded : place.guarded = false) (newlines : Nat)
    {parts : List (Placeholder × List Char)}
    (hnames : ∀ name ∈ partNames parts, (Frame.levelOf? name place.frames).isSome)
    (hparameters : ∀ name, Frame.isParameter name place.frames = false) :
    checkBody place (partStatements newlines parts) notes =
      if isTooHigh parts then .error (.fault .recursion)
      else .ok (partStatements newlines parts,
        if isTooNested parts then notes.flawed else notes) := by
  induction parts generalizing notes with
  | nil => rfl
  | cons part rest ih =>
    obtain ⟨p, text⟩ := part
    have hown : (Frame.levelOf? p.name place.frames).isSome := hnames p.name List.mem_cons_self
    have hothers : ∀ name ∈ partNames rest, (Frame.levelOf? name place.frames).isSome :=
      fun name hname ↦ hnames name (List.mem_cons_of_mem _ hname)
    have hprint :
        (Statement.print (p.expr (lineOf newlines (text ++ unifiedParts rest)))).check place notes =
          _ :=
      check_print hguarded hown (hparameters p.name)
    have hhigh : isTooHigh ((p, text) :: rest) =
        (decide (heightLimit < p.filters.length + 1) || isTooHigh rest) :=
      rfl
    have hnested : isTooNested ((p, text) :: rest) =
        (decide (bracketLimit < p.filters.length + 3) || isTooNested rest) := rfl
    rw [partStatements, hhigh, hnested]
    by_cases hheight : heightLimit < p.filters.length + 1
    · rw [if_pos hheight] at hprint
      rw [checkBody_cons_of_error hprint, decide_eq_true hheight, Bool.true_or, if_pos rfl]
    · rw [if_neg hheight] at hprint
      rw [checkBody_cons_of_ok (Bool.and_false _) hprint, decide_eq_false hheight, Bool.false_or]
      by_cases hflaw : bracketLimit < p.filters.length + 3
      · rw [if_pos hflaw, checkBody_textStatements hguarded,
          ih hothers, decide_eq_true hflaw, Bool.true_or,
          if_pos rfl,
          Notes.flawed_flawed, ite_self]
        cases isTooHigh rest <;> rfl
      · rw [if_neg hflaw, checkBody_textStatements hguarded, ih hothers,
          decide_eq_false hflaw, Bool.false_or]
        cases isTooHigh rest <;> rfl

/-- What a layout comes to. -/
theorem checkBody_statementsFrom (hguarded : place.guarded = false) (newlines : Nat)
    {layout : Layout}
    (hnames : ∀ name ∈ partNames layout.parts, (Frame.levelOf? name place.frames).isSome)
    (hparameters : ∀ name, Frame.isParameter name place.frames = false) :
    checkBody place (layout.statementsFrom newlines) notes =
      if isTooHigh layout.parts then .error (.fault .recursion)
      else .ok (layout.statementsFrom newlines,
        if isTooNested layout.parts then notes.flawed else notes) := by
  rw [Layout.statementsFrom, checkBody_textStatements hguarded,
    checkBody_partStatements hguarded newlines hnames hparameters]
  cases isTooHigh layout.parts <;> rfl

/-- No statement of a layout extends another template. -/
theorem bodyExtends_statementsFrom (newlines : Nat) (layout : Layout) :
    bodyExtends (layout.statementsFrom newlines) = false := by
  have htext : ∀ (text : List Char) (rest : List Statement),
      bodyExtends (textStatements text ++ rest) = bodyExtends rest := by
    intro text rest
    unfold textStatements
    split <;> rfl
  have hparts : ∀ parts : List (Placeholder × List Char),
      bodyExtends (partStatements newlines parts) = false := by
    intro parts
    induction parts with
    | nil => rfl
    | cons part rest ih =>
      show bodyExtends (textStatements part.2 ++ partStatements newlines rest) = false
      rw [htext, ih]
  rw [Layout.statementsFrom, htext, hparts]

/-- What the check of a layout comes to. -/
theorem checkTemplate_statementsFrom (newlines : Nat) (layout : Layout) :
    checkTemplate (layout.statementsFrom newlines) =
      if isTooHigh layout.parts then .error (.fault .recursion)
      else if isTooNested layout.parts then .error (.fault .malformedCode)
      else .ok (layout.statementsFrom newlines) := by
  have hframe := ofTemplate_statementsFrom newlines layout
  have hnames : ∀ name ∈ partNames layout.parts,
      (Frame.levelOf? name [Frame.ofTemplate (layout.statementsFrom newlines)]).isSome := by
    intro name hname
    have hhas : (Frame.ofTemplate (layout.statementsFrom newlines)).has name = true := by
      rw [hframe, Frame.has_readAll, List.contains_iff_mem.mpr hname, Bool.or_true]
    rw [Frame.levelOf?, if_pos hhas]
    rfl
  have hparameters : ∀ name,
      Frame.isParameter name [Frame.ofTemplate (layout.statementsFrom newlines)] = false := by
    intro name
    rw [hframe]
    exact Frame.isParameter_of_isOfArguments
      (Frame.isOfArguments_readAll Frame.isOfArguments_empty _) name
  have hbody : checkBody ⟨[Frame.ofTemplate (layout.statementsFrom newlines)], false, true, true,
      false, false, 1, 0⟩ (layout.statementsFrom newlines) ⟨false, none⟩ = _ :=
    checkBody_statementsFrom rfl newlines hnames hparameters
  rw [checkTemplate, bodyExtends_statementsFrom]
  show (checkBody _ (layout.statementsFrom newlines) ⟨false, none⟩ >>= _) = _
  rw [hbody]
  cases isTooHigh layout.parts with
  | true => rfl
  | false => cases isTooNested layout.parts <;> rfl

theorem checkTemplate_statements (layout : Layout) :
    checkTemplate layout.statements =
      if isTooHigh layout.parts then .error (.fault .recursion)
      else if isTooNested layout.parts then .error (.fault .malformedCode)
      else .ok layout.statements :=
  checkTemplate_statementsFrom (newlineCount layout.unified) layout

end Scriptorium.Template
