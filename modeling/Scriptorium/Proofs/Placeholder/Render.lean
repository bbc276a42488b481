import Scriptorium.Expansion
import Scriptorium.Proofs.Placeholder.Check

/-!
# Rendering placeholders

What a layout says with arguments. When its frame is entered, the cell of each name in it comes to
hold the argument of that name (`load?_fill`): the names are in ASCII, so that no two of them share
a cell. A print changes no cell, so the placeholders are filled in one after the other
(`Layout.fill`), up to the first without an argument. `expand_written` is what all of this comes to:
code of placeholders is refused if one of them has too many filters, and is filled in otherwise.
-/

set_option autoImplicit false
set_option relaxedAutoImplicit false

namespace Scriptorium.Template

open Text

/-! ### Cells -/

/-- A value that is set is found, and all others stay. -/
theorem lookup_assocSet {α β : Type} [BEq α] [LawfulBEq α] (key other : α) (value : β)
    (entries : List (α × β)) :
    (assocSet key value entries).lookup other =
      if other == key then some value else entries.lookup other := by
  induction entries with
  | nil =>
    rw [assocSet, List.lookup_cons, List.lookup_nil]
    cases other == key <;> rfl
  | cons entry rest ih =>
    obtain ⟨k, v⟩ := entry
    by_cases hkey : k = key
    · subst hkey
      rw [assocSet, if_pos (beq_self_eq_true k), List.lookup_cons, List.lookup_cons]
      cases other == k <;> rfl
    · rw [assocSet, if_neg (by rwa [beq_iff_eq]), List.lookup_cons, List.lookup_cons, ih]
      by_cases hother : other = k
      · subst hother
        simp [hkey]
      · rw [beq_eq_false_iff_ne.mpr hother]

/-- Plain names share no cell. -/
theorem ofName_inj {level : Nat} {name other : String} (hname : isPlainName name.toList)
    (hother : isPlainName other.toList) :
    Cell.ofName level name = Cell.ofName level other ↔ name = other := by
  have hcell : ∀ n : String, isPlainName n.toList → Cell.ofName level n = ⟨level, n.toList⟩ := by
    intro n hn
    rw [Cell.ofName, compatible_of_ascii fun c hc ↦ lt_of_isNameRest (isNameRest_of_mem hn hc)]
  rw [hcell name hname, hcell other hother, Cell.mk.injEq, String.toList_inj]
  exact ⟨fun h ↦ h.2, fun h ↦ ⟨rfl, h⟩⟩

variable {scope : Scope} {m : Memory}

/-- Where names come from the arguments, their cells hold what the arguments say, and all others
stay. -/
theorem lookup_fill {sources : List (String × Source)}
    (hplain : ∀ s ∈ sources, isPlainName s.1.toList)
    (hargument : ∀ s ∈ sources, s.2 = .argument) (level : Nat) {name : String}
    (hname : isPlainName name.toList) :
    (scope.fill level m sources).cells.lookup (Cell.ofName level name) =
      if sources.any (·.1 == name) then some (scope.argument? name)
      else m.cells.lookup (Cell.ofName level name) := by
  induction sources generalizing m with
  | nil => rfl
  | cons s rest ih =>
    obtain ⟨n, source⟩ := s
    obtain rfl : source = .argument := hargument _ List.mem_cons_self
    have hn : isPlainName n.toList := hplain _ List.mem_cons_self
    rw [Scope.fill, ih (fun s hs ↦ hplain s (List.mem_cons_of_mem _ hs))
      (fun s hs ↦ hargument s (List.mem_cons_of_mem _ hs))]
    by_cases hrest : rest.any (·.1 == name)
    · simp [hrest]
    · rw [if_neg hrest, Memory.store, lookup_assocSet]
      by_cases hsame : n = name
      · subst hsame
        simp
      · have hcell : Cell.ofName level name ≠ Cell.ofName level n := by
          rw [ne_eq, ofName_inj hname hn]
          exact Ne.symm hsame
        simp [hsame, hcell, hrest]

/-- The memory that entering a frame at the outermost level leaves has every argument in the cell of
its name. -/
theorem load?_fill {frame : Frame} (hplain : ∀ s ∈ frame.sources, isPlainName s.1.toList)
    (hargument : frame.IsOfArguments) (level : Nat) {name : String}
    (hname : isPlainName name.toList)
    (hhas : frame.has name) :
    (scope.fill level m frame.sources).load? (Cell.ofName level name) = scope.argument? name := by
  have hany : frame.sources.any (·.1 == name) = true := hhas
  rw [Memory.load?, lookup_fill hplain hargument level hname, if_pos hany, Option.join_some,
    Scope.argument?]
  cases scope.arguments.lookup name <;> rfl

/-! ### Expressions -/

variable {line : Nat} {e : Expr} {body : List Char}

/-- What a filter of placeholders makes of a text. -/
theorem applyFilter_text (f : CodeFilter) (text : List Char) :
    applyFilter f.name (.text text) [] [] = .ok (.text (f.apply text)) := by
  cases f <;> rfl

/-- A filter of placeholders needs a value. -/
theorem applyFilter_absent (f : CodeFilter) (cause : Absence) :
    applyFilter f.name (.absent true cause) [] [] = .error (.absent cause) := by
  cases f <;> rfl

/-- What a filter of placeholders comes to after the expression inside it. -/
theorem eval_filter (f : CodeFilter) {item : Item} (h : e.eval scope body m = .ok (item, m)) :
    (Expr.filter line e f.name .empty).eval scope body m =
      (applyFilter f.name item [] []).map fun result ↦ (result, m) := by
  have harguments : Arguments.empty.eval scope body m = .ok (([], []), m) := rfl
  rw [Expr.eval, bind_of_ok h, bind_of_ok harguments]
  exact liftM_eq (applyFilter f.name item [] []) m

/-- Filters go over a text one after the other. -/
theorem eval_filterExpr_text {text : List Char} (h : e.eval scope body m = .ok (.text text, m))
    (filters : List CodeFilter) :
    (filterExpr line filters e).eval scope body m =
      .ok (.text (filters.foldl (fun t f ↦ f.apply t) text), m) := by
  induction filters generalizing e text with
  | nil => exact h
  | cons f rest ih =>
    refine ih ?_
    rw [eval_filter f h, applyFilter_text]
    rfl

/-- Filters around what fails fail. -/
theorem eval_filterExpr_error {failure : Failure} (h : e.eval scope body m = .error failure)
    (filters : List CodeFilter) :
    (filterExpr line filters e).eval scope body m = .error failure := by
  induction filters generalizing e with
  | nil => exact h
  | cons f rest ih =>
    refine ih ?_
    rw [Expr.eval]
    exact bind_of_error h

/-! ### Layouts -/

/-- Placeholders with their arguments in their places, and the stretches after them. The first
without an argument is absent. -/
def fillPlaceholders (arguments : List (String × String)) :
    List (Placeholder × List Char) → Outcome (List Char)
  | [] => .ok []
  | (p, text) :: rest =>
    match arguments.lookup p.name with
    | none => .error (.absent (.argument p.name))
    | some value => (fillPlaceholders arguments rest).map fun filled ↦
        p.filtered value.toList ++ (text ++ filled)

/-- A layout with arguments in the places of its placeholders. -/
def Layout.fill (arguments : List (String × String)) (layout : Layout) : Outcome (List Char) :=
  (fillPlaceholders arguments layout.parts).map (layout.lead ++ ·)

/-- What a name comes to where its argument is in its cell. -/
theorem eval_name {name : String} (hload : m.load? (scope.cell name) = scope.argument? name) :
    (Expr.name line name).eval scope [] m =
      .ok (((scope.arguments.lookup name).map fun value ↦ Item.text value.toList).getD
        (.absent true (.argument name)), m) := by
  have hargument : ((scope.arguments.lookup name).map fun value ↦ Item.text value.toList) =
      m.load? (scope.cell name) := hload.symm
  rw [hargument, Expr.eval]
  rfl

/-- What the print of a placeholder renders. -/
theorem render_print {p : Placeholder}
    (hload : m.load? (scope.cell p.name) = scope.argument? p.name) :
    (Statement.print (p.expr line)).render scope m =
      match scope.arguments.lookup p.name with
      | none => .error (.absent (.argument p.name))
      | some value => .ok (some (p.filtered value.toList), m) := by
  have hvalue : (Expr.name line p.name).eval scope [] m = _ := eval_name hload
  rw [Statement.render, Placeholder.expr]
  cases hlookup : scope.arguments.lookup p.name with
  | some value =>
    rw [hlookup] at hvalue
    rw [bind_of_ok (eval_filterExpr_text hvalue p.filters)]
    rfl
  | none =>
    rw [hlookup] at hvalue
    cases p.filters with
    | nil => exact bind_of_ok hvalue
    | cons f rest =>
      have hfirst : (Expr.filter line (.name line p.name) f.name .empty).eval scope [] m =
          .error (.absent (.argument p.name)) :=
        (eval_filter f hvalue).trans (congrArg _ (applyFilter_absent f (.argument p.name)))
      exact bind_of_error (eval_filterExpr_error hfirst rest)

/-- A body whose first statement renders something. -/
theorem renderBody_cons_of_ok {s : Statement} {rest : List Statement} {first : Rendering}
    {after : Memory}
    (h : s.render scope m = .ok (first, after)) :
    renderBody scope (s :: rest) m =
      (renderBody scope rest after).map fun rendered ↦ (first.append rendered.1, rendered.2) := by
  rw [renderBody, bind_of_ok h]
  cases hrest : renderBody scope rest after with
  | ok rendered => exact bind_of_ok hrest
  | error failure => exact bind_of_error hrest

/-- What a stretch of text and the statements behind it render. -/
theorem renderBody_textStatements (text : List Char) (rest : List Statement) :
    renderBody scope (textStatements text ++ rest) m =
      (renderBody scope rest m).map fun rendered ↦
        (Rendering.append (some text) rendered.1, rendered.2) := by
  unfold textStatements
  split
  · rename_i hempty
    obtain rfl : text = [] := List.isEmpty_iff.mp hempty
    rw [List.nil_append]
    cases renderBody scope rest m with
    | error failure => rfl
    | ok rendered =>
      obtain ⟨rendering, after⟩ := rendered
      cases rendering <;> rfl
  · have htext : (Statement.text text).render scope m = .ok (some text, m) := by
      rw [Statement.render]
      rfl
    exact renderBody_cons_of_ok htext

/-- What placeholders and the stretches after them render. -/
theorem renderBody_partStatements (newlines : Nat) {parts : List (Placeholder × List Char)}
    (hload : ∀ part ∈ parts, m.load? (scope.cell part.1.name) = scope.argument? part.1.name) :
    renderBody scope (partStatements newlines parts) m =
      (fillPlaceholders scope.arguments parts).map fun filled ↦ (some filled, m) := by
  induction parts with
  | nil => rfl
  | cons part rest ih =>
    obtain ⟨p, text⟩ := part
    have hown : m.load? (scope.cell p.name) = scope.argument? p.name := hload _ List.mem_cons_self
    have hothers := ih fun part hpart ↦ hload part (List.mem_cons_of_mem _ hpart)
    have hprint :
        (Statement.print (p.expr (lineOf newlines (text ++ unifiedParts rest)))).render scope m =
          _ :=
      render_print hown
    rw [partStatements, fillPlaceholders]
    cases hlookup : scope.arguments.lookup p.name with
    | none =>
      rw [hlookup] at hprint
      rw [renderBody]
      exact bind_of_error hprint
    | some value =>
      rw [hlookup] at hprint
      rw [renderBody_cons_of_ok hprint, renderBody_textStatements, hothers]
      cases fillPlaceholders scope.arguments rest <;> rfl

/-- What a layout renders where every name of its placeholders has its argument in its cell. -/
theorem renderBody_statementsFrom (newlines : Nat) {layout : Layout}
    (hload : ∀ part ∈ layout.parts,
      m.load? (scope.cell part.1.name) = scope.argument? part.1.name) :
    renderBody scope (layout.statementsFrom newlines) m =
      (layout.fill scope.arguments).map fun filled ↦ (some filled, m) := by
  rw [Layout.statementsFrom, renderBody_textStatements, renderBody_partStatements _ hload,
    Layout.fill]
  cases fillPlaceholders scope.arguments layout.parts <;> rfl

/-- Where a frame at the outermost level takes plain names from the arguments, a template renders
what its body renders with every argument in the cell of its name. -/
theorem renderChecked_of_isOfArguments {body : List Statement}
    (hplain : ∀ name, (Frame.ofTemplate body).has name → isPlainName name.toList)
    (hargument : (Frame.ofTemplate body).IsOfArguments) (arguments : List (String × String)) :
    ∃ m : Memory,
      (∀ name, (Frame.ofTemplate body).has name →
        m.load? (Scope.cell ⟨arguments, [Frame.ofTemplate body]⟩ name) =
          Scope.argument? ⟨arguments, [Frame.ofTemplate body]⟩ name) ∧
      renderChecked arguments body .empty =
        renderBody ⟨arguments, [Frame.ofTemplate body]⟩ body m := by
  let start : Memory := Memory.empty.store (Cell.ofName 0 "self") (some .template)
  let outside : Scope := ⟨arguments, []⟩
  have hsources : ∀ s ∈ (Frame.ofTemplate body).sources, isPlainName s.1.toList :=
    fun s hs ↦ hplain s.1 (List.any_eq_true.mpr ⟨s, hs, beq_self_eq_true s.1⟩)
  refine ⟨outside.fill 0 start (Frame.ofTemplate body).sources, ?_, rfl⟩
  intro name hname
  have hcell : Scope.cell ⟨arguments, [Frame.ofTemplate body]⟩ name = Cell.ofName 0 name := by
    rw [Scope.cell, Frame.levelOf?, if_pos hname]
    rfl
  rw [hcell, load?_fill hsources hargument 0 (hplain name hname) hname]
  rfl

/-- What a layout renders. -/
theorem renderChecked_statementsFrom (arguments : List (String × String)) (newlines : Nat)
    (layout : Layout) :
    ∃ m, renderChecked arguments (layout.statementsFrom newlines) .empty =
      (layout.fill arguments).map fun filled ↦ (some filled, m) := by
  have hframe := ofTemplate_statementsFrom newlines layout
  have hhas : ∀ name, (Frame.ofTemplate (layout.statementsFrom newlines)).has name ↔
      name ∈ partNames layout.parts := by
    intro name
    rw [hframe, Frame.has_readAll, ← List.contains_iff_mem]
    exact Iff.rfl
  have hargument : (Frame.ofTemplate (layout.statementsFrom newlines)).IsOfArguments := by
    rw [hframe]
    exact Frame.isOfArguments_readAll Frame.isOfArguments_empty _
  obtain ⟨m, hload, hrender⟩ := renderChecked_of_isOfArguments
    (fun name hname ↦ (isPlainName_of_mem_partNames ((hhas name).mp hname)).1) hargument arguments
  refine ⟨m, hrender.trans ?_⟩
  exact renderBody_statementsFrom newlines fun part hpart ↦
    hload part.1.name ((hhas _).mpr (List.mem_map_of_mem hpart))

/-- Code of placeholders is refused if one of them has too many filters, and is filled in otherwise.
Only code that has a placeholder gets its line ends unified. -/
theorem expand_written {layout : Layout} (h : layout.isTagFree)
    (arguments : List (String × String)) :
    expand layout.written arguments =
      if layout.parts.isEmpty then .ok layout.lead
      else if isTooHigh layout.parts then .error (.fault .recursion)
      else if isTooNested layout.parts then .error (.fault .malformedCode)
      else (layout.mapText unifyNewlines).fill arguments := by
  have hhigh : isTooHigh (layout.mapText unifyNewlines).parts = isTooHigh layout.parts :=
    List.any_map
  have hnested : isTooNested (layout.mapText unifyNewlines).parts = isTooNested layout.parts :=
    List.any_map
  rw [expand, unifyOpenings_written h, hasTag_unified h]
  cases hempty : layout.parts.isEmpty with
  | true =>
    rw [Bool.not_true, if_neg Bool.false_ne_true, if_pos rfl, Layout.unified,
      List.isEmpty_iff.mp hempty]
    exact congrArg _ (List.append_nil layout.lead)
  | false =>
    rw [Bool.not_false, if_pos rfl, if_neg Bool.false_ne_true, renderTemplate,
      unifyNewlines_unified, readTemplate_unified (Layout.isTagFree_mapText_unifyNewlines h)]
    show (checkTemplate (layout.mapText unifyNewlines).statements >>= _) = _
    rw [checkTemplate_statements, hhigh, hnested]
    cases isTooHigh layout.parts with
    | true => rfl
    | false =>
      cases isTooNested layout.parts with
      | true => rfl
      | false =>
        obtain ⟨m, hm⟩ := renderChecked_statementsFrom arguments
          (newlineCount (layout.mapText unifyNewlines).unified) (layout.mapText unifyNewlines)
        show
          (renderChecked arguments ((layout.mapText unifyNewlines).statementsFrom _) .empty >>= _) =
          _
        rw [hm]
        cases (layout.mapText unifyNewlines).fill arguments <;> rfl

end Scriptorium.Template
