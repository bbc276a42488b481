import Scriptorium.Proofs.Passage.Check

/-!
# Rendering passages

What a passage says with arguments. Nothing in it changes a cell, so where the cells hold the
arguments each run is filled in as if it stood alone, and a branch renders the body that its name
selects (`render_branch`). The text of a passage is that of the lines that are kept
(`renderBody_parses`). No argument is missed but those that a line that is kept prints.
-/

set_option autoImplicit false
set_option relaxedAutoImplicit false

namespace Scriptorium.Template

variable {scope : Scope} {m : Memory} {p : Passage} {tokens : List Token}
  {statements : List Statement}

/-! ### Bodies -/

/-- Statements after some that render something. -/
theorem renderBody_append_of_ok {first second : List Statement} {rendering : Rendering}
    {after : Memory} (h : renderBody scope first m = .ok (rendering, after)) :
    renderBody scope (first ++ second) m =
      (renderBody scope second after).map fun rendered ↦
        (rendering.append rendered.1, rendered.2) := by
  induction first generalizing m rendering with
  | nil =>
    obtain ⟨rfl, rfl⟩ := Prod.mk.inj (Except.ok.inj h)
    rw [List.nil_append]
    cases renderBody scope second m with
    | error failure => rfl
    | ok rendered =>
      obtain ⟨text, last⟩ := rendered
      cases text <;> rfl
  | cons s rest ih =>
    cases hs : s.render scope m with
    | error failure =>
      rw [renderBody, bind_of_error hs] at h
      cases h
    | ok rendered =>
      obtain ⟨own, between⟩ := rendered
      rw [renderBody_cons_of_ok hs] at h
      rw [List.cons_append, renderBody_cons_of_ok hs]
      cases hrest : renderBody scope rest between with
      | error failure =>
        rw [hrest] at h
        cases h
      | ok others =>
        obtain ⟨text, last⟩ := others
        rw [hrest] at h
        obtain ⟨rfl, rfl⟩ := Prod.mk.inj (Except.ok.inj h)
        rw [ih hrest]
        cases renderBody scope second last with
        | error failure => rfl
        | ok rendered =>
          obtain ⟨behind, final⟩ := rendered
          cases own <;> cases text <;> cases behind <;>
            simp [Except.map, Rendering.append]

/-- A branch on a name whose argument is in its cell renders its first body if the argument is given
and is not empty, and its second body otherwise. -/
theorem render_branch {line : Nat} {name : String} {inner other : List Statement}
    (hload : m.load? (scope.cell name) = scope.argument? name) :
    (Statement.branch [(.name line name, inner)] other).render scope m =
      renderBody scope
        (if (scope.arguments.lookup name).any (· != "") then inner else other) m := by
  have hvalue : (Expr.name line name).eval scope [] m = _ := eval_name hload
  have htrue : (((scope.arguments.lookup name).map fun value ↦ Item.text value.toList).getD
      (.absent true (.argument name))).isTrue = (scope.arguments.lookup name).any (· != "") := by
    cases scope.arguments.lookup name with
    | none => rfl
    | some value =>
      show (!value.toList.isEmpty) = (value != "")
      rw [Bool.eq_iff_iff, Bool.not_eq_true', List.isEmpty_eq_false_iff, bne_iff_ne, ne_eq, ne_eq,
        String.toList_eq_nil_iff]
  have hcases : renderCases scope [(.name line name, inner)] m =
      if (scope.arguments.lookup name).any (· != "") then
        (some <$> renderBody scope inner) m else .ok (none, m) := by
    rw [renderCases, bind_of_ok hvalue, htrue]
    split <;> rfl
  rw [Statement.render]
  by_cases htaken : (scope.arguments.lookup name).any (· != "")
  · rw [if_pos htaken] at hcases ⊢
    cases hinner : renderBody scope inner m with
    | error failure => exact bind_of_error (hcases.trans (map_of_error hinner))
    | ok rendered => exact bind_of_ok (hcases.trans (map_of_ok hinner))
  · rw [if_neg htaken] at hcases ⊢
    exact bind_of_ok hcases

/-! ### Runs -/

/-- The names of a run are those of the placeholders in its lines. -/
theorem mem_partNames_runLayout {run : List TextLine} {name : String} :
    name ∈ partNames (runLayout run).parts ↔
      ∃ line ∈ run, ∃ p, .placeholder p ∈ line.segments ∧ p.name = name := by
  rw [runLayout, mem_partNames_ofSegments]
  simp only [placeholder_mem_pieces]
  constructor
  · rintro ⟨p, ⟨line, hline, hp⟩, hname⟩
    exact ⟨line, hline, p, hp, hname⟩
  · rintro ⟨line, hline, p, hp, hname⟩
    exact ⟨p, ⟨line, hline, hp⟩, hname⟩

/-- A run is filled in line by line if all its names are given. -/
theorem fill_runLayout {a : Scriptorium.Arguments} {run : List TextLine}
    (h : ∀ line ∈ run, ∀ p, .placeholder p ∈ line.segments → p.name ∈ a.names) :
    (runLayout run).fill a.entries = .ok (run.flatMap (TextLine.filled a)) := by
  have hnames : ∀ name ∈ partNames (runLayout run).parts, name ∈ entryNames a.entries := by
    intro name hname
    obtain ⟨line, hline, p, hp, rfl⟩ := mem_partNames_runLayout.mp hname
    exact h line hline p hp
  have hline : ∀ line : TextLine, line.pieces.flatMap (Segment.filled a) = line.filled a := by
    intro line
    rw [TextLine.pieces, List.flatMap_append, List.flatMap_singleton]
    rfl
  have hfilled : (runLayout run).lead ++ filledParts a.entries (runLayout run).parts =
      run.flatMap (TextLine.filled a) := by
    rw [runLayout, filled_ofSegments, List.flatMap_assoc]
    simp only [hline]
  rw [Layout.fill, fillPlaceholders_eq_ok hnames, ← hfilled]
  rfl

/-! ### Passages -/

/-- Statements render text and those after them more, and the memory stays. -/
theorem renderBody_append {first second : List Statement} {text others : List Char}
    (hfirst : renderBody scope first m = .ok (some text, m))
    (hsecond : renderBody scope second m = .ok (some others, m)) :
    renderBody scope (first ++ second) m = .ok (some (text ++ others), m) := by
  rw [renderBody_append_of_ok hfirst, hsecond]
  rfl

/-- A run renders its lines if the names in them are given. -/
theorem renderBody_run {a : Scriptorium.Arguments} (hscope : scope.arguments = a.entries)
    (newlines : Nat) {run : List TextLine}
    (hload : ∀ name ∈ partNames (runLayout run).parts,
      m.load? (scope.cell name) = scope.argument? name)
    (hgiven : ∀ line ∈ run, ∀ q, .placeholder q ∈ line.segments → q.name ∈ a.names) :
    renderBody scope ((runLayout run).statementsFrom newlines) m =
      .ok (some (run.flatMap (TextLine.filled a)), m) := by
  rw [renderBody_statementsFrom newlines fun part hpart ↦ hload _ (List.mem_map_of_mem hpart),
    hscope, fill_runLayout hgiven]
  rfl

/-- A branch renders the body that is taken. -/
theorem renderBody_branch {a : Scriptorium.Arguments} (hscope : scope.arguments = a.entries)
    (line : Nat) {name : ArgumentName} {inner other : List Statement} {text : List Char}
    (hload : m.load? (scope.cell name.text) = scope.argument? name.text)
    (hbody : renderBody scope (if isTaken a name then inner else other) m = .ok (some text, m)) :
    renderBody scope [.branch [(.name line name.text, inner)] other] m = .ok (some text, m) := by
  have hrender : (Statement.branch [(.name line name.text, inner)] other).render scope m =
      .ok (some text, m) := by
    rw [render_branch hload, hscope]
    exact hbody
  rw [renderBody_cons_of_ok hrender, renderBody]
  show Except.ok (some (text ++ []), m) = _
  rw [List.append_nil]

/-- A passage renders the lines that are kept if the names in them are given. -/
theorem renderBody_parses (h : p.Parses tokens statements) {a : Scriptorium.Arguments}
    (hscope : scope.arguments = a.entries)
    (hload : ∀ name ∈ p.names, m.load? (scope.cell name) = scope.argument? name)
    (hgiven : ∀ line ∈ p.kept a, ∀ q, .placeholder q ∈ line.segments → q.name ∈ a.names) :
    renderBody scope statements m =
      .ok (some ((p.kept a).flatMap (TextLine.filled a)), m) := by
  -- The names of lines that are left out need no argument: their bodies are not rendered.
  induction h with
  | text run newlines => exact renderBody_run hscope newlines hload hgiven
  | @guarded before newlines opening first name body inside inner hbody closing last rest behind
      after hrest ihbody ihrest =>
    simp only [Passage.names, List.mem_append, List.mem_cons] at hload
    simp only [Passage.kept, List.mem_append] at hgiven
    have hrun := renderBody_run hscope newlines (fun n hn ↦ hload n (Or.inl hn))
      fun line hline ↦ hgiven line (Or.inl hline)
    have hselected : renderBody scope (if isTaken a name then inner else []) m =
        .ok (some ((if isTaken a name then body.kept a else []).flatMap (TextLine.filled a)),
          m) := by
      cases htaken : isTaken a name with
      | true =>
        rw [htaken] at hgiven
        exact ihbody (fun n hn ↦ hload n (Or.inr (Or.inr (Or.inl hn))))
          fun line hline ↦ hgiven line (Or.inr (Or.inl hline))
      | false => rfl
    have hbranch :=
      renderBody_branch hscope first (hload name.text (Or.inr (Or.inl rfl))) hselected
    have hafter := ihrest (fun n hn ↦ hload n (Or.inr (Or.inr (Or.inr hn))))
      fun line hline ↦ hgiven line (Or.inr (Or.inr hline))
    have hwhole := renderBody_append hrun (renderBody_append hbranch hafter)
    simpa only [Passage.kept, List.flatMap_append, List.cons_append, List.nil_append] using hwhole
  | @either before newlines opening first name body inside inner hbody middle second otherwise
      beside other hotherwise closing last rest behind after hrest ihbody ihotherwise ihrest =>
    simp only [Passage.names, List.mem_append, List.mem_cons] at hload
    simp only [Passage.kept, List.mem_append] at hgiven
    have hrun := renderBody_run hscope newlines (fun n hn ↦ hload n (Or.inl hn))
      fun line hline ↦ hgiven line (Or.inl hline)
    have hselected : renderBody scope (if isTaken a name then inner else other) m =
        .ok (some ((if isTaken a name then body.kept a else otherwise.kept a).flatMap
          (TextLine.filled a)), m) := by
      cases htaken : isTaken a name with
      | true =>
        rw [htaken] at hgiven
        exact ihbody (fun n hn ↦ hload n (Or.inr (Or.inr (Or.inl hn))))
          fun line hline ↦ hgiven line (Or.inr (Or.inl hline))
      | false =>
        rw [htaken] at hgiven
        exact ihotherwise (fun n hn ↦ hload n (Or.inr (Or.inr (Or.inr (Or.inl hn)))))
          fun line hline ↦ hgiven line (Or.inr (Or.inl hline))
    have hbranch :=
      renderBody_branch hscope first (hload name.text (Or.inr (Or.inl rfl))) hselected
    have hafter := ihrest (fun n hn ↦ hload n (Or.inr (Or.inr (Or.inr (Or.inr hn)))))
      fun line hline ↦ hgiven line (Or.inr (Or.inr hline))
    have hwhole := renderBody_append hrun (renderBody_append hbranch hafter)
    simpa only [Passage.kept, List.flatMap_append, List.cons_append, List.nil_append] using hwhole

end Scriptorium.Template
