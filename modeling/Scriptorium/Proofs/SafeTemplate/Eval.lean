import Scriptorium.Proofs.Placeholder.Render
import Scriptorium.Proofs.SafeTemplate

/-!
# Evaluation that cannot fault

An expression of a kind has a value of this kind, or it uses a value that is absent
(`HasKind.safe_eval`). First the operations: each relation, filter and test that a kind is given for
takes all values of the kinds that it is given for. Then the memory: while a template of such
expressions is rendered, the cells of its names hold texts, or nothing (`Memory.IsSound`).
-/

set_option autoImplicit false
set_option relaxedAutoImplicit false

namespace Scriptorium.Template

namespace ValueKind

variable {k : ValueKind} {v : Item}

/-- A text is of every kind. -/
@[simp] theorem holds_text (k : ValueKind) (s : List Char) : k.Holds (.text s) := by
  cases k <;> exact trivial

theorem eq_of_holds_filled (h : filled.Holds v) : ∃ s, v = .text s := by
  cases v with
  | text s => exact ⟨s, rfl⟩
  | _ => exact h.elim

theorem eq_of_holds_text (h : text.Holds v) :
    (∃ s, v = .text s) ∨ ∃ strict cause, v = .absent strict cause := by
  cases v with
  | text s => exact .inl ⟨s, rfl⟩
  | absent strict cause => exact .inr ⟨strict, cause, rfl⟩
  | _ => exact h.elim

theorem eq_of_holds_plain (h : plain.Holds v) :
    v = .none ∨ (∃ b, v = .bool b) ∨ (∃ s, v = .text s) ∨
      ∃ strict cause, v = .absent strict cause := by
  cases v with
  | none => exact .inl rfl
  | bool b => exact .inr (.inl ⟨b, rfl⟩)
  | text s => exact .inr (.inr (.inl ⟨s, rfl⟩))
  | absent strict cause => exact .inr (.inr (.inr ⟨strict, cause, rfl⟩))
  | _ => exact h.elim

theorem Holds.text_of_filled (h : filled.Holds v) : text.Holds v := by
  obtain ⟨s, rfl⟩ := eq_of_holds_filled h
  exact holds_text _ s

theorem Holds.plain_of_text (h : text.Holds v) : plain.Holds v := by
  rcases eq_of_holds_text h with ⟨s, rfl⟩ | ⟨strict, cause, rfl⟩ <;> exact trivial

theorem Holds.plain (h : k.Holds v) : ValueKind.plain.Holds v := by
  cases k with
  | filled => exact h.text_of_filled.plain_of_text
  | text => exact h.plain_of_text
  | plain => exact h

end ValueKind

/-! ### Operations -/

section Operations

variable {left right input v : Item}

/-- Every plain value has a text, or is absent. -/
theorem yields_textOf (h : ValueKind.plain.Holds v) : Yields (fun _ ↦ True) v.textOf := by
  rcases ValueKind.eq_of_holds_plain h with rfl | ⟨b, rfl⟩ | ⟨s, rfl⟩ | ⟨strict, cause, rfl⟩
  · exact trivial
  · cases b <;> exact trivial
  · exact trivial
  · cases strict <;> exact trivial

/-- Plain values can be asked if they are equal. -/
theorem yields_equal (hleft : ValueKind.plain.Holds left) (hright : ValueKind.plain.Holds right) :
    Yields (fun _ ↦ True) (Item.equal left right) := by
  rcases ValueKind.eq_of_holds_plain hleft with rfl | ⟨b, rfl⟩ | ⟨s, rfl⟩ | ⟨_ | _, cause, rfl⟩ <;>
    rcases ValueKind.eq_of_holds_plain hright with rfl | ⟨c, rfl⟩ | ⟨t, rfl⟩ | ⟨_ | _, why, rfl⟩ <;>
    simp [Item.equal, Item.compareNumbers, Item.toInt?, Yields, Failure.IsReported]

/-- Texts have an order. -/
theorem yields_order (hleft : ValueKind.text.Holds left) (hright : ValueKind.text.Holds right) :
    Yields (fun _ ↦ True) (Item.order left right) := by
  rcases ValueKind.eq_of_holds_text hleft with ⟨s, rfl⟩ | ⟨_ | _, cause, rfl⟩ <;>
    rcases ValueKind.eq_of_holds_text hright with ⟨t, rfl⟩ | ⟨_ | _, why, rfl⟩ <;>
    simp [Item.order, Item.absence?, Yields, Failure.IsReported]

/-- A text can be looked for in a text. -/
theorem yields_contains (hleft : ValueKind.filled.Holds left)
    (hright : ValueKind.text.Holds right) : Yields (fun _ ↦ True) (Item.contains right left) := by
  obtain ⟨s, rfl⟩ := ValueKind.eq_of_holds_filled hleft
  rcases ValueKind.eq_of_holds_text hright with ⟨t, rfl⟩ | ⟨_ | _, why, rfl⟩ <;>
    simp [Item.contains, Yields, Failure.IsReported]

/-- What a filter on texts makes of a plain value is a text. -/
theorem yields_textFilter {name : String} (hname : name ∈ textFilters)
    (h : ValueKind.plain.Holds input) :
    Yields ValueKind.filled.Holds (applyFilter name input [] []) := by
  have htext := yields_textOf h
  have hrun : ∀ f : List Char → List Char,
      Yields ValueKind.filled.Holds (do return .text (f (← input.textOf)) : Outcome Item) :=
    fun f ↦ htext.bind fun _ _ ↦ trivial
  simp only [textFilters, List.mem_cons, List.not_mem_nil, or_false] at hname
  rcases hname with rfl | rfl | rfl | rfl | rfl
  · exact hrun PowerShell.escapeDoubleQuotes
  · exact hrun PowerShell.inline
  · exact hrun Text.uppercase
  · exact hrun Text.lowercase
  · exact hrun Text.trim

theorem yields_replace {old new : Item} (hinput : ValueKind.plain.Holds input)
    (hold : ValueKind.plain.Holds old) (hnew : ValueKind.plain.Holds new) :
    Yields ValueKind.filled.Holds (applyFilter "replace" input [old, new] []) :=
  (yields_textOf hinput).bind fun _ _ ↦ (yields_textOf hold).bind fun _ _ ↦
    (yields_textOf hnew).bind fun _ _ ↦ trivial

/-- A value by default has what it and every text have. -/
theorem yields_default {Q : Item → Prop} {flags : List Item} (hlength : flags.length ≤ 1)
    (hinput : ValueKind.text.Holds input) (htext : ∀ s, Q (.text s)) (hvalue : Q v) :
    Yields Q (applyFilter "default" input (v :: flags) []) := by
  have hrun : ∀ boolean, Yields Q (Filter.run .default input [some v, boolean]) := by
    intro boolean
    rw [Filter.run]
    split
    · exact hvalue
    · rename_i hkept
      rcases ValueKind.eq_of_holds_text hinput with ⟨s, rfl⟩ | ⟨strict, cause, rfl⟩
      · exact htext s
      · simp [Item.isAbsent] at hkept
  cases flags with
  | nil => exact hrun none
  | cons flag rest =>
    obtain rfl : rest = [] := List.length_eq_zero_iff.mp (by simpa using hlength)
    exact hrun (some flag)

/-- What a test gives is a truth value. -/
theorem yields_test {name : String} (hname : Test.ofName? name ≠ none) :
    Yields (fun result ↦ ∃ b, result = .bool b) (applyTest name input [] []) := by
  unfold applyTest
  split
  · rename_i hnone
    exact absurd hnone hname
  · rename_i test _
    cases test <;> exact ⟨_, rfl⟩

end Operations

/-! ### Memory -/

/-- Whether every name that is not the one of the template has a text in its cells, or nothing. -/
def Memory.IsSound (m : Memory) : Prop :=
  ∀ cell v, cell.name ≠ Text.compatible "self".toList → m.cells.lookup cell = some (some v) →
    ValueKind.text.Holds v

/-- A text, or what is absent, is the same at any time. -/
theorem Memory.current_of_holds {m : Memory} {v : Item} (h : ValueKind.text.Holds v) :
    m.current v = v := by
  rcases ValueKind.eq_of_holds_text h with ⟨s, rfl⟩ | ⟨strict, cause, rfl⟩
  · rfl
  · simp [Memory.current, refreshDepth, Memory.refresh]

theorem Memory.IsSound.holds_load? {m : Memory} (h : m.IsSound) {cell : Cell}
    (hcell : cell.name ≠ Text.compatible "self".toList) {v : Item} (hv : m.load? cell = some v) :
    ValueKind.text.Holds v := by
  obtain ⟨stored, hstored, rfl⟩ := Option.map_eq_some_iff.mp hv
  have hlookup : m.cells.lookup cell = some (some stored) := Option.join_eq_some_iff.mp hstored
  have hholds := h cell stored hcell hlookup
  rw [Memory.current_of_holds hholds]
  exact hholds

theorem Memory.IsSound.store {m : Memory} (h : m.IsSound) {cell : Cell} {value : Option Item}
    (hvalue : cell.name ≠ Text.compatible "self".toList → ∀ v ∈ value, ValueKind.text.Holds v) :
    (m.store cell value).IsSound := by
  intro other v hother hlookup
  rw [Memory.store, lookup_assocSet] at hlookup
  by_cases hsame : other = cell
  · subst hsame
    rw [if_pos (beq_self_eq_true other)] at hlookup
    exact hvalue hother v (Option.some.inj hlookup)
  · rw [if_neg (by simpa using hsame)] at hlookup
    exact h other v hother hlookup

/-! ### Expressions -/

/-- Whether a computation keeps the memory sound and gives a value with a property, or else a
failure that is reported. -/
abbrev SafeEvaluation {α : Type} (x : Evaluation α) (Q : α → Prop) : Prop :=
  Keeps Memory.IsSound x Q

section Expressions

variable {scope : Scope} {body : List Char}

/-- An ordinary name has a text, or is absent. -/
theorem safe_value {n : String} (hn : IsOrdinary n) :
    SafeEvaluation (scope.value n) ValueKind.text.Holds := by
  intro m hm
  refine ⟨?_, hm⟩
  show ValueKind.text.Holds ((m.load? (scope.cell n)).getD _)
  cases hload : m.load? (scope.cell n) with
  | none => exact trivial
  | some v => exact hm.holds_load? hn.2 hload

theorem safe_literalValue {k : ValueKind} {v : Item} (h : k.Holds v) :
    SafeEvaluation (literalValue v) k.Holds := by
  rcases ValueKind.eq_of_holds_plain h.plain with
    rfl | ⟨b, rfl⟩ | ⟨s, rfl⟩ | ⟨strict, cause, rfl⟩ <;>
    exact fun m hm ↦ ⟨h, hm⟩

theorem safe_evalAll_cons {e : Expr} {es : List Expr} {Q : Item → Prop} {R : List Item → Prop}
    (he : SafeEvaluation (e.eval scope body) Q) (hes : SafeEvaluation (evalAll scope body es) R) :
    SafeEvaluation (evalAll scope body (e :: es)) fun vs ↦
      ∃ v rest, vs = v :: rest ∧ Q v ∧ R rest := by
  rw [evalAll]
  exact Keeps.bind he fun v hv ↦ Keeps.bind hes fun rest hrest ↦
    keeps_pure ⟨v, rest, rfl, hv, hrest⟩

/-- Expressions of a kind have values of this kind. -/
theorem safe_evalAll {k : ValueKind} {es : List Expr}
    (h : ∀ e ∈ es, SafeEvaluation (e.eval scope body) k.Holds) :
    SafeEvaluation (evalAll scope body es) fun vs ↦
      vs.length = es.length ∧ ∀ v ∈ vs, k.Holds v := by
  induction es with
  | nil =>
    rw [evalAll]
    exact keeps_pure ⟨rfl, by simp⟩
  | cons e rest ih =>
    have hrest := ih fun other hother ↦ h other (List.mem_cons_of_mem e hother)
    refine (safe_evalAll_cons (h e List.mem_cons_self) hrest).mono ?_
    rintro vs m ⟨⟨v, others, rfl, hv, hlength, hothers⟩, hm⟩
    refine ⟨⟨by rw [List.length_cons, List.length_cons, hlength], ?_⟩, hm⟩
    intro other hother
    rcases List.mem_cons.mp hother with rfl | hmem
    · exact hv
    · exact hothers other hmem

/-- Arguments by position alone have the values of their expressions. -/
theorem safe_evalArguments {es : List Expr} {Q : List Item → Prop}
    (h : SafeEvaluation (evalAll scope body es) Q) :
    SafeEvaluation (Arguments.eval scope body (.mk es [] none none))
      fun values ↦ Q values.1 ∧ values.2 = [] := by
  rw [Arguments.eval]
  refine Keeps.bind h fun vs hvs ↦ ?_
  simp only [evalOption, evalNamed, pure_bind, List.append_nil]
  exact keeps_pure ⟨hvs, rfl⟩

/-- The relations of a chain hold or not, if each of them can be asked for. -/
theorem safe_evalRelations {k : ValueKind} {others : List (Comparison × Expr)}
    (hrelated : ∀ other ∈ others, ∀ left right, k.Holds left → k.Holds right →
      Yields (fun _ ↦ True) (Item.related other.1 left right))
    (h : ∀ other ∈ others, SafeEvaluation (other.2.eval scope body) k.Holds) {left : Item}
    (hleft : k.Holds left) :
    SafeEvaluation (evalRelations scope body left others) fun _ ↦ True := by
  induction others generalizing left with
  | nil =>
    rw [evalRelations]
    exact keeps_pure trivial
  | cons other rest ih =>
    obtain ⟨relation, e⟩ := other
    rw [evalRelations]
    refine Keeps.bind (h _ List.mem_cons_self) fun right hright ↦ ?_
    refine Keeps.bind
      (safe_liftM (hrelated _ List.mem_cons_self left right hleft hright)) fun holds _ ↦ ?_
    split
    · exact ih (fun o ho ↦ hrelated o (List.mem_cons_of_mem _ ho))
        (fun o ho ↦ h o (List.mem_cons_of_mem _ ho)) hright
    · exact keeps_pure trivial

theorem yields_related_of_equality {relation : Comparison} (h : relation = .eq ∨ relation = .ne)
    {left right : Item} (hleft : ValueKind.plain.Holds left)
    (hright : ValueKind.plain.Holds right) :
    Yields (fun _ ↦ True) (Item.related relation left right) := by
  rcases h with rfl | rfl
  · exact yields_equal hleft hright
  · exact (yields_equal hleft hright).map fun _ _ ↦ trivial

theorem yields_related_of_order {relation : Comparison}
    (h : relation ≠ .isIn ∧ relation ≠ .notIn) {left right : Item}
    (hleft : ValueKind.text.Holds left) (hright : ValueKind.text.Holds right) :
    Yields (fun _ ↦ True) (Item.related relation left right) := by
  cases relation with
  | eq => exact yields_related_of_equality (.inl rfl) hleft.plain hright.plain
  | ne => exact yields_related_of_equality (.inr rfl) hleft.plain hright.plain
  | isIn => exact absurd rfl h.1
  | notIn => exact absurd rfl h.2
  | _ => exact (yields_order hleft hright).map fun _ _ ↦ trivial

theorem yields_related_of_membership {relation : Comparison}
    (h : relation = .isIn ∨ relation = .notIn) {part whole : Item}
    (hpart : ValueKind.filled.Holds part) (hwhole : ValueKind.text.Holds whole) :
    Yields (fun _ ↦ True) (Item.related relation part whole) := by
  rcases h with rfl | rfl
  · exact yields_contains hpart hwhole
  · exact (yields_contains hpart hwhole).map fun _ _ ↦ trivial

/-- The texts of plain values. -/
theorem yields_mapM_textOf {items : List Item} (h : ∀ v ∈ items, ValueKind.plain.Holds v) :
    Yields (fun _ ↦ True) (items.mapM Item.textOf) := by
  induction items with
  | nil => exact trivial
  | cons v rest ih =>
    rw [List.mapM_cons]
    exact (yields_textOf (h v List.mem_cons_self)).bind fun _ _ ↦
      (ih fun other hother ↦ h other (List.mem_cons_of_mem v hother)).bind fun _ _ ↦ trivial

/-- An expression of a kind has a value of this kind, or uses a value that is absent. -/
theorem Expr.HasKind.safe_eval {e : Expr} {k : ValueKind} (h : e.HasKind IsOrdinary k) :
    SafeEvaluation (e.eval scope body) k.Holds := by
  induction h with
  | @literal text =>
    rw [Expr.eval]
    exact safe_literalValue (ValueKind.holds_text .filled text)
  | @truth value =>
    rw [Expr.eval]
    exact safe_literalValue (k := .plain) (v := .bool value) trivial
  | nothing =>
    rw [Expr.eval]
    exact safe_literalValue (k := .plain) (v := .none) trivial
  | name hname =>
    rw [Expr.eval]
    exact safe_value hname
  | body =>
    rw [Expr.eval]
    exact keeps_pure trivial
  | noElse =>
    rw [Expr.eval]
    exact keeps_pure trivial
  | not _ ih =>
    rw [Expr.eval]
    exact Keeps.bind ih fun _ _ ↦ keeps_pure trivial
  | and _ _ ihleft ihright =>
    rw [Expr.eval]
    refine Keeps.bind ihleft fun l hl ↦ ?_
    split
    · exact ihright
    · exact keeps_pure hl
  | or _ _ ihleft ihright =>
    rw [Expr.eval]
    refine Keeps.bind ihleft fun l hl ↦ ?_
    split
    · exact keeps_pure hl
    · exact ihright
  | concat _ ih =>
    rw [Expr.eval]
    refine Keeps.bind (safe_evalAll ih) fun vs hvs ↦ ?_
    exact Keeps.bind (safe_liftM (yields_mapM_textOf hvs.2)) fun _ _ ↦ keeps_pure trivial
  | choose _ _ _ ihtest ihyes ihno =>
    rw [Expr.eval]
    refine Keeps.bind ihtest fun t _ ↦ ?_
    split
    · exact ihyes
    · exact ihno
  | equality hrelations _ _ ihfirst ihothers =>
    rw [Expr.eval]
    refine Keeps.bind ihfirst fun left hleft ↦ ?_
    refine Keeps.bind (safe_evalRelations (k := .plain) ?_ ihothers hleft)
      fun _ _ ↦ keeps_pure trivial
    exact fun other hother _ _ ↦ yields_related_of_equality (hrelations other hother)
  | order hrelations _ _ ihfirst ihothers =>
    rw [Expr.eval]
    refine Keeps.bind ihfirst fun left hleft ↦ ?_
    refine Keeps.bind (safe_evalRelations (k := .text) ?_ ihothers hleft)
      fun _ _ ↦ keeps_pure trivial
    exact fun other hother _ _ ↦ yields_related_of_order (hrelations other hother)
  | membership hrelation _ _ ihpart ihwhole =>
    rw [Expr.eval]
    refine Keeps.bind ihpart fun part hpart ↦ ?_
    refine Keeps.bind (S := fun _ ↦ True) ?_ fun _ _ ↦ keeps_pure trivial
    rw [evalRelations]
    refine Keeps.bind ihwhole fun whole hwhole ↦ ?_
    refine Keeps.bind
      (safe_liftM (yields_related_of_membership hrelation hpart hwhole)) fun holds _ ↦ ?_
    split
    · rw [evalRelations]
      exact keeps_pure trivial
    · exact keeps_pure trivial
  | filtered hname _ ih =>
    rw [Expr.eval]
    refine Keeps.bind ih fun i hi ↦ ?_
    refine Keeps.bind (safe_evalArguments (Q := fun vs ↦ vs = []) ?_) fun values hvalues ↦ ?_
    · rw [evalAll]
      exact keeps_pure rfl
    · obtain ⟨vs, named⟩ := values
      obtain ⟨rfl, rfl⟩ := hvalues
      exact safe_liftM (yields_textFilter hname hi)
  | replaced _ _ _ ihinput ihold ihnew =>
    rw [Expr.eval]
    refine Keeps.bind ihinput fun i hi ↦ ?_
    refine Keeps.bind (safe_evalArguments (safe_evalAll (k := .plain) ?_))
      fun values hvalues ↦ ?_
    · intro e he
      rcases List.mem_cons.mp he with rfl | hlast
      · exact ihold
      · obtain rfl := List.mem_singleton.mp hlast
        exact ihnew
    · obtain ⟨vs, named⟩ := values
      obtain ⟨⟨hlength, hvs⟩, rfl⟩ := hvalues
      obtain ⟨old, new, rfl⟩ := List.length_eq_two.mp hlength
      exact safe_liftM (yields_replace hi (hvs old (by simp)) (hvs new (by simp)))
  | defaulted hlength _ _ _ ihinput ihvalue ihflags =>
    rw [Expr.eval]
    refine Keeps.bind ihinput fun i hi ↦ ?_
    refine Keeps.bind (safe_evalArguments (safe_evalAll_cons ihvalue (safe_evalAll ihflags)))
      fun values hvalues ↦ ?_
    obtain ⟨vs, named⟩ := values
    obtain ⟨⟨v, flags, rfl, hv, hflags, -⟩, rfl⟩ := hvalues
    exact safe_liftM (yields_default (hflags.trans_le hlength) hi (ValueKind.holds_text _) hv)
  | tested hname _ ih =>
    rw [Expr.eval]
    refine Keeps.bind ih fun i hi ↦ ?_
    refine Keeps.bind (safe_evalArguments (Q := fun vs ↦ vs = []) ?_) fun values hvalues ↦ ?_
    · rw [evalAll]
      exact keeps_pure rfl
    · obtain ⟨vs, named⟩ := values
      obtain ⟨rfl, rfl⟩ := hvalues
      refine safe_liftM ((yields_test hname).mono ?_)
      rintro result ⟨b, rfl⟩
      exact trivial
  | ofFilled _ ih => exact ih.mono fun _ _ h ↦ ⟨h.1.text_of_filled, h.2⟩
  | ofText _ ih => exact ih.mono fun _ _ h ↦ ⟨h.1.plain_of_text, h.2⟩

end Expressions

end Scriptorium.Template
