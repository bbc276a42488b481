import Mathlib
import Scriptorium.Proofs.CallExpansion
import Scriptorium.Proofs.Placeholder.Fill

/-!
# Optional arguments

An argument that is left out and one that is empty fail the same tests, so a template that prints a
name only where a test has found it to have a value makes no difference between the two
(`Arguments.fill_set_empty`). `Statement.IsOptional` says what such a template is made of: text,
placeholders, and branches on names in one another, where the name is printed in no branch but
those that are taken if it has a value.

The two renderings are followed side by side. They begin with memories that `Agree`: only the cell
of the name differs, which has nothing in the one and an empty text in the other. No statement
changes a memory, and each is `Alike` in both: it renders the same or fails with the same failure.

Names are the same if their compatibility forms are equal, and then they share a cell. A name that
shares it with another one in the template may make a difference
(`Arguments.fill_set_empty_shared`).
-/

set_option autoImplicit false
set_option relaxedAutoImplicit false

namespace Scriptorium.Template

/-! ### Templates in which an argument is optional -/

/-- Whether an expression is a name, which may be the word for a literal. -/
inductive Expr.IsName (n : String) : Expr → Prop
  | argument {line : Nat} (hname : literalOfName? n = none) : IsName n (.name line n)
  | literal {v : Item} (hvalue : literalOfName? n = some v) : IsName n (.const v)

/-- Whether an expression is a name with code filters after it. -/
inductive Expr.IsFiltered (n : String) : Expr → Prop
  | name {e : Expr} (he : e.IsName n) : IsFiltered n e
  | filter {line : Nat} {e : Expr} (f : CodeFilter) (he : IsFiltered n e) :
    IsFiltered n (.filter line e f.name .empty)

/-- Whether a name shares its compatibility form with no other name than itself. -/
def IsApart (p n : String) : Prop := Text.compatible n.toList = Text.compatible p.toList → n = p

/-- Whether a statement makes no difference between an argument that is left out and one that is
empty. `inside` tells whether it stands where the argument is known to have a value. -/
inductive Statement.IsOptional (p : String) : Bool → Statement → Prop
  | text {inside : Bool} {text : List Char} : IsOptional p inside (.text text)
  | print {inside : Bool} {n : String} {value : Expr} (hvalue : value.IsFiltered n)
      (hapart : IsApart p n) (hinside : n = p → inside = true) : IsOptional p inside (.print value)
  | branch {inside : Bool} {n : String} {test : Expr} {yes no : List Statement}
      (htest : test.IsName n)
      (hyes : ∀ s ∈ yes, IsOptional p (inside || n == p) s)
      (hno : ∀ s ∈ no, IsOptional p inside s) :
    IsOptional p inside (.branch [(test, yes)] no)

variable {p n : String} {inside : Bool} {e : Expr} {s : Statement} {body : List Statement}

/-- The words for literals stand for truth values and for nothing. -/
theorem eq_of_literalOfName? {v : Item} (h : literalOfName? n = some v) :
    (∃ b, v = .bool b) ∨ v = .none := by
  unfold literalOfName? at h
  split at h
  · exact .inl ⟨true, (Option.some.inj h).symm⟩
  · split at h
    · exact .inl ⟨false, (Option.some.inj h).symm⟩
    · split at h
      · exact .inr (Option.some.inj h).symm
      · cases h

/-! ### Checks -/

section Gives

variable {σ α β : Type} {Q : α → Prop} {R : β → Prop}

/-- Whether a computation that does not fail gives a value with a property. -/
def Gives (x : StateT σ Outcome α) (Q : α → Prop) : Prop := ∀ s a t, x s = .ok (a, t) → Q a

theorem gives_pure {a : α} (h : Q a) : Gives (pure a : StateT σ Outcome α) Q := by
  intro s b t heq
  obtain ⟨rfl, -⟩ := Prod.mk.inj (Except.ok.inj heq)
  exact h

theorem gives_true (x : StateT σ Outcome α) : Gives x fun _ ↦ True := fun _ _ _ _ ↦ trivial

theorem Gives.bind {x : StateT σ Outcome α} {f : α → StateT σ Outcome β} (hx : Gives x Q)
    (hf : ∀ a, Q a → Gives (f a) R) : Gives (x >>= f) R := by
  intro s b t heq
  change (x s >>= fun result ↦ f result.1 result.2) = _ at heq
  obtain ⟨⟨a, r⟩, ha, hb⟩ := bind_eq_ok_iff.mp heq
  exact hf a (hx s a r ha) r b t hb

theorem Gives.map {x : StateT σ Outcome α} {f : α → β} (hx : Gives x Q) (hf : ∀ a, Q a → R (f a)) :
    Gives (f <$> x) R := by
  rw [map_eq_pure_bind]
  exact hx.bind fun a ha ↦ gives_pure (hf a ha)

/-- What comes first in some cases only makes no difference to what comes after it. -/
theorem gives_when {c : Prop} [Decidable c] {x : StateT σ Outcome Unit}
    {next : Unit → StateT σ Outcome β} (h : Gives (next ()) R) :
    Gives (if c then x >>= next else next ()) R := by
  split
  · exact (gives_true x).bind fun _ _ ↦ h
  · exact h

end Gives

variable {place : Place}

/-- Filters after a literal are constant, and have a text. -/
theorem Expr.IsFiltered.exists_constant (h : e.IsFiltered n) {v : Item}
    (hvalue : literalOfName? n = some v) :
    ∃ w, e.constant = pure w ∧ ((∃ b, w = .bool b) ∨ w = .none ∨ ∃ t, w = .text t) := by
  induction h with
  | name he =>
    cases he with
    | argument hname => cases hvalue.symm.trans hname
    | literal hown =>
      obtain rfl := Option.some.inj (hvalue.symm.trans hown)
      exact ⟨v, rfl, (eq_of_literalOfName? hvalue).imp_right .inl⟩
  | @filter line e f _ ih =>
    obtain ⟨w, hw, hkind⟩ := ih
    obtain ⟨t, ht⟩ : ∃ t, applyFilter f.name w [] [] = .ok (.text t) := by
      rcases hkind with ⟨_ | _, rfl⟩ | rfl | ⟨t, rfl⟩ <;> cases f <;> exact ⟨_, rfl⟩
    refine ⟨.text t, ?_, .inr (.inr ⟨t, rfl⟩)⟩
    rw [Expr.constant, f.ofName?_name, constant_empty, hw]
    change attempt (liftM (applyFilter f.name w [] [])) = _
    rw [ht]
    rfl

/-- Filters after a name that is no literal are not constant, and stay as they are. -/
theorem Expr.IsFiltered.constant_eq (h : e.IsFiltered n) (hname : literalOfName? n = none) :
    e.constant = notConstant ∧ e.fold = .ok e := by
  induction h with
  | name he =>
    cases he with
    | argument _ => exact ⟨rfl, rfl⟩
    | literal hvalue => cases hvalue.symm.trans hname
  | @filter line e f _ ih =>
    have hconstant : (Expr.filter line e f.name .empty).constant = notConstant :=
      constant_filterExpr ih.1 [f]
    refine ⟨hconstant, ?_⟩
    rw [Expr.fold, ih.2]
    exact settled_of_constant hconstant

/-- What is accepted is left as it is. -/
theorem Expr.IsFiltered.gives_check (h : e.IsFiltered n) : Gives (e.check place) (· = e) := by
  induction h with
  | name he =>
    cases he with
    | argument _ =>
      rw [Expr.check]
      exact gives_when (gives_pure rfl)
    | literal _ =>
      rw [Expr.check]
      exact (gives_true _).bind fun _ _ ↦ gives_pure rfl
  | @filter line e f _ ih =>
    rw [Expr.check, f.ofName?_name]
    refine Gives.bind ih fun i hi ↦ ?_
    subst hi
    refine Gives.bind (Q := (· = Arguments.empty)) ?_ fun a ha ↦ gives_pure (by rw [ha])
    exact fun s a t heq ↦ (Prod.mk.inj (Except.ok.inj heq)).1.symm

theorem Expr.IsFiltered.prepare_eq (h : e.IsFiltered n) :
    e.prepare place = (do
      if heightLimit < e.height then throw (.fault .recursion)
      (← liftM e.fold).check place) := by
  cases h with
  | name he => cases he <;> (rw [Expr.prepare] <;> simp)
  | filter f he => rw [Expr.prepare] <;> simp

theorem Expr.IsFiltered.gives_ready (h : e.IsFiltered n) (hfold : e.fold = .ok e) (around : Nat) :
    Gives (e.ready place around) (· = e) := by
  rw [Expr.ready, h.prepare_eq, hfold]
  refine Gives.bind (Q := (· = e)) (gives_when h.gives_check) fun prepared hprepared ↦ ?_
  exact gives_when (gives_pure hprepared)

/-- A name as a test is left as it is. -/
theorem Expr.IsName.gives_ready (h : e.IsName n) (around : Nat) :
    Gives (e.ready place around) (· = e) := by
  refine (IsFiltered.name h).gives_ready ?_ around
  cases h <;> rfl

/-- What is printed becomes text, or stays what is printed. -/
theorem Statement.IsOptional.gives_checkPrinted (h : e.IsFiltered n) (hapart : IsApart p n)
    (hinside : n = p → inside = true) :
    Gives (checkPrinted place e) (·.IsOptional p inside) := by
  cases hliteral : literalOfName? n with
  | none =>
    obtain ⟨hconstant, hfold⟩ := h.constant_eq hliteral
    have htext : e.constantText? = none := by
      rw [Expr.constantText?, hconstant]
      rfl
    rw [checkPrinted, htext]
    refine (h.gives_ready hfold 1).map fun ready hready ↦ ?_
    subst hready
    exact .print h hapart hinside
  | some v =>
    obtain ⟨w, hw, hkind⟩ := h.exists_constant hliteral
    obtain ⟨t, ht⟩ : ∃ t, e.constantText? = some t := by
      rw [Expr.constantText?, hw]
      rcases hkind with ⟨_ | _, rfl⟩ | rfl | ⟨t, rfl⟩ <;> exact ⟨_, rfl⟩
    rw [checkPrinted, ht]
    exact gives_pure .text

theorem gives_checkBody
    (h : ∀ s ∈ body, Gives (s.check place) fun ready ↦ ∀ r ∈ ready, r.IsOptional p inside) :
    Gives (checkBody place body) fun ready ↦ ∀ r ∈ ready, r.IsOptional p inside := by
  induction body with
  | nil =>
    rw [checkBody]
    exact gives_pure (by simp)
  | cons s rest ih =>
    rw [checkBody]
    refine (gives_true _).bind fun notes _ ↦ ?_
    refine (h s List.mem_cons_self).bind fun first hfirst ↦ ?_
    split
    · exact gives_pure hfirst
    · refine (ih fun t ht ↦ h t (List.mem_cons_of_mem s ht)).bind fun others hothers ↦ ?_
      exact gives_pure (List.forall_mem_append.mpr ⟨hfirst, hothers⟩)

/-- An argument is optional in what is accepted if it is optional in what is checked. -/
theorem Statement.IsOptional.gives_check (h : s.IsOptional p inside) :
    Gives (s.check place) fun ready ↦ ∀ r ∈ ready, r.IsOptional p inside := by
  induction h generalizing place with
  | text =>
    rw [Statement.check]
    exact (gives_true _).bind fun _ _ ↦
      gives_when (gives_pure (List.forall_mem_singleton.mpr .text))
  | print hvalue hapart hinside =>
    rw [Statement.check]
    refine (gives_true _).bind fun notes _ ↦ ?_
    split
    · exact gives_pure (by simp)
    · refine gives_when ?_
      exact (gives_checkPrinted hvalue hapart hinside).bind fun r hr ↦
        gives_pure (List.forall_mem_singleton.mpr hr)
  | @branch inside n test yes no htest _ _ ihyes ihno =>
    rw [Statement.check]
    refine (gives_true _).bind fun _ _ ↦ ?_
    have hcases : Gives (checkCases place [(test, yes)]) fun ready ↦
        ∃ inner, ready = [(test, inner)] ∧ ∀ r ∈ inner, r.IsOptional p (inside || n == p) := by
      rw [checkCases]
      refine (htest.gives_ready 0).bind fun ready hready ↦ ?_
      refine (gives_checkBody fun s hs ↦ ihyes s hs).bind fun inner hinner ↦ ?_
      rw [checkCases, pure_bind]
      exact gives_pure ⟨inner, by rw [hready], hinner⟩
    refine hcases.bind fun ready hready ↦ ?_
    obtain ⟨inner, rfl, hinner⟩ := hready
    refine (gives_checkBody fun s hs ↦ ihno s hs).bind fun otherwise hotherwise ↦ ?_
    exact gives_pure (List.forall_mem_singleton.mpr (.branch htest hinner hotherwise))

theorem isOptional_of_checkTemplate {ready : List Statement}
    (h : ∀ s ∈ body, s.IsOptional p false) (hready : checkTemplate body = .ok ready) :
    ∀ s ∈ ready, s.IsOptional p false := by
  rw [checkTemplate] at hready
  obtain ⟨⟨checked, notes⟩, hchecked, hflaw⟩ := bind_eq_ok_iff.mp hready
  dsimp only at hflaw
  split at hflaw
  · cases hflaw
  · obtain rfl := Except.ok.inj hflaw
    exact gives_checkBody (fun s hs ↦ (h s hs).gives_check) _ _ _ hchecked

/-! ### Memories that agree -/

/-- Whether a value has no contents that could change. -/
def Item.IsStatic (v : Item) : Prop := ∀ m : Memory, m.current v = v

theorem Item.isStatic_text (t : List Char) : (Item.text t).IsStatic := fun _ ↦ rfl

theorem Item.isStatic_template : Item.template.IsStatic := by
  intro m
  rw [Memory.current, refreshDepth, Memory.refresh] <;> simp

/-- Whether a cell holds the same in two memories, or it is that of the name, and holds nothing in
the first and an empty text in the second. -/
def CellAgrees (p : String) (cell : Cell) (first second : Option Item) : Prop :=
  (first = second ∧ ∀ v ∈ first, v.IsStatic) ∨
    (cell.name = Text.compatible p.toList ∧ first = none ∧ second = some (.text []))

/-- Whether two memories hold the same in all cells but those of the name. -/
def Memory.Agree (p : String) (first second : Memory) : Prop :=
  ∀ cell, CellAgrees p cell (first.cells.lookup cell).join (second.cells.lookup cell).join

section Memories

variable {first second : Memory} {cell : Cell}

theorem Memory.Agree.load? (h : first.Agree p second) (cell : Cell) :
    CellAgrees p cell (first.load? cell) (second.load? cell) := by
  rw [Memory.load?, Memory.load?]
  rcases h cell with ⟨hsame, hstatic⟩ | ⟨hcell, hfirst, hsecond⟩
  · rw [← hsame]
    cases hvalue : (first.cells.lookup cell).join with
    | none => exact .inl ⟨rfl, by simp⟩
    | some v =>
      have hv := hstatic v hvalue
      rw [Option.map_some, Option.map_some, hv first, hv second]
      exact .inl ⟨rfl, fun w hw ↦ Option.some.inj hw ▸ hv⟩
  · rw [hfirst, hsecond]
    exact .inr ⟨hcell, rfl, rfl⟩

theorem Memory.Agree.store (h : first.Agree p second) {one other : Option Item}
    (hvalues : CellAgrees p cell one other) :
    (first.store cell one).Agree p (second.store cell other) := by
  intro c
  rw [Memory.store, Memory.store, lookup_assocSet, lookup_assocSet]
  by_cases hcell : c = cell
  · subst hcell
    simpa using hvalues
  · simpa [hcell] using h c

/-- What the arguments say of a name agrees if they differ only in whether the name is given. -/
theorem cellAgrees_argument? {given filled : List (String × String)} {frames : List Frame}
    (hnone : given.lookup p = none) (hsome : filled.lookup p = some "")
    (hothers : ∀ n, n ≠ p → filled.lookup n = given.lookup n) (level : Nat) (n : String) :
    CellAgrees p (Cell.ofName level n) (Scope.argument? ⟨given, frames⟩ n)
      (Scope.argument? ⟨filled, frames⟩ n) := by
  simp only [Scope.argument?]
  by_cases hname : n = p
  · subst hname
    rw [hnone, hsome]
    exact .inr ⟨rfl, rfl, rfl⟩
  · rw [hothers n hname]
    refine .inl ⟨rfl, fun v hv ↦ ?_⟩
    obtain ⟨value, -, rfl⟩ := Option.map_eq_some_iff.mp hv
    exact Item.isStatic_text value.toList

/-- Memories that agree do so after the names of a frame have got their values. -/
theorem Memory.Agree.fill {given filled : List (String × String)} (h : first.Agree p second)
    (hnone : given.lookup p = none) (hsome : filled.lookup p = some "")
    (hothers : ∀ n, n ≠ p → filled.lookup n = given.lookup n) (frames : List Frame) (level : Nat)
    (sources : List (String × Source)) :
    (Scope.fill ⟨given, frames⟩ level first sources).Agree p
      (Scope.fill ⟨filled, frames⟩ level second sources) := by
  induction sources generalizing first second with
  | nil => exact h
  | cons s rest ih =>
    obtain ⟨n, source⟩ := s
    cases source with
    | parameter => exact ih h
    | argument => exact ih (h.store (cellAgrees_argument? hnone hsome hothers level n))
    | outer other => exact ih (h.store (h.load? (Cell.ofName other n)))
    | unset => exact (ih h).store (.inl ⟨rfl, by simp⟩)

end Memories

/-! ### Rendering side by side -/

section Alike

variable {α β : Type} {first second : Memory}

/-- Whether two computations come to the same from their memories, and change neither. -/
def Alike (first second : Memory) (x y : Evaluation α) : Prop :=
  ∃ o : Outcome α, x first = o.map (·, first) ∧ y second = o.map (·, second)

theorem alike_pure (a : α) : Alike first second (pure a) (pure a) := ⟨.ok a, rfl, rfl⟩

theorem alike_liftM (o : Outcome α) : Alike first second (liftM o) (liftM o) :=
  ⟨o, liftM_eq o first, liftM_eq o second⟩

theorem Alike.bind {x y : Evaluation α} {f g : α → Evaluation β} (hxy : Alike first second x y)
    (hfg : ∀ a, Alike first second (f a) (g a)) : Alike first second (x >>= f) (y >>= g) := by
  obtain ⟨o, hx, hy⟩ := hxy
  cases o with
  | error failure => exact ⟨.error failure, bind_of_error hx, bind_of_error hy⟩
  | ok a =>
    obtain ⟨o, hf, hg⟩ := hfg a
    exact ⟨o, (bind_of_ok hx).trans hf, (bind_of_ok hy).trans hg⟩

theorem Alike.map {x y : Evaluation α} (h : Alike first second x y) (f : α → β) :
    Alike first second (f <$> x) (f <$> y) := by
  rw [map_eq_pure_bind, map_eq_pure_bind]
  exact h.bind fun a ↦ alike_pure (f a)

end Alike

section Rendering

variable {first second : Memory} {given filled : List (String × String)} {frames : List Frame}

/-- Whether the cell of a name holds the same in two memories. It need not where the name is the
word for a literal, which is in no cell. -/
def LoadsSame (first second : Memory) (frames : List Frame) (n : String) : Prop :=
  literalOfName? n = none →
    first.load? (Scope.cell ⟨[], frames⟩ n) = second.load? (Scope.cell ⟨[], frames⟩ n)

/-- A name is worth what its cell holds. -/
theorem eval_argument (line : Nat) (n : String) (m : Memory) :
    (Expr.name line n).eval ⟨given, frames⟩ [] m =
      .ok ((m.load? (Scope.cell ⟨[], frames⟩ n)).getD (.absent true (.argument n)), m) := rfl

theorem eval_literal {v : Item} (hvalue : literalOfName? n = some v) (m : Memory) :
    (Expr.const v).eval ⟨given, frames⟩ [] m = .ok (v, m) := by
  rw [Expr.eval]
  rcases eq_of_literalOfName? hvalue with ⟨b, rfl⟩ | rfl <;> rfl

theorem Expr.IsName.alike_eval (h : e.IsName n) (hload : LoadsSame first second frames n) :
    Alike first second (e.eval ⟨given, frames⟩ []) (e.eval ⟨filled, frames⟩ []) := by
  cases h with
  | argument hname =>
    refine ⟨.ok _, eval_argument _ n first, ?_⟩
    rw [eval_argument, hload hname]
    rfl
  | @literal v hvalue => exact ⟨.ok v, eval_literal hvalue first, eval_literal hvalue second⟩

theorem Expr.IsFiltered.alike_eval (h : e.IsFiltered n) (hload : LoadsSame first second frames n) :
    Alike first second (e.eval ⟨given, frames⟩ []) (e.eval ⟨filled, frames⟩ []) := by
  induction h with
  | name he => exact he.alike_eval hload
  | filter f _ ih =>
    rw [Expr.eval, Expr.eval]
    refine ih.bind fun i ↦ ?_
    refine Alike.bind ⟨.ok ([], []), rfl, rfl⟩ fun values ↦ ?_
    exact alike_liftM _

/-- A test on a name comes out the same in memories that agree. Where it holds the name has the same
value in both. -/
theorem Expr.IsName.exists_eval (h : e.IsName n) (hagree : first.Agree p second)
    (given filled : List (String × String)) (frames : List Frame) :
    ∃ v w, e.eval ⟨given, frames⟩ [] first = .ok (v, first) ∧
      e.eval ⟨filled, frames⟩ [] second = .ok (w, second) ∧ v.isTrue = w.isTrue ∧
      (v.isTrue = true → LoadsSame first second frames n) := by
  cases h with
  | argument _ =>
    refine ⟨_, _, eval_argument _ n first, eval_argument _ n second, ?_⟩
    rcases hagree.load? (Scope.cell ⟨[], frames⟩ n) with ⟨hsame, -⟩ | ⟨-, hfirst, hsecond⟩
    · rw [hsame]
      exact ⟨rfl, fun _ _ ↦ hsame⟩
    · rw [hfirst, hsecond]
      exact ⟨rfl, fun htrue ↦ by cases htrue⟩
  | @literal v hvalue =>
    refine ⟨v, v, eval_literal hvalue first, eval_literal hvalue second, rfl, fun _ hname ↦ ?_⟩
    cases hvalue.symm.trans hname

theorem alike_renderBody
    (h : ∀ s ∈ body,
      Alike first second (s.render ⟨given, frames⟩) (s.render ⟨filled, frames⟩)) :
    Alike first second (renderBody ⟨given, frames⟩ body) (renderBody ⟨filled, frames⟩ body) := by
  induction body with
  | nil =>
    rw [renderBody, renderBody]
    exact alike_pure _
  | cons s rest ih =>
    rw [renderBody, renderBody]
    refine (h s List.mem_cons_self).bind fun one ↦ ?_
    exact (ih fun t ht ↦ h t (List.mem_cons_of_mem s ht)).bind fun _ ↦ alike_pure _

/-- A statement that makes no difference renders the same in memories that agree, where the name
has the same value in both if it is known to have one. -/
theorem Statement.IsOptional.alike_render (h : s.IsOptional p inside)
    (hagree : first.Agree p second) (hinside : inside = true → LoadsSame first second frames p) :
    Alike first second (s.render ⟨given, frames⟩) (s.render ⟨filled, frames⟩) := by
  induction h with
  | text =>
    rw [Statement.render, Statement.render]
    exact alike_pure _
  | @print inside n value hvalue hapart hname =>
    have hload : LoadsSame first second frames n := by
      by_cases hn : n = p
      · exact hn ▸ hinside (hname hn)
      · intro _
        rcases hagree.load? (Scope.cell ⟨[], frames⟩ n) with ⟨hsame, -⟩ | ⟨hcell, -, -⟩
        · exact hsame
        · exact absurd (hapart hcell) hn
    rw [Statement.render, Statement.render]
    refine (hvalue.alike_eval hload).bind fun v ↦ ?_
    exact (alike_liftM v.textOf).bind fun _ ↦ alike_pure _
  | @branch inside n test yes no htest _ _ ihyes ihno =>
    obtain ⟨v, w, hv, hw, htruth, hholds⟩ := htest.exists_eval hagree given filled frames
    have hcases : Alike first second (renderCases ⟨given, frames⟩ [(test, yes)])
        (renderCases ⟨filled, frames⟩ [(test, yes)]) := by
      by_cases htrue : v.isTrue = true
      · have hknown : (inside || n == p) = true → LoadsSame first second frames p := by
          rw [Bool.or_eq_true, beq_iff_eq]
          rintro (houter | rfl)
          · exact hinside houter
          · exact hholds htrue
        obtain ⟨o, hone, hother⟩ := (alike_renderBody fun s hs ↦ ihyes s hs hknown).map some
        refine ⟨o, ?_, ?_⟩
        · rw [renderCases, bind_of_ok hv, if_pos htrue]
          exact hone
        · rw [renderCases, bind_of_ok hw, if_pos (htruth ▸ htrue)]
          exact hother
      · refine ⟨.ok none, ?_, ?_⟩
        · rw [renderCases, bind_of_ok hv, if_neg htrue, renderCases]
          rfl
        · rw [renderCases, bind_of_ok hw, if_neg (htruth ▸ htrue), renderCases]
          rfl
    rw [Statement.render, Statement.render]
    refine hcases.bind fun found ↦ ?_
    cases found with
    | some rendering => exact alike_pure rendering
    | none => exact alike_renderBody fun s hs ↦ ihno s hs hinside

end Rendering

/-! ### Templates -/

section Templates

variable {given filled : List (String × String)}

/-- Statements that make no difference render the same with arguments that differ only in whether
the name is given. -/
theorem exists_renderChecked (h : ∀ s ∈ body, s.IsOptional p false)
    (hnone : given.lookup p = none) (hsome : filled.lookup p = some "")
    (hothers : ∀ n, n ≠ p → filled.lookup n = given.lookup n) :
    ∃ (o : Outcome Rendering) (first second : Memory),
      renderChecked given body .empty = o.map (·, first) ∧
        renderChecked filled body .empty = o.map (·, second) := by
  have hempty : Memory.empty.Agree p .empty := fun _ ↦ .inl ⟨rfl, by simp [Memory.empty]⟩
  have hstart : (Memory.empty.store (Cell.ofName 0 "self") (some .template)).Agree p
      (Memory.empty.store (Cell.ofName 0 "self") (some .template)) := by
    refine hempty.store (.inl ⟨rfl, fun v hv ↦ ?_⟩)
    obtain rfl := Option.some.inj hv
    exact Item.isStatic_template
  have hagree := hstart.fill hnone hsome hothers [] 0 (Frame.ofTemplate body).sources
  obtain ⟨o, hfirst, hsecond⟩ : Alike _ _ (renderBody ⟨given, [Frame.ofTemplate body]⟩ body)
      (renderBody ⟨filled, [Frame.ofTemplate body]⟩ body) :=
    alike_renderBody fun s hs ↦ (h s hs).alike_render hagree Bool.noConfusion
  exact ⟨o, _, _, hfirst, hsecond⟩

/-- Whether an argument is optional in a template: in every statement of it, or the template is
nested too deep for its statements to be read. -/
def IsOptionalIn (p : String) (template : List Char) : Prop :=
  (∃ body, readTemplate template = .ok body ∧ ∀ s ∈ body, s.IsOptional p false) ∨
    readTemplate template = .error (.fault .recursion)

/-- A template in which an argument is optional has the same text, or the same failure, whether the
argument is left out or empty. -/
theorem renderTemplate_eq_of_isOptional {template : List Char}
    (h : IsOptionalIn p (Text.unifyNewlines template))
    (hnone : given.lookup p = none) (hsome : filled.lookup p = some "")
    (hothers : ∀ n, n ≠ p → filled.lookup n = given.lookup n) :
    renderTemplate template filled = renderTemplate template given := by
  rw [renderTemplate, renderTemplate]
  rcases h with ⟨body, hread, hbody⟩ | hdeep
  · rw [hread]
    change (checkTemplate body >>= _) = (checkTemplate body >>= _)
    cases hcheck : checkTemplate body with
    | error failure => rfl
    | ok ready =>
      obtain ⟨o, first, second, hfirst, hsecond⟩ := exists_renderChecked
        (isOptional_of_checkTemplate hbody hcheck) hnone hsome hothers
      change (renderChecked filled ready .empty >>= _) = (renderChecked given ready .empty >>= _)
      rw [hfirst, hsecond]
      cases o <;> rfl
  · rw [hdeep]
    rfl

end Templates

end Scriptorium.Template

namespace Scriptorium

namespace Arguments

open Template

/-- An argument that is optional in code can be left out or be empty: the code is filled in the same
way, or fails in the same way. -/
theorem fill_set_empty {code p : String} {a : Arguments} (hp : p ∉ a.names)
    (h : IsOptionalIn p (Text.unifyNewlines (unifyOpenings code.toList))) :
    (a.set p "").fill code = a.fill code := by
  have hnone : a.entries.lookup p = none := lookup_eq_none_iff.mpr hp
  have hsame : expand code.toList (a.set p "").entries = expand code.toList a.entries := by
    simp only [expand]
    split
    · refine renderTemplate_eq_of_isOptional h hnone ?_ fun n hn ↦ ?_
      · exact (lookup_setEntry a.entries p "" p).trans (if_pos rfl)
      · exact (lookup_setEntry a.entries p "" n).trans (if_neg hn)
    · rfl
  rw [fill, fill, hsame]

/-- Code that prints a name only where it has a value, in a branch on another one. -/
def rangeCode : String :=
  "\x7b% if range %\x7d\x7b% if b %\x7d\x7b\x7b $range | inline_powershell \x7d\x7d" ++
    "\x7b% endif %\x7d\x7b% else %\x7d\x7b\x7b $b \x7d\x7d\x7b% endif %\x7d"

/-- The argument for the other name. -/
def rangeArguments : Arguments := ⟨[("b", "all")], by decide⟩

/-- The statements of the code. -/
def rangeBody : List Statement :=
  [.branch [(.name 1 "range",
    [.branch [(.name 1 "b",
      [.print (.filter 1 (.name 1 "range") "inline_powershell" .empty)])] []])]
    [.print (.name 1 "b")]]

set_option maxRecDepth 8000 in
/-- The code is read as the statements. -/
theorem readTemplate_rangeCode :
    readTemplate (Text.unifyNewlines (unifyOpenings rangeCode.toList)) = .ok rangeBody := by
  cbv

theorem isOptional_rangeBody : ∀ s ∈ rangeBody, s.IsOptional "range" false := by
  have hrange : (Expr.filter 1 (.name 1 "range") "inline_powershell" .empty).IsFiltered "range" :=
    .filter .inlinePowerShell (.name (.argument rfl))
  refine List.forall_mem_singleton.mpr (.branch (.argument rfl) ?_ ?_)
  · refine List.forall_mem_singleton.mpr (.branch (.argument rfl) ?_ (List.forall_mem_nil _))
    exact List.forall_mem_singleton.mpr (.print hrange (fun _ ↦ rfl) fun _ ↦ rfl)
  · have hapart : IsApart "range" "b" := fun hsame ↦ absurd hsame (by decide +kernel)
    exact List.forall_mem_singleton.mpr
      (.print (.name (.argument rfl)) hapart fun hname ↦ absurd hname (by decide))

/-- The argument can be left out or be empty, though it has the name of a function that the language
of templates knows. -/
theorem fill_set_empty_range :
    "range" ∉ rangeArguments.names ∧
      IsOptionalIn "range" (Text.unifyNewlines (unifyOpenings rangeCode.toList)) ∧
      rangeArguments.fill rangeCode = .ok "all" ∧
      (rangeArguments.set "range" "").fill rangeCode = rangeArguments.fill rangeCode := by
  have habsent : "range" ∉ rangeArguments.names := by decide
  have hoptional : IsOptionalIn "range" (Text.unifyNewlines (unifyOpenings rangeCode.toList)) :=
    .inl ⟨rangeBody, readTemplate_rangeCode, isOptional_rangeBody⟩
  have hexpand : expand rangeCode.toList [("b", "all")] = .ok "all".toList := by decide +kernel
  refine ⟨habsent, hoptional, ?_, fill_set_empty habsent hoptional⟩
  rw [fill, show rangeArguments.entries = [("b", "all")] from rfl, hexpand]
  rfl

/-- Code that prints one name and tests another one in the same compatibility form. -/
def sharedCode : String := "\x7b\x7b $a \x7d\x7d\x7b% if ª %\x7d\x7b% endif %\x7d"

/-- The argument for the name that is printed. -/
def sharedArguments : Arguments := ⟨[("a", "v")], List.nodup_singleton "a"⟩

set_option maxRecDepth 8000 in
/-- Two names that share a cell take their values from each other: the one that is given is missing
while the other is left out, and empty once the other is. -/
theorem fill_set_empty_shared :
    "ª" ∉ sharedArguments.names ∧
      readTemplate (Text.unifyNewlines (unifyOpenings sharedCode.toList)) =
        .ok [.print (.name 1 "a"), .branch [(.name 1 "ª", [])] []] ∧
      sharedArguments.fill sharedCode = .error (.missingArgument (.argument "a")) ∧
      (sharedArguments.set "ª" "").fill sharedCode = .ok "" ∧
      (sharedArguments.set "ª" "").fill sharedCode ≠ sharedArguments.fill sharedCode := by
  have hread : readTemplate (Text.unifyNewlines (unifyOpenings sharedCode.toList)) =
      .ok [.print (.name 1 "a"), .branch [(.name 1 "ª", [])] []] := by
    cbv
  have hmissing : expand sharedCode.toList [("a", "v")] = .error (.absent (.argument "a")) := by
    decide +kernel
  have hempty : expand sharedCode.toList [("a", "v"), ("ª", "")] = .ok "".toList := by
    decide +kernel
  have hfirst : sharedArguments.fill sharedCode = .error (.missingArgument (.argument "a")) := by
    rw [fill, show sharedArguments.entries = [("a", "v")] from rfl, hmissing]
    rfl
  have hsecond : (sharedArguments.set "ª" "").fill sharedCode = .ok "" := by
    rw [fill, show (sharedArguments.set "ª" "").entries = [("a", "v"), ("ª", "")] from rfl, hempty]
    rfl
  refine ⟨by decide, hread, hfirst, hsecond, ?_⟩
  rw [hfirst, hsecond]
  exact fun heq ↦ by cases heq

end Arguments

end Scriptorium
