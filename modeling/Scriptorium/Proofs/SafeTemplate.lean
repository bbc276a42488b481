import Scriptorium.Expansion
import Scriptorium.Proofs.CallExpansion

/-!
# Templates that cannot fault

An operation of a template can fail in a way that says nothing of the template or of its arguments,
as a division by zero does. This module says which templates have no such operation. An expression
has a kind (`Expr.HasKind`): it is always a text, or a text unless it is absent, or one of few plain
values. Kinds are given to texts and truth values, names, conditions, concatenations, comparisons,
tests and the filters on texts; arithmetic, members, elements, calls, lists and dictionaries have
none. A statement is made of expressions that have the kinds it needs (`Statement.IsMadeOf`), and is
not nested too deep.

That such templates never fault is a property of each stage: of reading, checking and rendering. All
three are computations with a state that can fail, and `Safe` is what is said of each: from a state
with one property it gives a value and a state with another, or a failure that is reported.
-/

set_option autoImplicit false
set_option relaxedAutoImplicit false

namespace Scriptorium.Template

/-! ### Failures that are reported -/

/-- Whether a failure tells what is wrong with a template or with its arguments. -/
def Failure.IsReported : Failure → Prop
  | .malformed _ _ | .absent _ => True
  | .fault _ => False

/-- Whether an outcome is a value with a property, or else a failure that is reported. -/
def Yields {α : Type} (Q : α → Prop) : Outcome α → Prop
  | .ok a => Q a
  | .error failure => failure.IsReported

/-- Whether a computation that begins in a state with a property ends in a value and a state with
another one, or else in a failure that is reported. -/
def Safe {σ α : Type} (P : σ → Prop) (x : StateT σ Outcome α) (Q : α → σ → Prop) : Prop :=
  ∀ s, P s → Yields (fun result : α × σ ↦ Q result.1 result.2) (x s)

section Outcomes

variable {α β : Type} {Q R : α → Prop} {x : Outcome α}

theorem Yields.mono (h : Yields Q x) (hQR : ∀ a, Q a → R a) : Yields R x := by
  cases x with
  | ok a => exact hQR a h
  | error failure => exact h

theorem Yields.bind {S : β → Prop} {next : α → Outcome β} (h : Yields Q x)
    (hnext : ∀ a, Q a → Yields S (next a)) : Yields S (x >>= next) := by
  cases x with
  | ok a => exact hnext a h
  | error failure => exact h

theorem Yields.map {S : β → Prop} {f : α → β} (h : Yields Q x) (hf : ∀ a, Q a → S (f a)) :
    Yields S (f <$> x) := by
  cases x with
  | ok a => exact hf a h
  | error failure => exact h

end Outcomes

section Computations

variable {σ α β : Type} {P : σ → Prop} {Q : α → σ → Prop}

theorem safe_pure {a : α} (h : ∀ s, P s → Q a s) : Safe P (pure a) Q :=
  h

theorem Safe.bind {R : β → σ → Prop} {x : StateT σ Outcome α} {next : α → StateT σ Outcome β}
    (hx : Safe P x Q) (hnext : ∀ a, Safe (Q a) (next a) R) : Safe P (x >>= next) R :=
  fun s hs ↦ (hx s hs).bind fun result hresult ↦ hnext result.1 result.2 hresult

theorem Safe.mono {R : α → σ → Prop} {x : StateT σ Outcome α} (hx : Safe P x Q)
    (hQR : ∀ a s, Q a s → R a s) : Safe P x R :=
  fun s hs ↦ (hx s hs).mono fun result ↦ hQR result.1 result.2

theorem Safe.map {R : β → σ → Prop} {x : StateT σ Outcome α} {f : α → β} (hx : Safe P x Q)
    (hf : ∀ a s, Q a s → R (f a) s) : Safe P (f <$> x) R :=
  hx.bind fun a ↦ safe_pure (hf a)

theorem safe_modify {f : σ → σ} {R : σ → Prop} (h : ∀ s, P s → R (f s)) :
    Safe P (modify f : StateT σ Outcome Unit) fun _ ↦ R :=
  h

theorem safe_liftM {S : α → Prop} {x : Outcome α} (h : Yields S x) :
    Safe P (liftM x : StateT σ Outcome α) fun a s ↦ S a ∧ P s := by
  intro s hs
  cases x with
  | ok a => exact ⟨h, hs⟩
  | error failure => exact h

/-- Whether a computation keeps a property of the state and gives a value with a property, or else
ends in a failure that is reported. -/
abbrev Keeps (P : σ → Prop) (x : StateT σ Outcome α) (S : α → Prop) : Prop :=
  Safe P x fun a s ↦ S a ∧ P s

variable {S : α → Prop} {T : β → Prop}

theorem keeps_pure {a : α} (h : S a) : Keeps P (pure a) S :=
  safe_pure fun _ hs ↦ ⟨h, hs⟩

theorem Keeps.bind {x : StateT σ Outcome α} {next : α → StateT σ Outcome β} (hx : Keeps P x S)
    (hnext : ∀ a, S a → Keeps P (next a) T) : Keeps P (x >>= next) T :=
  Safe.bind hx fun a s hs ↦ hnext a hs.1 s hs.2

theorem keeps_get_bind {next : σ → StateT σ Outcome β} (h : ∀ s, P s → Keeps P (next s) T) :
    Keeps P (get >>= next) T :=
  fun s hs ↦ h s hs s hs

end Computations

/-! ### Kinds of values -/

/-- What is known of a value: that it is a text, that it is a text if it is there, or that it is a
text, a truth value or nothing if it is there. -/
inductive ValueKind where
  | filled
  | text
  | plain

/-- Whether a value is of a kind. -/
def ValueKind.Holds : ValueKind → Item → Prop
  | _, .text _ => True
  | .text, .absent _ _ | .plain, .absent _ _ => True
  | .plain, .none | .plain, .bool _ => True
  | _, _ => False

/-- The names of the filters that make a text of any plain value and take no arguments. -/
def textFilters : List String :=
  ["escape_double_quotes", "inline_powershell", "upper", "lower", "trim"]

/-- Whether an expression has a kind, if names that are known have texts or are absent. -/
inductive Expr.HasKind (known : String → Prop) : ValueKind → Expr → Prop
  | literal {text : List Char} : HasKind known .filled (.const (.text text))
  | truth {value : Bool} : HasKind known .plain (.const (.bool value))
  | nothing : HasKind known .plain (.const .none)
  | name {line : Nat} {n : String} (hname : known n) :
    HasKind known .text (.name line n)
  | body : HasKind known .filled .body
  | noElse {line : Nat} : HasKind known .text (.noElse line)
  | not {e : Expr} (he : HasKind known .plain e) :
    HasKind known .plain (.not e)
  | and {k : ValueKind} {left right : Expr} (hleft : HasKind known k left)
      (hright : HasKind known k right) : HasKind known k (.and left right)
  | or {k : ValueKind} {left right : Expr} (hleft : HasKind known k left)
      (hright : HasKind known k right) : HasKind known k (.or left right)
  | concat {parts : List Expr}
      (hparts : ∀ part ∈ parts, HasKind known .plain part) :
    HasKind known .filled (.concat parts)
  | choose {k : ValueKind} {test yes no : Expr}
      (htest : HasKind known .plain test) (hyes : HasKind known k yes)
      (hno : HasKind known k no) :
    HasKind known k (.choose test yes no)
  | equality {first : Expr} {others : List (Comparison × Expr)}
      (hrelations : ∀ other ∈ others, other.1 = .eq ∨ other.1 = .ne)
      (hfirst : HasKind known .plain first)
      (hothers : ∀ other ∈ others, HasKind known .plain other.2) :
    HasKind known .plain (.compare first others)
  | order {first : Expr} {others : List (Comparison × Expr)}
      (hrelations : ∀ other ∈ others, other.1 ≠ .isIn ∧ other.1 ≠ .notIn)
      (hfirst : HasKind known .text first)
      (hothers : ∀ other ∈ others, HasKind known .text other.2) :
    HasKind known .plain (.compare first others)
  | membership {relation : Comparison} {part whole : Expr}
      (hrelation : relation = .isIn ∨ relation = .notIn) (hpart : HasKind known .filled part)
      (hwhole : HasKind known .text whole) :
    HasKind known .plain (.compare part [(relation, whole)])
  | filtered {line : Nat} {input : Expr} {name : String} (hname : name ∈ textFilters)
      (hinput : HasKind known .plain input) :
    HasKind known .filled (.filter line input name (.mk [] [] none none))
  | replaced {line : Nat} {input old new : Expr}
      (hinput : HasKind known .plain input) (hold : HasKind known .plain old)
      (hnew : HasKind known .plain new) :
    HasKind known .filled (.filter line input "replace" (.mk [old, new] [] none none))
  | defaulted {k : ValueKind} {line : Nat} {input value : Expr} {flags : List Expr}
      (hlength : flags.length ≤ 1) (hinput : HasKind known .text input)
      (hvalue : HasKind known k value)
      (hflags : ∀ flag ∈ flags, HasKind known .plain flag) :
    HasKind known k (.filter line input "default" (.mk (value :: flags) [] none none))
  | tested {line : Nat} {input : Expr} {name : String}
      (hname : Test.ofName? name ≠ none) (hinput : HasKind known .plain input) :
    HasKind known .plain (.test line input name (.mk [] [] none none))
  | ofFilled {e : Expr} (he : HasKind known .filled e) :
    HasKind known .text e
  | ofText {e : Expr} (he : HasKind known .text e) :
    HasKind known .plain e

/-- Whether the cell of a name holds texts alone: it is not the name of the template or of a
loop. -/
def IsOrdinary (name : String) : Prop :=
  name ≠ "loop" ∧ Text.compatible name.toList ≠ Text.compatible "self".toList

/-- Whether an expression has a kind and is not nested too deep. -/
structure Expr.IsSafe (k : ValueKind) (e : Expr) : Prop where
  hasKind : e.HasKind IsOrdinary k
  height : e.height ≤ heightLimit
  brackets : e.brackets [] < bracketLimit

/-! ### Statements -/

/-- Whether a statement is made of expressions that have the kinds it needs, with so many levels of
indentation and so many loops in one another. -/
inductive Statement.IsMadeOf (P : ValueKind → Expr → Prop) :
    Nat → Nat → Statement → Prop
  | text {levels loops : Nat} {text : List Char} :
    IsMadeOf P levels loops (.text text)
  | print {levels loops : Nat} {value : Expr} (hvalue : P .plain value) :
    IsMadeOf P levels loops (.print value)
  | branch {levels loops : Nat} {cases : List (Expr × List Statement)}
      {otherwise : List Statement} (htests : ∀ c ∈ cases, P .plain c.1)
      (hbodies : ∀ c ∈ cases, ∀ s ∈ c.2, IsMadeOf P levels loops s)
      (hotherwise : ∀ s ∈ otherwise, IsMadeOf P levels loops s) :
    IsMadeOf P (levels + 1) loops (.branch cases otherwise)
  | loop {levels loops line : Nat} {name : String} {items : Expr}
      {condition : Option Expr} {body otherwise : List Statement} (hitems : P .text items)
      (hcondition : ∀ e ∈ condition, P .plain e ∧ 2 ≤ levels)
      (hbody : ∀ s ∈ body, IsMadeOf P levels loops s)
      (hotherwise : ∀ s ∈ otherwise, IsMadeOf P levels (loops + 1) s) :
    IsMadeOf P (levels + 1) (loops + 1)
      (.loop (.name line name) items condition false body otherwise)
  | assign {levels loops line : Nat} {name : String} {value : Expr}
      (hvalue : P .text value) : IsMadeOf P levels loops (.assign (.name line name) value)
  | capture {levels loops line : Nat} {name : String} {value : Expr}
      {body : List Statement} (hvalue : P .text value) (hnames : value.names = [])
      (hbody : ∀ s ∈ body, IsMadeOf P levels loops s) :
    IsMadeOf P levels loops (.capture (.name line name) value body)
  | filtered {levels loops : Nat} {value : Expr} {body : List Statement}
      (hvalue : P .filled value) (hbody : ∀ s ∈ body, IsMadeOf P levels loops s) :
    IsMadeOf P levels loops (.filtered value body)

end Scriptorium.Template
