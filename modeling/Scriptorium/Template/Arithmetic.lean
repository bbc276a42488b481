import Scriptorium.Decimal.Division
import Scriptorium.Template.Relation

/-!
# Arithmetic of values

The operators on numbers. Whole numbers stay whole but for division; with a floating-point number,
or for a negative exponent, they become one first, which fails for those that are too large.
-/

set_option autoImplicit false
set_option relaxedAutoImplicit false

namespace Scriptorium.Template

/-- The operators on two numbers, some of which also take texts and lists. -/
inductive Operator where
  | add | sub | mul | div | floorDiv | mod | pow
  deriving DecidableEq, Repr

/-- The failure of a division by zero. -/
def divisionByZero {α : Type} : Outcome α := .error (.fault .divisionByZero)

/-- The failure of a result that is too large. -/
def tooLarge {α : Type} : Outcome α := .error (.fault .overflow)

namespace Item

/-- A floating-point number that has to be finite. -/
def finite (f : Float) : Outcome Float := if f.isInf then tooLarge else .ok f

/-- The floating-point number that a number is. -/
def toFloat : Item → Outcome Float
  | float f => .ok f
  | absent _ cause => .error (.absent cause)
  | item =>
    match item.toInt? with
    | some i => finite (Decimal.quotient i 1)
    | .none => typeMismatch

/-- A power of two floating-point numbers. -/
def powerOf (f g : Float) : Outcome Item :=
  match Decimal.power f g with
  | .ok h => .ok (float h)
  | .error .zeroBase => divisionByZero
  | .error .tooLarge => tooLarge
  | .error .notReal => typeMismatch

/-- An operator on two integers. -/
def intArith (op : Operator) (i j : Int) : Outcome Item :=
  match op with
  | .add => .ok (int (i + j))
  | .sub => .ok (int (i - j))
  | .mul => .ok (int (i * j))
  | .div => if j == 0 then divisionByZero else float <$> finite (Decimal.quotient i j)
  | .floorDiv => if j == 0 then divisionByZero else .ok (int (i.fdiv j))
  | .mod => if j == 0 then divisionByZero else .ok (int (i.fmod j))
  | .pow =>
    if 0 ≤ j then .ok (int (i.pow j.toNat))
    else do
      let f ← finite (Decimal.quotient i 1)
      let g ← finite (Decimal.quotient j 1)
      powerOf f g

/-- An operator on two floating-point numbers. -/
def floatArith (op : Operator) (f g : Float) : Outcome Item :=
  match op with
  | .add => .ok (float (f + g))
  | .sub => .ok (float (f - g))
  | .mul => .ok (float (f * g))
  | .div => if g == 0 then divisionByZero else .ok (float (f / g))
  | .floorDiv => if g == 0 then divisionByZero else .ok (float (Decimal.floorQuotient f g))
  | .mod => if g == 0 then divisionByZero else .ok (float (Decimal.floorRemainder f g))
  | .pow => powerOf f g

/-- An operator on two numbers. -/
def numberArith (op : Operator) (left right : Item) : Outcome Item :=
  match left.toInt?, right.toInt? with
  | some i, some j => intArith op i j
  | _, _ => do
    let f ← left.toFloat
    let g ← right.toFloat
    floatArith op f g

/-- A number with its sign turned, or as it is. -/
def signed (negate : Bool) : Item → Outcome Item
  | absent _ cause => .error (.absent cause)
  | float f => .ok (float (if negate then -f else f))
  | item =>
    match item.toInt? with
    | some i => .ok (int (if negate then -i else i))
    | .none => typeMismatch

end Item

end Scriptorium.Template
