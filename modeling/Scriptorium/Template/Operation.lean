import Scriptorium.Template.Conversion

/-!
# Operators on values

The operators of arithmetic on values of all kinds: texts and lists can be added and repeated, and a
text takes the operands of its conversions.
-/

set_option autoImplicit false
set_option relaxedAutoImplicit false

namespace Scriptorium.Template

namespace Item

/-- How often a sequence of `size` items is repeated, which must stay within bounds. -/
def repetitions (size : Nat) (times : Item) : Outcome Nat :=
  match times.toInt? with
  | .none => typeMismatch
  | some n =>
    if n < -(Nat.pow 2 63 : Int) || (Nat.pow 2 63 : Int) ≤ n then tooLarge
    else if widthLimit ≤ size * n.toNat then
      if Nat.pow 2 63 ≤ size * n.toNat then tooLarge else .error (.fault .outOfMemory)
    else .ok n.toNat

/-- A sequence so many times. -/
def repeated {α : Type} (items : List α) (times : Item) : Outcome (List α) := do
  return (List.replicate (← repetitions items.length times) items).flatten

/-- An operator on two values. -/
def arith (op : Operator) (left right : Item) : Outcome Item :=
  match op, left with
  | .mod, text s => text <$> convert s right
  | _, _ =>
    match absence? left right with
    | some cause => .error (.absent cause)
    | .none =>
      match op, left, right with
      | .add, text s, text t => .ok (text (s ++ t))
      | .add, bytes a, bytes b => .ok (bytes (a ++ b))
      | .add, list _ xs, list _ ys => .ok (list 0 (xs ++ ys))
      | .add, tuple xs, tuple ys => .ok (tuple (xs ++ ys))
      | .mul, text s, other | .mul, other, text s => text <$> repeated s other
      | .mul, bytes b, other | .mul, other, bytes b => bytes <$> repeated b other
      | .mul, list _ xs, other | .mul, other, list _ xs => list 0 <$> repeated xs other
      | .mul, tuple xs, other | .mul, other, tuple xs => tuple <$> repeated xs other
      | op, left, right => numberArith op left right

end Item

end Scriptorium.Template
