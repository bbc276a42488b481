import Scriptorium.Decimal.Shortest

/-!
# Division of floating-point numbers

The remainder of a division that is rounded down, which has the sign of the divisor and is exact,
the quotient that goes with it, and powers, which have no value where the result is too large or no
real number.
-/

set_option autoImplicit false
set_option relaxedAutoImplicit false

namespace Scriptorium.Decimal

/-- Whether a number has a minus sign, as zero can. -/
def hasMinus (f : Float) : Bool := f.toBits.toNat / Nat.pow 2 63 == 1

/-- Zero with the sign of a number. -/
def zeroLike (f : Float) : Float := if hasMinus f then -0.0 else 0.0

/-- The magnitude of the remainder of two finite numbers, the second not zero. -/
def remainderMagnitude (f g : Float) : Float :=
  let a := Binary.ofFloat f
  let b := Binary.ofFloat g
  let common := min a.exponent b.exponent
  let m := a.mantissa * Nat.pow 2 (a.exponent - common).toNat
  let n := b.mantissa * Nat.pow 2 (b.exponent - common).toNat
  (Float.ofNat (m % n)).scaleB common

/-- The remainder of a division that is rounded toward zero, with the sign of the dividend. -/
def truncatedRemainder (f g : Float) : Float :=
  if f.isNaN || g.isNaN || f.isInf then 0.0 / 0.0
  else if g.isInf || f == 0 then f
  else
    let r := remainderMagnitude f g
    if hasMinus f then -r else r

/-- The remainder of a division that is rounded down, the divisor not zero. -/
def floorRemainder (f g : Float) : Float :=
  let r := truncatedRemainder f g
  if r == 0 then zeroLike g else if hasMinus g != hasMinus r then r + g else r

/-- The quotient rounded down, the divisor not zero. -/
def floorQuotient (f g : Float) : Float :=
  let r := truncatedRemainder f g
  let exact := (f - r) / g
  let below := if r != 0 && hasMinus g != hasMinus r then exact - 1 else exact
  if below == 0 then zeroLike (f / g)
  else if below - below.floor > 0.5 then below.floor + 1 else below.floor

/-- Whether a finite number is an odd whole number. -/
def isOdd (f : Float) : Bool :=
  match wholeNumber? f with
  | some i => i % 2 != 0
  | none => false

/-- Why a power has no value. -/
inductive PowerFault where
  | zeroBase
  | tooLarge
  | notReal
  deriving DecidableEq, Repr

/-- A power of a number. -/
def power (f g : Float) : Except PowerFault Float :=
  if g == 0 || f == 1 then .ok 1
  else if f.isNaN then .ok f
  else if g.isNaN then .ok g
  else if g.isInf then
    if f.abs == 1 then .ok 1 else if (g > 0) == (f.abs > 1) then .ok g.abs else .ok 0
  else if f.isInf then
    if g > 0 then .ok (if isOdd g then f else f.abs)
    else .ok (if isOdd g then zeroLike f else 0)
  else if f == 0 then
    if g < 0 then .error .zeroBase else .ok (if isOdd g then f else 0)
  else if f < 0 && g != g.floor then .error .notReal
  else
    let size := if f.abs == 1 then 1 else f.abs.pow g
    if size.isInf then .error .tooLarge
    else .ok (if f < 0 && isOdd g then -size else size)

end Scriptorium.Decimal
