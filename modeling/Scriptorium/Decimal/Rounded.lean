import Scriptorium.Decimal.Layout

/-!
# Numbers with so many places

A number set out with a given number of places after the point, with an exponent or without, or in
whichever of the two a given number of digits calls for. The digits are those of the nearest
decimal, of two equally near ones that with the even last digit.
-/

set_option autoImplicit false
set_option relaxedAutoImplicit false

namespace Scriptorium.Decimal

/-- A quotient rounded to the nearest whole number, halves to the even one. -/
def roundHalfEven (num den : Nat) : Nat :=
  let below := num / den
  let twice := 2 * (num % den)
  if twice < den then below
  else if den < twice then below + 1
  else if below % 2 == 0 then below else below + 1

/-- The quotient in steps of `10 ^ exponent`, rounded to the nearest. -/
def Ratio.roundAt (r : Ratio) (exponent : Int) : Nat :=
  if 0 ≤ exponent then roundHalfEven r.num (r.den * Nat.pow 10 exponent.toNat)
  else roundHalfEven (r.num * Nat.pow 10 (-exponent).toNat) r.den

/-- The magnitude of a finite number as a quotient. -/
def ratioOf (f : Float) : Ratio := if f == 0 then ⟨0, 1⟩ else (Binary.ofFloat f).value

/-- At least `width` digits of a number. -/
def digitsOf (width n : Nat) : List Char :=
  let digits := Nat.toDigits 10 n
  List.replicate (width - digits.length) '0' ++ digits

/-- Digits with a point before the last `places` of them; no point before none of them but on
request. -/
def withPoint (places : Nat) (point : Bool) (digits : List Char) : List Char :=
  let whole := digits.take (digits.length - places)
  if places == 0 && !point then whole else whole ++ '.' :: digits.drop (digits.length - places)

/-- A number with `places` places. -/
def fixedText (places : Nat) (point : Bool) (f : Float) : List Char :=
  withPoint places point (digitsOf (places + 1) ((ratioOf f).roundAt (-(places : Int))))

/-- The `count` first digits of a number and the power of ten of the first. -/
def leadingDigits (count : Nat) (f : Float) : List Char × Int :=
  let r := ratioOf f
  if r.num == 0 then (List.replicate count '0', 0)
  else
    let digits := Nat.toDigits 10 (r.roundAt (r.magnitude - (count - 1 : Int)))
    if count < digits.length then (digits.take count, r.magnitude + 1) else (digits, r.magnitude)

/-- A number with `places` places after its first digit, and an exponent. -/
def exponentText (places : Nat) (point : Bool) (f : Float) : List Char :=
  let (digits, e) := leadingDigits (places + 1) f
  withPoint places point digits ++ general.exponent e

/-- Digits without the zeros at the end of their places, and without a point that nothing
follows. -/
def dropPlaceZeros (text : List Char) : List Char :=
  if text.contains '.' then
    let rest := text.reverse.dropWhile (· == '0')
    (if rest.head? == some '.' then rest.drop 1 else rest).reverse
  else text

/-- A number with `count` digits: with an exponent if it is below `0.0001` or has more than
`greatest` places before the point. Zeros at the end are left out unless asked for. -/
def generalText (count : Nat) (greatest : Int) (keepZeros : Bool) (f : Float) : List Char :=
  let (digits, e) := leadingDigits count f
  let trimmed (text : List Char) : List Char := if keepZeros then text else dropPlaceZeros text
  if e < -4 || greatest ≤ e then
    trimmed (withPoint (count - 1) keepZeros digits) ++ general.exponent e
  else if e < 0 then
    trimmed ('0' :: '.' :: List.replicate (e.natAbs - 1) '0' ++ digits)
  else trimmed (withPoint (count - 1 - e.toNat) keepZeros digits)

end Scriptorium.Decimal
