import Scriptorium.Decimal.Shortest

/-!
# How a number is written

A layout says how the digits of a number are set out: which magnitudes are written in positional
notation, and what stands in an exponent. `general` is the layout of every number that this library
writes.
-/

set_option autoImplicit false
set_option relaxedAutoImplicit false

namespace Scriptorium.Decimal

/-- The choices of a layout. -/
structure Layout where
  /-- the greatest number of digits before the point in positional notation -/
  greatestPlace : Int
  /-- the least, counted negative for zeros after the point -/
  leastPlace : Int
  /-- the least number of digits of an exponent -/
  exponentWidth : Nat
  infinity : String
  notANumber : String

/-- Positional notation from `0.0001` up to below `10 ^ 16`, and exponents with a sign and two
digits. -/
def general : Layout := ⟨16, -3, 2, "inf", "nan"⟩

/-- A whole number in decimal digits. -/
def natText (n : Nat) : String := String.ofList (Nat.toDigits 10 n)

/-- An integer in decimal digits, a minus sign before a negative one. -/
def intText (i : Int) : String :=
  if i < 0 then "-" ++ natText i.natAbs else natText i.natAbs

/-- How many decimal digits a whole number can have that is read or written. -/
def digitLimit : Nat := 4300

/-- Whether a whole number has few enough digits to be written. -/
def isWritable (i : Int) : Bool := i.natAbs < Nat.pow 10 digitLimit

/-- Digits without the zeros at their end. -/
def dropTrailingZeros (digits : List Char) : List Char :=
  (digits.reverse.dropWhile (· == '0')).reverse

/-- An exponent: its sign and at least the layout's number of digits. -/
def Layout.exponent (l : Layout) (e : Int) : List Char :=
  let digits := Nat.toDigits 10 e.natAbs
  'e' :: (if e < 0 then '-' else '+')
    :: List.replicate (l.exponentWidth - digits.length) '0' ++ digits

/-- Digits with the point after `place` of them. -/
def Layout.setOut (l : Layout) (digits : List Char) (place : Int) : List Char :=
  if l.leastPlace ≤ place && place ≤ l.greatestPlace then
    if place ≤ 0 then '0' :: '.' :: List.replicate place.natAbs '0' ++ digits
    else if digits.length ≤ place.natAbs then
      digits ++ List.replicate (place.natAbs - digits.length) '0' ++ ['.', '0']
    else digits.take place.natAbs ++ '.' :: digits.drop place.natAbs
  else
    match digits with
    | [d] => d :: l.exponent (place - 1)
    | d :: rest => d :: '.' :: rest ++ l.exponent (place - 1)
    | [] => []

/-- The text of a floating-point number. -/
def Layout.text (l : Layout) (f : Float) : String :=
  let sign := if f.toBits.toNat / Nat.pow 2 63 == 1 then "-" else ""
  if f.isNaN then l.notANumber
  else if f.isInf then sign ++ l.infinity
  else if f == 0 then sign ++ "0.0"
  else
    let number := (Binary.ofFloat f).shortest
    let digits := Nat.toDigits 10 number.digits
    sign ++ String.ofList (l.setOut (dropTrailingZeros digits) (number.exponent + digits.length))

/-- The text of a floating-point number in the general layout. -/
def floatText (f : Float) : String := general.text f

end Scriptorium.Decimal
