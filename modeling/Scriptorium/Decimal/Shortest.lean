/-!
# The shortest decimal of a binary number

Among the decimals that round to a given binary floating-point number, the one with the fewest
digits, and of two such the nearer. The search runs over grids: at `n` digits only the two
neighbours of the number on the grid of its `n`-th digit can be the answer, and seventeen digits
always suffice.
-/

set_option autoImplicit false
set_option relaxedAutoImplicit false

namespace Scriptorium.Decimal

/-- The positive number `mantissa · 2 ^ exponent`. Its predecessor is only half as far as its
successor if `narrow`. -/
structure Binary where
  mantissa : Nat
  exponent : Int
  narrow : Bool

/-- The positive number `digits · 10 ^ exponent`. -/
structure Scientific where
  digits : Nat
  exponent : Int
  deriving Repr, DecidableEq

/-- A quotient of natural numbers. -/
structure Ratio where
  num : Nat
  den : Nat

/-- `n · base ^ e` as a quotient. -/
def Ratio.scaled (n base : Nat) (e : Int) : Ratio :=
  if 0 ≤ e then ⟨n * base.pow e.toNat, 1⟩ else ⟨n, base.pow (-e).toNat⟩

/-- Whether one quotient is less than another. -/
def Ratio.lt (a b : Ratio) : Bool := a.num * b.den < b.num * a.den

/-- The number as a quotient. -/
def Binary.value (b : Binary) : Ratio := .scaled b.mantissa 2 b.exponent

/-- The least number that could round to `b`. -/
def Binary.lower (b : Binary) : Ratio :=
  if b.narrow then .scaled (4 * b.mantissa - 1) 2 (b.exponent - 2)
  else .scaled (2 * b.mantissa - 1) 2 (b.exponent - 1)

/-- The greatest number that could round to `b`. -/
def Binary.upper (b : Binary) : Ratio := .scaled (2 * b.mantissa + 1) 2 (b.exponent - 1)

/-- Whether a number rounds to `b`: the ends of the interval do so exactly if the mantissa is
even. -/
def Binary.roundsHere (b : Binary) (r : Ratio) : Bool :=
  if b.mantissa % 2 == 0 then !r.lt b.lower && !b.upper.lt r
  else b.lower.lt r && r.lt b.upper

/-- The quotient as a decimal with a whole number of steps of `10 ^ exponent`, rounded down. -/
def Ratio.floorAt (r : Ratio) (exponent : Int) : Nat :=
  if 0 ≤ exponent then r.num / (r.den * Nat.pow 10 exponent.toNat)
  else r.num * Nat.pow 10 (-exponent).toNat / r.den

/-- How far a number below one is from its first digit: the least `j < fuel` with `10 ^ j · r ≥
1`. -/
def Ratio.leadingZeros (r : Ratio) : Nat → Nat
  | 0 => 0
  | fuel + 1 => if r.num < r.den then (Ratio.mk (r.num * 10) r.den).leadingZeros fuel + 1 else 0

/-- The power of ten of the first digit. -/
def Ratio.magnitude (r : Ratio) : Int :=
  if r.num < r.den then -(r.leadingZeros 400 : Int)
  else ((Nat.toDigits 10 (r.num / r.den)).length : Int) - 1

/-- The answer on the grid of steps `10 ^ exponent`, if there is one. -/
def Binary.onGrid? (b : Binary) (exponent : Int) : Option Scientific :=
  let below := b.value.floorAt exponent
  let point (n : Nat) : Ratio := .scaled n 10 exponent
  match b.roundsHere (point below), b.roundsHere (point (below + 1)) with
  | true, true =>
    -- the nearer: twice the number against the sum of its neighbours
    if (Ratio.mk (2 * b.value.num) b.value.den).lt (.scaled (2 * below + 1) 10 exponent) then
      some ⟨below, exponent⟩
    else some ⟨below + 1, exponent⟩
  | true, false => some ⟨below, exponent⟩
  | false, true => some ⟨below + 1, exponent⟩
  | false, false => none

/-- The first answer among the grids of `digits`, `digits + 1`, … digits. -/
def Binary.search (b : Binary) (magnitude : Int) (digits : Nat) : Nat → Scientific
  | 0 => ⟨b.value.floorAt (magnitude - 16), magnitude - 16⟩
  | fuel + 1 =>
    match b.onGrid? (magnitude - (digits - 1 : Int)) with
    | some answer => answer
    | none => b.search magnitude (digits + 1) fuel

/-- The shortest decimal that rounds to `b`. -/
def Binary.shortest (b : Binary) : Scientific := b.search b.value.magnitude 1 17

/-- The magnitude of a finite double-precision number that is not zero. -/
def Binary.ofFloat (f : Float) : Binary :=
  let bits : Nat := f.toBits.toNat
  let fraction : Nat := bits % Nat.pow 2 52
  let biased : Nat := bits / Nat.pow 2 52 % Nat.pow 2 11
  if biased == 0 then ⟨fraction, -1074, false⟩
  else ⟨fraction + Nat.pow 2 52, (biased : Int) - 1075, fraction == 0 && 1 < biased⟩

/-- The whole number that a floating-point number is, if it is one. -/
def wholeNumber? (f : Float) : Option Int :=
  if f.isNaN || f.isInf then none
  else if f == 0 then some 0
  else
    let r := (Binary.ofFloat f).value
    if r.num % r.den == 0 then
      some (if f < 0 then -(r.num / r.den : Nat) else (r.num / r.den : Nat))
    else none

/-- The floating-point number nearest to a decimal. -/
def Scientific.toFloat (s : Scientific) : Float :=
  let size : Int := (Nat.toDigits 10 s.digits).length + s.exponent
  if s.digits == 0 || size < -330 then 0
  else if 310 < size then 1 / 0
  else if 0 ≤ s.exponent then Float.ofScientific s.digits false s.exponent.toNat
  else Float.ofScientific s.digits true (-s.exponent).toNat

/-- How a whole number compares with a floating-point number; not at all with one that is no
number. -/
def compareWhole (i : Int) (f : Float) : Option Ordering :=
  if f.isNaN then none
  else if f.isInf then some (if f < 0 then .gt else .lt)
  else if f == 0 then some (compare i 0)
  else
    let r := (Binary.ofFloat f).value
    let num : Int := if f < 0 then -(r.num : Int) else r.num
    some (compare (i * r.den) num)

/-- The floating-point number nearest to a quotient of whole numbers, the second not zero. -/
def quotient (a b : Int) : Float :=
  let magnitude :=
    if a.natAbs < Nat.pow 2 53 && b.natAbs < Nat.pow 2 53 then
      Float.ofNat a.natAbs / Float.ofNat b.natAbs
    else
      -- at least thirty digits of the quotient, and one more that stands for the rest
      let shift := 30 + (Nat.toDigits 10 b.natAbs).length
      let scaled := a.natAbs * Nat.pow 10 shift
      let rest := if scaled % b.natAbs == 0 then 0 else 1
      Scientific.toFloat ⟨scaled / b.natAbs * 10 + rest, -(shift : Int) - 1⟩
  if (a < 0) != (b < 0) then -magnitude else magnitude

end Scriptorium.Decimal
