import Scriptorium.Decimal.Rounded
import Scriptorium.Template.Arithmetic

/-!
# Fields

Setting out a value in a field: its text with a sign, a mark for its base, a least width and what
fills it. Both ways of writing values into a text, by percent signs and by braces, rest on the
numbers made here.
-/

set_option autoImplicit false
set_option relaxedAutoImplicit false

namespace Scriptorium.Template

/-- A number as it is written: whether it is negative, the mark of its base, and its digits. -/
structure Numeral where
  negative : Bool
  mark : List Char
  digits : List Char

/-- More characters than this a field cannot have. -/
def widthLimit : Nat := Nat.pow 10 9

/-- A width, unless it is beyond all bounds. -/
def checkedWidth (width : Nat) : Outcome Nat :=
  if width < widthLimit then .ok width
  else if width < Nat.pow 2 63 then .error (.fault .outOfMemory) else badValue

/-- A whole number with at least `least` digits of a base, and the base's mark if asked for. -/
def Numeral.ofInt (base least : Nat) (marked upper : Bool) (i : Int) : Numeral :=
  let digits := Nat.toDigits base i.natAbs
  let letter := if base == 2 then 'b' else if base == 8 then 'o' else 'x'
  let raise (text : List Char) : List Char := if upper then text.map Char.toUpper else text
  { negative := i < 0
    mark := if marked && base != 10 then raise ['0', letter] else []
    digits := List.replicate (least - digits.length) '0' ++ raise digits }

/-- How a floating-point number is written: with places, with an exponent, or with so many
digits. -/
inductive FloatStyle where
  | fixed
  | exponent
  | general (greatest : Int)

/-- A floating-point number in a style. A point with nothing after it is written on request, as are
zeros that the general style leaves out. -/
def Numeral.ofFloat (style : FloatStyle) (precision : Nat) (full upper : Bool) (f : Float) :
    Numeral :=
  let text : List Char :=
    if f.isNaN then ['n', 'a', 'n']
    else if f.isInf then ['i', 'n', 'f']
    else
      match style with
      | .fixed => Decimal.fixedText precision full f
      | .exponent => Decimal.exponentText precision full f
      | .general greatest => Decimal.generalText (max precision 1) greatest full f
  { negative := !f.isNaN && Decimal.hasMinus f
    mark := []
    digits := if upper then text.map Char.toUpper else text }

/-- The floating-point number cut off to a whole one. -/
def Item.truncated (f : Float) : Outcome Int :=
  if f.isNaN then badValue
  else if f.isInf then tooLarge
  else
    let r := Decimal.ratioOf f
    .ok (if Decimal.hasMinus f then -(r.num / r.den : Nat) else (r.num / r.den : Nat))

/-- The character with a code point. -/
def characterOf (i : Int) : Outcome (List Char) :=
  if 0 ≤ i && i < 0x110000 then .ok (Text.ofCode i.toNat) else tooLarge

end Scriptorium.Template
