import Scriptorium.Decimal.Layout
import Scriptorium.Text.Blank
import Scriptorium.Text.Digit
import Scriptorium.Text.Lowercase
import Scriptorium.Yaml.Tag

/-!
# Numbers

What the text of a number denotes. Underscores do not count, and parts between colons are places of
base sixty. A text that was tagged as a number need not be one.
-/

set_option autoImplicit false
set_option relaxedAutoImplicit false

namespace Scriptorium.Yaml

/-- The failure of a text that is no number. -/
def notNumber {α : Type} : Outcome α := .error (.fault .badValue)

/-- Whether a text begins with a minus sign. -/
def isNegative (text : List Char) : Bool := text.head? == some '-'

/-- The value of a digit, for which letters can stand beyond nine. -/
def placeValue? (c : Char) : Option Nat :=
  match Text.digitValue? c with
  | some n => some n
  | none =>
    if 'a' ≤ c && c ≤ 'z' then some (c.toNat - 87)
    else if 'A' ≤ c && c ≤ 'Z' then some (c.toNat - 55)
    else none

/-- The number that digits of a base write. -/
def inBase? (base : Nat) (digits : List Char) : Option Nat :=
  digits.foldlM (fun n c ↦
    match placeValue? c with
    | some d => if d < base then some (n * base + d) else none
    | none => none) 0

/-- The letter that can follow a zero before the digits of a base. -/
def baseLetter? : Nat → Option Char
  | 2 => some 'b'
  | 8 => some 'o'
  | 16 => some 'x'
  | _ => none

/-- Digits without the zero and the letter of their base. -/
def dropBaseMark (base : Nat) (text : List Char) : List Char :=
  match text with
  | '0' :: c :: rest => if some c.toLower == baseLetter? base then rest else text
  | _ => text

/-- A blank that can stand around a number. The four separators of information are none. -/
def isNumberBlank (c : Char) : Bool := Text.isBlank c && !(0x1c ≤ c.toNat && c.toNat ≤ 0x1f)

/-- A text without the blanks around a number. -/
def trimNumber (text : List Char) : List Char :=
  Text.trimRightWhile isNumberBlank (text.dropWhile isNumberBlank)

/-- A whole number in a base: blanks around it, a sign, and the mark of the base are allowed. -/
def wholeNumber (base : Nat) (text : List Char) : Outcome Int :=
  let text := trimNumber text
  let digits := dropBaseMark base (dropSign text)
  if digits.isEmpty || (base == 10 && Decimal.digitLimit < digits.length) then notNumber
  else
    match inBase? base digits with
    | some n => .ok (if isNegative text then -(n : Int) else n)
    | none => notNumber

/-- The parts of a text between colons. -/
def colonParts : List Char → List (List Char)
  | [] => [[]]
  | c :: rest =>
    if c == ':' then [] :: colonParts rest
    else
      match colonParts rest with
      | part :: parts => (c :: part) :: parts
      | [] => [[c]]

/-- A text without underscores. -/
def dropBars (text : List Char) : List Char := text.filter (· != '_')

/-- The whole number that a text denotes. -/
def intOf (text : List Char) : Outcome Int := do
  let signed := dropBars text
  let sign : Int := if isNegative signed then -1 else 1
  match dropSign signed with
  | [] => .error (.fault .noElement)
  | ['0'] => return 0
  | '0' :: 'b' :: digits => return sign * (← wholeNumber 2 digits)
  | '0' :: 'x' :: digits => return sign * (← wholeNumber 16 digits)
  | '0' :: digits => return sign * (← wholeNumber 8 ('0' :: digits))
  | unsigned =>
    let parts ← (colonParts unsigned).mapM (wholeNumber 10)
    return sign * parts.foldl (fun n part ↦ n * 60 + part) 0

/-- An exponent, to the end of the text. -/
def exponent? : List Char → Option Int
  | [] => some 0
  | e :: rest =>
    if e == 'e' then
      let digits := dropSign rest
      if digits.isEmpty then none
      else (inBase? 10 digits).map fun n ↦ if isNegative rest then -(n : Int) else n
    else none

/-- A decimal number without a sign, in lower case. -/
def decimal? (text : List Char) : Option Decimal.Scientific := do
  let whole := text.takeWhile Text.isDigit
  let rest := text.dropWhile Text.isDigit
  let (fraction, rest) := match rest with
    | '.' :: more => (more.takeWhile Text.isDigit, more.dropWhile Text.isDigit)
    | _ => ([], rest)
  if whole.isEmpty && fraction.isEmpty then none
  else
    let exponent ← exponent? rest
    return ⟨← inBase? 10 (whole ++ fraction), exponent - fraction.length⟩

/-- A floating-point number, in lower case: blanks around it and a sign are allowed. -/
def floatNumber (text : List Char) : Outcome Float :=
  let text := trimNumber text
  let unsigned := dropSign text
  let magnitude := match String.ofList unsigned with
    | "inf" | "infinity" => some (1 / 0)
    | "nan" => some (0 / 0)
    | _ => (decimal? unsigned).map Decimal.Scientific.toFloat
  match magnitude with
  | some f => .ok (if isNegative text then -f else f)
  | none => notNumber

/-- The number that places of base sixty write, the highest first. -/
def sexagesimal (places : List Float) : Float :=
  (places.reverse.foldl (fun (sum, base) place ↦ (sum + place * Float.ofNat base, base * 60))
    ((0 : Float), 1)).1

/-- How many places of base sixty a floating-point number can have. -/
def placeLimit : Nat := 174

/-- The floating-point number that a text without its first sign denotes. -/
def floatMagnitude (text : List Char) : Outcome Float :=
  match String.ofList text with
  | ".inf" => .ok (1 / 0)
  | ".nan" => .ok (0 / 0)
  | _ => do
    match ← (colonParts text).mapM floatNumber with
    | [f] => return f
    | places =>
      if placeLimit < places.length then throw (.fault .overflow) else return sexagesimal places

/-- The floating-point number that a text denotes. A sign before it counts besides that of the
number. -/
def floatOf (text : List Char) : Outcome Float :=
  let signed := Text.lowercase (dropBars text)
  if signed.isEmpty then .error (.fault .noElement)
  else (if isNegative signed then (-·) else id) <$> floatMagnitude (dropSign signed)

end Scriptorium.Yaml
