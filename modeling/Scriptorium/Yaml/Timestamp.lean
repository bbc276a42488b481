import Scriptorium.Calendar
import Scriptorium.Yaml.Cursor

/-!
# Timestamps

The spelling of days and times. A day has a year of four digits; a day alone that is not tagged has
two digits for the month and the day as well. A time can have a fraction of a second and a distance
from universal time.
-/

set_option autoImplicit false
set_option relaxedAutoImplicit false

namespace Scriptorium.Yaml

/-- A distance from universal time: none at all, or a sign with hours and minutes. -/
inductive Zone where
  | universal
  | offset (isNegative : Bool) (hour minute : Nat)
  deriving DecidableEq, Repr

/-- The time of a day as it is spelt. -/
structure ClockSpelling where
  hour : Nat
  minute : Nat
  second : Nat
  fraction : List Char
  zone : Option Zone
  deriving DecidableEq, Repr

/-- A day or a time as it is spelt, which the calendar need not have. -/
structure TimestampSpelling where
  year : Nat
  month : Nat
  day : Nat
  clock : Option ClockSpelling
  deriving DecidableEq, Repr

/-- The value of decimal digits. -/
def digitsValue (digits : List Char) : Nat := digits.foldl (fun n c ↦ n * 10 + (c.toNat - 48)) 0

/-- A number of a certain count of digits. -/
def exactDigits? (count : Nat) (text : List Char) : Option (Nat × List Char) :=
  let digits := text.take count
  if digits.length == count && digits.all Char.isDigit then
    some (digitsValue digits, text.drop count)
  else none

/-- A number of one digit or two. -/
def fewDigits? (text : List Char) : Option (Nat × List Char) :=
  (exactDigits? 2 text).or (exactDigits? 1 text)

/-- The text after a character that it begins with. -/
def after? (c : Char) : List Char → Option (List Char)
  | d :: rest => if d == c then some rest else none
  | [] => none

/-- A distance from universal time, to the end of the text. -/
def zone? (text : List Char) : Option (Option Zone) :=
  match text.dropWhile isGap with
  | [] => if text.isEmpty then some none else none
  | ['Z'] => some (some .universal)
  | c :: rest => do
    let isNegative ← if c == '-' then some true else if c == '+' then some false else none
    let (hour, rest) ← fewDigits? rest
    match rest with
    | [] => return some (.offset isNegative hour 0)
    | _ =>
      let (minute, rest) ← exactDigits? 2 (← after? ':' rest)
      if rest.isEmpty then return some (.offset isNegative hour minute) else none

/-- A time of day, to the end of the text. -/
def clock? (text : List Char) : Option ClockSpelling := do
  let (hour, rest) ← fewDigits? text
  let (minute, rest) ← exactDigits? 2 (← after? ':' rest)
  let (second, rest) ← exactDigits? 2 (← after? ':' rest)
  let (fraction, rest) := match rest with
    | '.' :: digits => (digits.takeWhile Char.isDigit, digits.dropWhile Char.isDigit)
    | _ => ([], rest)
  return ⟨hour, minute, second, fraction, ← zone? rest⟩

/-- The text after what stands between a day and a time. -/
def afterDay? : List Char → Option (List Char)
  | c :: rest =>
    if c == 'T' || c == 't' then some rest
    else if isGap c then some (rest.dropWhile isGap)
    else none
  | [] => none

/-- The timestamp that a text spells. -/
def timestamp? (text : List Char) : Option TimestampSpelling := do
  let (year, rest) ← exactDigits? 4 text
  let (month, rest) ← fewDigits? (← after? '-' rest)
  let (day, rest) ← fewDigits? (← after? '-' rest)
  if rest.isEmpty then return ⟨year, month, day, none⟩
  else return ⟨year, month, day, some (← clock? (← afterDay? rest))⟩

/-- Whether a text that is not tagged is spelt like a timestamp. -/
def isTimestamp (text : List Char) : Bool :=
  match timestamp? text with
  | some spelling => spelling.clock.isSome || text.length == 10
  | none => false

/-- The microseconds that the digits of a fraction stand for. Digits after the sixth do not
count. -/
def microseconds (fraction : List Char) : Nat :=
  digitsValue ((fraction ++ List.replicate 6 '0').take 6)

/-- The distance from universal time in seconds. -/
def Zone.seconds : Zone → Int
  | universal => 0
  | offset isNegative hour minute =>
    let seconds : Int := hour * 3600 + minute * 60
    if isNegative then -seconds else seconds

end Scriptorium.Yaml
