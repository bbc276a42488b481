import Scriptorium.Decimal.Layout

/-!
# Dates and times

Days of the calendar and times of day with an optional distance from universal time, how they are
written, and which of them denote the same instant.
-/

set_option autoImplicit false
set_option relaxedAutoImplicit false

namespace Scriptorium

/-- A day of the calendar. -/
structure Date where
  year : Nat
  month : Nat
  day : Nat
  deriving DecidableEq, Repr

/-- A time on a day; `offset` is its distance from universal time in seconds, if it is known. -/
structure Instant where
  date : Date
  hour : Nat
  minute : Nat
  second : Nat
  microsecond : Nat
  offset : Option Int
  deriving DecidableEq, Repr

/-- A number with zeros before it up to a width. -/
def padded (width n : Nat) : String :=
  let digits := Nat.toDigits 10 n
  String.ofList (List.replicate (width - digits.length) '0' ++ digits)

namespace Date

/-- Whether a year has a twenty-ninth of February. -/
def isLeap (year : Nat) : Bool := year % 4 == 0 && (year % 100 != 0 || year % 400 == 0)

/-- How many days a month has. -/
def monthLength (year month : Nat) : Nat :=
  if month == 2 then if isLeap year then 29 else 28
  else if [4, 6, 9, 11].contains month then 30 else 31

/-- Whether the calendar has the day, in the years from 1 to 9999. -/
def isValid (d : Date) : Bool :=
  1 ≤ d.year && d.year ≤ 9999 && 1 ≤ d.month && d.month ≤ 12
    && 1 ≤ d.day && d.day ≤ monthLength d.year d.month

/-- Days since the first of January of the year 1. -/
def number (d : Date) : Nat :=
  let y := d.year - 1
  365 * y + y / 4 - y / 100 + y / 400
    + (List.range (d.month - 1)).foldl (fun days m ↦ days + monthLength d.year (m + 1)) 0
    + (d.day - 1)

/-- The day that is a number of days after the first of January of the year 1. -/
def ofNumber (days : Nat) : Date :=
  -- counted from the first of March of the year 0, so that a leap day ends its year
  let n := days + 306
  let era := n / 146097
  let inEra := n % 146097
  let yearOfEra := (inEra - inEra / 1460 + inEra / 36524 - inEra / 146096) / 365
  let inYear := inEra - (365 * yearOfEra + yearOfEra / 4 - yearOfEra / 100)
  let monthFromMarch := (5 * inYear + 2) / 153
  let month := if monthFromMarch < 10 then monthFromMarch + 3 else monthFromMarch - 9
  ⟨yearOfEra + era * 400 + (if month ≤ 2 then 1 else 0), month,
    inYear - (153 * monthFromMarch + 2) / 5 + 1⟩

/-- Year, month and day with hyphens between them. -/
def text (d : Date) : String :=
  padded 4 d.year ++ "-" ++ padded 2 d.month ++ "-" ++ padded 2 d.day

/-- Year, month and day with hyphens between them, the year without zeros before it. -/
def shortText (d : Date) : String :=
  Decimal.natText d.year ++ "-" ++ padded 2 d.month ++ "-" ++ padded 2 d.day

/-- How the day is shown inside a list. -/
def shown (d : Date) : String :=
  "datetime.date(" ++ Decimal.natText d.year ++ ", " ++ Decimal.natText d.month ++ ", "
    ++ Decimal.natText d.day ++ ")"

end Date

namespace Instant

/-- Whether the calendar and the clock have the time. -/
def isValid (t : Instant) : Bool :=
  t.date.isValid && t.hour < 24 && t.minute < 60 && t.second < 60
    && match t.offset with
      | none => true
      | some s => -86400 < s && s < 86400

/-- A distance from universal time: sign, hours, minutes, and seconds if there are any. -/
def offsetText (s : Int) : String :=
  let n := s.natAbs
  (if s < 0 then "-" else "+") ++ padded 2 (n / 3600) ++ ":" ++ padded 2 (n / 60 % 60)
    ++ if n % 60 == 0 then "" else ":" ++ padded 2 (n % 60)

/-- Date and time of day with a blank between them. -/
def text (t : Instant) : String :=
  t.date.text ++ " " ++ padded 2 t.hour ++ ":" ++ padded 2 t.minute ++ ":" ++ padded 2 t.second
    ++ (if t.microsecond == 0 then "" else "." ++ padded 6 t.microsecond)
    ++ (t.offset.map offsetText).getD ""

/-- How a distance from universal time is shown: whole days, and seconds counted forward. -/
def offsetShown (s : Int) : String :=
  if s == 0 then "datetime.timezone.utc"
  else
    let seconds := Decimal.natText (s % 86400).toNat
    "datetime.timezone(datetime.timedelta("
      ++ (if s < 0 then "days=-1, seconds=" ++ seconds else "seconds=" ++ seconds) ++ "))"

/-- How the time is shown inside a list. -/
def shown (t : Instant) : String :=
  let parts := [t.date.year, t.date.month, t.date.day, t.hour, t.minute]
    ++ (if t.second == 0 && t.microsecond == 0 then [] else [t.second])
    ++ (if t.microsecond == 0 then [] else [t.microsecond])
  "datetime.datetime(" ++ String.intercalate ", " (parts.map Decimal.natText)
    ++ (t.offset.map fun s ↦ ", tzinfo=" ++ offsetShown s).getD "" ++ ")"

/-- Microseconds since the start of the year 1, in universal time if the distance is known. -/
def moment (t : Instant) : Int :=
  let seconds : Int := t.date.number * 86400 + t.hour * 3600 + t.minute * 60 + t.second
  (seconds - t.offset.getD 0) * 1000000 + t.microsecond

/-- Whether two times denote the same instant; a time with a known distance and one without never
do. -/
def same (t u : Instant) : Bool := t.offset.isSome == u.offset.isSome && t.moment == u.moment

end Instant

end Scriptorium
