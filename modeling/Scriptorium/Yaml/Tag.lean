import Scriptorium.Yaml.Cursor

/-!
# Tags

What kind of value a node denotes. A tag can be written out. Without one a collection has the tag of
its form, a quoted scalar is a text, and the tag of a plain scalar is read off its spelling.
-/

set_option autoImplicit false
set_option relaxedAutoImplicit false

namespace Scriptorium.Yaml

/-- The kind of value that a node denotes. -/
inductive Tag where
  | text
  | null
  | bool
  | int
  | float
  | timestamp
  | binary
  | sequence
  | mapping
  | set
  | merge
  | value
  | unknown
  deriving DecidableEq, Repr

/-- What the handle of two exclamation marks stands for. -/
def commonStart : List Char := "tag:yaml.org,2002:".toList

/-- The tags that are known, without their common start. -/
def tagNames : List (String × Tag) :=
  [("str", .text), ("null", .null), ("bool", .bool), ("int", .int), ("float", .float),
   ("timestamp", .timestamp), ("binary", .binary), ("seq", .sequence), ("map", .mapping),
   ("set", .set), ("merge", .merge), ("value", .value)]

/-- The tags that are left out: those of lists of pairs. -/
def leftOutTags : List (List Char) :=
  ["omap", "pairs"].map fun name ↦ commonStart ++ name.toList

/-- The tag that is written out. -/
def Tag.ofText (text : List Char) : Tag :=
  match tagNames.find? fun (name, _) ↦ commonStart ++ name.toList == text with
  | some (_, tag) => tag
  | none => unknown

/-! ### Spellings of plain scalars -/

/-- The spellings of a truth value. -/
def boolSpellings : List String :=
  ["yes", "Yes", "YES", "no", "No", "NO", "true", "True", "TRUE", "false", "False", "FALSE",
   "on", "On", "ON", "off", "Off", "OFF"]

/-- The spellings of nothing. -/
def nullSpellings : List String := ["~", "null", "Null", "NULL", ""]

/-- The spellings of an infinite number. -/
def infinitySpellings : List String := [".inf", ".Inf", ".INF"]

/-- The spellings of what is not a number. -/
def nanSpellings : List String := [".nan", ".NaN", ".NAN"]

/-- A text without the sign that it may begin with. -/
def dropSign : List Char → List Char
  | '+' :: rest => rest
  | '-' :: rest => rest
  | text => text

/-- A digit or an underscore. -/
def isDigitOrBar (c : Char) : Bool := c.isDigit || c == '_'

/-- What follows groups of minutes or seconds, each of which is a colon and a number below sixty. -/
def afterGroups : Nat → List Char → List Char
  | 0, text => text
  | bound + 1, text =>
    match text with
    | ':' :: a :: b :: rest =>
      if a.isDigit && b.isDigit then
        if a ≤ '5' then afterGroups bound rest else text
      else if a.isDigit then afterGroups bound (b :: rest)
      else text
    | [':', a] => if a.isDigit then [] else text
    | _ => text

/-- Whether a text is a number of at least one digit, underscores allowed, and then groups of
minutes and seconds, of which there is at least one, and what follows has a property. -/
def isSexagesimal (isEnd : List Char → Bool) (text : List Char) : Bool :=
  let tail := text.dropWhile isDigitOrBar
  let after := afterGroups tail.length tail
  after.length < tail.length && isEnd after

/-- Whether a text is spelt like a whole number: binary, octal, decimal, hexadecimal, or in groups
of sixty. -/
def isInt (text : List Char) : Bool :=
  match dropSign text with
  | [] => false
  | ['0'] => true
  | '0' :: 'b' :: digits => !digits.isEmpty && digits.all fun c ↦ c == '0' || c == '1' || c == '_'
  | '0' :: 'x' :: digits =>
    !digits.isEmpty && digits.all fun c ↦ (hexValue? c).isSome || c == '_'
  | '0' :: digits => digits.all fun c ↦ ('0' ≤ c && c ≤ '7') || c == '_'
  | c :: rest => c.isDigit && (rest.all isDigitOrBar || isSexagesimal List.isEmpty rest)

/-- Whether a text is empty or an exponent, which has a sign. -/
def isExponent : List Char → Bool
  | [] => true
  | e :: sign :: digits =>
    (e == 'e' || e == 'E') && (sign == '+' || sign == '-') && !digits.isEmpty
      && digits.all Char.isDigit
  | _ => false

/-- Whether a text is a point, digits and an exponent, the last two of which may be missing. -/
def isFraction : List Char → Bool
  | '.' :: rest => isExponent (rest.dropWhile isDigitOrBar)
  | _ => false

/-- Whether a text is a point and digits. -/
def isPlainFraction : List Char → Bool
  | '.' :: rest => rest.all isDigitOrBar
  | _ => false

/-- Whether a text is spelt like a floating-point number. It has a point. -/
def isFloat (text : List Char) : Bool :=
  let unsigned := dropSign text
  let whole := match unsigned with
    | c :: rest =>
      c.isDigit && (isFraction (rest.dropWhile isDigitOrBar) || isSexagesimal isPlainFraction rest)
    | [] => false
  let fraction := match text with
    | '.' :: c :: rest => c.isDigit && isExponent (rest.dropWhile isDigitOrBar)
    | _ => false
  whole || fraction || infinitySpellings.contains (String.ofList unsigned)
    || nanSpellings.contains (String.ofList text)

end Scriptorium.Yaml
