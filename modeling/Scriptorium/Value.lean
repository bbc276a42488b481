import Scriptorium.Calendar
import Scriptorium.Text.Quoted

/-!
# Raw values

What a document holds before it is read as a definition: scalars, lists and mappings that keep the
order of their entries. A value has a plain text (`Value.plain`), which is what an argument of a
call becomes, and a shown form (`Value.shown`), which is how it stands inside a list. A collection
that contains itself has a number and is written out for some rounds; where it comes again inside
itself it is shown by dots.
-/

set_option autoImplicit false
set_option relaxedAutoImplicit false

namespace Scriptorium

/-- A raw value. A `knot` is a list or a mapping that contains itself. -/
inductive Value where
  | null
  | bool (value : Bool)
  | int (value : Int)
  | float (value : Float)
  | text (value : String)
  | list (items : List Value)
  | map (entries : List (Value × Value))
  | date (value : Date)
  | instant (value : Instant)
  | bytes (value : List UInt8)
  | set (items : List Value)
  | knot (number : Nat) (content : Value)
  deriving Inhabited

/-- A text between quotes, its special characters escaped. -/
def shownText (s : String) : String := String.ofList (Text.quoted s.toList)

/-- The two hexadecimal digits of a byte, after a backslash and an `x`, or the printable
character. -/
def shownByte (quote : Char) (b : UInt8) : List Char :=
  if b.toNat < 127 then Text.quotedCode quote b.toNat else Text.escapeCode b.toNat

/-- A string of bytes between quotes. -/
def shownBytes (bytes : List UInt8) : String :=
  let quote := Text.quoteFor (bytes.map fun b ↦ Char.ofNat b.toNat)
  String.ofList ('b' :: quote :: bytes.flatMap (shownByte quote) ++ [quote])

namespace Value

/-- The value itself, where it is a knot its content. -/
def bare : Value → Value
  | knot _ content => content
  | v => v

/-- The number of a knot. -/
def numbers : Value → List Nat
  | knot number _ => [number]
  | _ => []

/-- How a collection is shown inside itself. -/
def dots : Value → String
  | map _ => "\x7b...\x7d"
  | _ => "[...]"

mutual

/-- How a value stands inside the knots with some numbers. -/
def shownWithin (knots : List Nat) : Value → String
  | null => "None"
  | bool true => "True"
  | bool false => "False"
  | int i => Decimal.intText i
  | float f => Decimal.floatText f
  | text s => shownText s
  | list items => "[" ++ String.intercalate ", " (shownItems knots items) ++ "]"
  | map entries => "\x7b" ++ String.intercalate ", " (shownEntries knots entries) ++ "\x7d"
  | date d => d.shown
  | instant t => t.shown
  | bytes b => shownBytes b
  | set items =>
    match shownItems knots items with
    | [] => "set()"
    | parts => "\x7b" ++ String.intercalate ", " parts ++ "\x7d"
  | knot number content =>
    if knots.contains number then content.dots else content.shownWithin (number :: knots)

/-- The shown forms of the items of a list. -/
def shownItems (knots : List Nat) : List Value → List String
  | [] => []
  | v :: rest => v.shownWithin knots :: shownItems knots rest

/-- The shown forms of the entries of a mapping. -/
def shownEntries (knots : List Nat) : List (Value × Value) → List String
  | [] => []
  | (k, v) :: rest =>
    (k.shownWithin knots ++ ": " ++ v.shownWithin knots) :: shownEntries knots rest

end

/-- How a value stands inside a list or a message. -/
def shown (v : Value) : String := v.shownWithin []

mutual

/-- Whether a value has a text: every whole number in it has few enough digits. -/
def isWritable : Value → Bool
  | int i => Decimal.isWritable i
  | list items | set items => areWritable items
  | map entries => areEntriesWritable entries
  | knot _ content => content.isWritable
  | _ => true

/-- Whether each item has a text. -/
def areWritable : List Value → Bool
  | [] => true
  | v :: rest => v.isWritable && areWritable rest

/-- Whether each key and each value has a text. -/
def areEntriesWritable : List (Value × Value) → Bool
  | [] => true
  | (k, v) :: rest => k.isWritable && v.isWritable && areEntriesWritable rest

end

/-- The text of a value by itself: a text as it is, a date as it is written, all else as it is
shown. -/
def plain : Value → String
  | text s => s
  | date d => d.text
  | instant t => t.text
  | v => v.shown

/-- The text of an argument: a truth value in lower case, all else plain. -/
def argumentText : Value → String
  | bool true => "true"
  | bool false => "false"
  | v => v.plain

/-- The number that a truth value or a number is, if it is a whole one. -/
def wholeNumber? : Value → Option Int
  | bool b => some (if b then 1 else 0)
  | int i => some i
  | float f => Decimal.wholeNumber? f
  | _ => none

/-- Whether two values are the same key of a mapping. Numbers and truth values are the same key if
they are numerically equal. -/
def sameKey : Value → Value → Bool
  | null, null => true
  | text s, text t => s == t
  | date d, date e => d == e
  | instant t, instant u => t.same u
  | bytes b, bytes c => b == c
  | float f, float g => f == g
  | v, w =>
    match v.wholeNumber?, w.wholeNumber? with
    | some i, some j => i == j
    | _, _ => false

/-- Whether a value can be a key of a mapping or a member of a set. -/
def isKey : Value → Bool
  | list _ | map _ | set _ | knot _ _ => false
  | _ => true

/-- Whether a value counts as nothing: it is none, false, zero or empty. -/
def isNothing : Value → Bool
  | null | bool false => true
  | int i => i == 0
  | float f => f == 0
  | text s => s == ""
  | bytes b => b.isEmpty
  | list items | set items => items.isEmpty
  | map entries => entries.isEmpty
  | _ => false

/-- The value of a text key. -/
def get? (entries : List (Value × Value)) (name : String) : Option Value :=
  (entries.find? fun entry ↦ entry.1.sameKey (text name)).map (·.2)

/-- Sets the value of a key, in its place if the key is there and at the end if it is not. -/
def put (entries : List (Value × Value)) (key value : Value) : List (Value × Value) :=
  match entries with
  | [] => [(key, value)]
  | (k, v) :: rest =>
    if k.sameKey key then (k, value) :: rest else (k, v) :: put rest key value

/-- The mapping that pairs make in turn: a later value for a key replaces the earlier one. -/
def ofPairs (pairs : List (Value × Value)) : List (Value × Value) :=
  pairs.foldl (fun entries pair ↦ put entries pair.1 pair.2) []

end Value

end Scriptorium
