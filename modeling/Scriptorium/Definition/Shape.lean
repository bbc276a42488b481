import Scriptorium.Arguments

/-!
# Reading raw values by shape

A reading of a raw value gives a result or all the problems of the value, in order. Readings of the
fields of a record are combined without stopping at the first problem (`Reading.apply`), and the
problems of a part are placed below its key (`Reading.below`). Fields may go by several names, of
which the first that is there counts, whatever its value.
-/

set_option autoImplicit false
set_option relaxedAutoImplicit false

namespace Scriptorium.Definition

/-- The result of reading a value, or its problems. -/
inductive Reading (α : Type) where
  | accepted (value : α)
  | refused (problems : List Problem)

namespace Reading

/-- Applies a function to the result. -/
def map {α β : Type} (f : α → β) : Reading α → Reading β
  | accepted a => accepted (f a)
  | refused p => refused p

/-- Applies a read function to a read value; the problems of both count. -/
def apply {α β : Type} : Reading (α → β) → Reading α → Reading β
  | accepted f, accepted a => accepted (f a)
  | accepted _, refused q => refused q
  | refused p, accepted _ => refused p
  | refused p, refused q => refused (p ++ q)

instance : Applicative Reading where
  pure := accepted
  map := map
  seq f a := apply f (a ())

/-- A single problem at the value itself. -/
def problem {α : Type} (kind : ProblemKind) : Reading α := refused [⟨[], kind⟩]

/-- Places problems below a key. -/
def below {α : Type} (key : String) : Reading α → Reading α
  | accepted a => accepted a
  | refused problems => refused (problems.map fun p ↦ { p with path := key :: p.path })

/-- The first of two readings that succeeds; the problems of both if none does. -/
def either {α : Type} : Reading α → Reading α → Reading α
  | accepted a, _ => accepted a
  | refused _, accepted b => accepted b
  | refused p, refused q => refused (p ++ q)

/-- Reads the items of a list that begins at an index, each below its own. -/
def items {α : Type} (read : Value → Reading α) : Nat → List Value → Reading (List α)
  | _, [] => accepted []
  | i, v :: rest => List.cons <$> (read v).below (Decimal.natText i) <*> items read (i + 1) rest

end Reading

/-- The first of several names that a record has, with its value. -/
def firstField? (entries : List (Value × Value)) : List String → Option (String × Value)
  | [] => none
  | name :: others =>
    match Value.get? entries name with
    | some v => some (name, v)
    | none => firstField? entries others

/-- Reads the field that goes by one of several names; a field that is not there has a default. -/
def field {α : Type} (entries : List (Value × Value)) (names : List String) (default : α)
    (read : Value → Reading α) : Reading α :=
  match firstField? entries names with
  | some (name, v) => (read v).below name
  | none => .accepted default

/-- Nothing, or what a reader makes of a value that is there. -/
def optional {α : Type} (read : Value → Reading α) : Value → Reading (Option α)
  | .null => .accepted none
  | v => some <$> read v

/-- A text; bytes stand for the text that they encode. -/
def text : Value → Reading String
  | .text s => .accepted s
  | .bytes b =>
    match String.fromUTF8? ⟨b.toArray⟩ with
    | some s => .accepted s
    | none => .problem .encoding
  | _ => .problem .text

/-- The words for a truth value, in lower case. -/
def boolOfWord? (word : String) : Option Bool :=
  if ["0", "off", "f", "false", "n", "no"].contains word then some false
  else if ["1", "on", "t", "true", "y", "yes"].contains word then some true
  else none

/-- The truth value that a word stands for, in any case. -/
def boolOfText (word : String) : Reading Bool :=
  match boolOfWord? word.toLower with
  | some b => .accepted b
  | none => .problem .boolText

/-- The truth value that a whole number stands for. A number can be one if it fits in a word of 64
bits. -/
def boolOfInt (fits : Bool) (i : Int) : Reading Bool :=
  if i == 0 then .accepted false
  else if i == 1 then .accepted true
  else .problem (if fits then .boolText else .bool)

/-- The least whole number of a word of 64 bits, and the first beyond them. -/
def wordBound : Int := Int.pow 2 63

/-- A truth value: itself, the numbers one and zero, or one of the words for it, as a text or as
bytes. -/
def bool : Value → Reading Bool
  | .bool b => .accepted b
  | .int i => boolOfInt (-wordBound ≤ i && i < wordBound) i
  | .float f =>
    match Decimal.wholeNumber? f with
    | some i => boolOfInt (-wordBound < i && i < wordBound) i
    | none => .problem .bool
  | .text s => boolOfText s
  | .bytes b =>
    match String.fromUTF8? ⟨b.toArray⟩ with
    | some s => boolOfText s
    | none => .problem .boolText
  | _ => .problem .bool

/-- The items of a list. -/
def listOf {α : Type} (read : Value → Reading α) (v : Value) : Reading (List α) :=
  match v.bare with
  | .list xs | .set xs => Reading.items read 0 xs
  | _ => .problem .list

/-- How a key stands in the path of a problem: a text as it is, a truth value as its number. -/
def keyText : Value → String
  | .text s => s
  | .bool b => if b then "1" else "0"
  | key => key.shown

/-- Names with any values, in order, no name twice. -/
@[ext]
structure Mapping where
  entries : List (String × Value)
  nodup : (entryNames entries).Nodup := by decide

namespace Mapping

/-- The mapping without names. -/
def empty : Mapping := ⟨[], by decide⟩

/-- Sets the value of a name. -/
def set (m : Mapping) (name : String) (v : Value) : Mapping :=
  ⟨setEntry m.entries name v, nodup_setEntry m.nodup name v⟩

/-- The mapping that pairs make in turn: a later value for a name replaces the earlier one. -/
def ofPairs (pairs : List (String × Value)) : Mapping :=
  pairs.foldl (fun m pair ↦ m.set pair.1 pair.2) empty

end Mapping

/-- Pairs with texts for keys and any values. -/
def textKeys : List (Value × Value) → Reading (List (String × Value))
  | [] => .accepted []
  | (key, v) :: rest =>
    (fun name others ↦ (name, v) :: others) <$> ((text key).below "[key]").below (keyText key)
      <*> textKeys rest

/-- A mapping with texts for keys. Bytes and the text that they encode are one key. -/
def mapping (v : Value) : Reading Mapping :=
  match v.bare with
  | .map entries => Mapping.ofPairs <$> textKeys entries
  | _ => .problem .mapping

/-- The entries of a record. -/
def record {α : Type} (read : List (Value × Value) → Reading α) (v : Value) : Reading α :=
  match v.bare with
  | .map entries => read entries
  | _ => .problem .record

/-- A record as a raw value, from the names and values of its fields. -/
def toRecord (fields : List (String × Value)) : Value :=
  .map (fields.map fun (name, v) ↦ (.text name, v))

/-- A text or nothing as a raw value. -/
def textValue : Option String → Value
  | some s => .text s
  | none => .null

/-- A truth value or nothing as a raw value. -/
def boolValue : Option Bool → Value
  | some b => .bool b
  | none => .null

end Scriptorium.Definition
