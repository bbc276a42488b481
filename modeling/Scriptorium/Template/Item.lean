import Scriptorium.Template.Fault

/-!
# What expressions are worth

The values of expressions. An absent value counts as false and can be asked whether it is there;
every other use of it fails. A value that stands for a choice without an alternative is absent too,
but it prints as nothing. Lists and dictionaries carry a number that tells them apart although they
hold the same, because both can be changed in place.
-/

set_option autoImplicit false
set_option relaxedAutoImplicit false

namespace Scriptorium.Template

/-- The result of an operation on values. -/
abbrev Outcome := Except Failure

/-- The failure of an operation that its operands do not have. -/
def typeMismatch {α : Type} : Outcome α := .error (.fault .typeMismatch)

/-- The failure of an operation that its operands have, but not with these values. -/
def badValue {α : Type} : Outcome α := .error (.fault .badValue)

/-- Which part of a dictionary a view of it shows. -/
inductive ViewPart where
  | keys
  | values
  | entries
  deriving DecidableEq, Repr

/-- The value of an expression. A loop knows the items that it has passed, the last first, its
current one, those still ahead, and the failure that comes after them, if one does. -/
inductive Item where
  | none
  | bool (value : Bool)
  | int (value : Int)
  | float (value : Float)
  | text (value : List Char)
  | bytes (value : List UInt8)
  | list (number : Nat) (items : List Item)
  | tuple (items : List Item)
  | dict (number : Nat) (entries : List (Item × Item))
  | view (part : ViewPart) (entries : List (Item × Item))
  | absent (strict : Bool) (cause : Absence)
  | loop (number : Nat) (passed : List Item) (current : Item) (ahead : List Item)
      (trouble : Option Failure)
  | template
  | method (owner : Item) (name : String)
  | kind (name : String)

namespace Item

/-- Parts with a comma and a blank between them. -/
def commaSeparated : List (List Char) → List Char
  | [] => []
  | [part] => part
  | part :: rest => part ++ ',' :: ' ' :: commaSeparated rest

/-- A byte between quotes of one kind. -/
def shownByte (quote : Char) (b : UInt8) : List Char :=
  let c := Char.ofNat b.toNat
  if c == quote || c == '\\' then ['\\', c]
  else if c == '\n' then ['\\', 'n']
  else if c == '\r' then ['\\', 'r']
  else if c == '\t' then ['\\', 't']
  else if 32 ≤ b.toNat && b.toNat < 127 then [c]
  else '\\' :: 'x' :: Text.hexDigits 2 b.toNat

/-- How bytes are shown. -/
def shownBytes (value : List UInt8) : List Char :=
  let quote := Text.quoteFor (value.map fun b ↦ Char.ofNat b.toNat)
  'b' :: quote :: value.flatMap (shownByte quote) ++ [quote]

/-- The word for a view of a part of a dictionary. -/
def viewName : ViewPart → String
  | .keys => "dict_keys"
  | .values => "dict_values"
  | .entries => "dict_items"

/-- What a value is, by the name of its kind. -/
def kindName : Item → String
  | none => "NoneType"
  | bool _ => "bool"
  | int _ => "int"
  | float _ => "float"
  | text _ => "str"
  | bytes _ => "bytes"
  | list _ _ => "list"
  | tuple _ => "tuple"
  | dict _ _ => "dict"
  | view part _ => viewName part
  | absent _ _ => "Undefined"
  | loop _ _ _ _ _ => "jinja2.runtime.LoopContext"
  | template => "jinja2.runtime.TemplateReference"
  | method (loop _ _ _ _ _) _ => "method"
  | method _ _ => "builtin_function_or_method"
  | kind _ => "type"

/-- What a value is, in a message about something it lacks. -/
def objectName : Item → String
  | none => "None"
  | item => item.kindName ++ " object"

/-- The items that a view shows. -/
def viewItems (part : ViewPart) (entries : List (Item × Item)) : List Item :=
  match part with
  | .keys => entries.map (·.1)
  | .values => entries.map (·.2)
  | .entries => entries.map fun (key, value) ↦ tuple [key, value]

/-- A whole number in decimal digits, if it has few enough. -/
def shownInt (i : Int) : Outcome (List Char) :=
  if Decimal.isWritable i then .ok (Decimal.intText i).toList else badValue

mutual

/-- How a value is shown inside a list. -/
def shown : Item → Outcome (List Char)
  | none => .ok "None".toList
  | bool true => .ok "True".toList
  | bool false => .ok "False".toList
  | int i => shownInt i
  | float f => .ok (Decimal.floatText f).toList
  | text s => .ok (Text.quoted s)
  | bytes b => .ok (shownBytes b)
  | list _ items => do return '[' :: commaSeparated (← shownAll items) ++ [']']
  | tuple [item] => do return '(' :: (← item.shown) ++ [',', ')']
  | tuple items => do return '(' :: commaSeparated (← shownAll items) ++ [')']
  | dict _ entries => do return '\x7b' :: commaSeparated (← shownEntries ": " entries) ++ ['\x7d']
  | view .keys entries => do
    return "dict_keys([".toList ++ commaSeparated (← shownKeys entries) ++ [']', ')']
  | view .values entries => do
    return "dict_values([".toList ++ commaSeparated (← shownValues entries) ++ [']', ')']
  | view .entries entries => do
    let parts ← shownEntries ", " entries
    return "dict_items([".toList ++ commaSeparated (parts.map fun p ↦ '(' :: p ++ [')'])
      ++ [']', ')']
  | absent _ _ => .ok "Undefined".toList
  | loop _ passed _ ahead trouble =>
    match trouble with
    | some failure => .error failure
    | .none =>
      .ok ("<LoopContext " ++ Decimal.natText (passed.length + 1) ++ "/"
        ++ Decimal.natText (passed.length + 1 + ahead.length) ++ ">").toList
  | template => .ok "<TemplateReference None>".toList
  | method owner name =>
    .ok ("<built-in method " ++ name ++ " of " ++ owner.kindName ++ " object>").toList
  | kind name => .ok ("<class '" ++ name ++ "'>").toList

/-- How the items of a list are shown. -/
def shownAll : List Item → Outcome (List (List Char))
  | [] => .ok []
  | item :: rest => do
    let first ← item.shown
    return first :: (← shownAll rest)

/-- How the entries of a dictionary are shown, with a mark between a key and its value. -/
def shownEntries (mark : String) : List (Item × Item) → Outcome (List (List Char))
  | [] => .ok []
  | (key, value) :: rest => do
    let k ← key.shown
    let v ← value.shown
    return (k ++ mark.toList ++ v) :: (← shownEntries mark rest)

/-- How the keys of a dictionary are shown. -/
def shownKeys : List (Item × Item) → Outcome (List (List Char))
  | [] => .ok []
  | (key, _) :: rest => do
    let k ← key.shown
    return k :: (← shownKeys rest)

/-- How the values of a dictionary are shown. -/
def shownValues : List (Item × Item) → Outcome (List (List Char))
  | [] => .ok []
  | (_, value) :: rest => do
    let v ← value.shown
    return v :: (← shownValues rest)

end

/-- The text of a value. -/
def textOf : Item → Outcome (List Char)
  | text s => .ok s
  | absent true cause => .error (.absent cause)
  | absent false _ => .ok []
  | item => item.shown

/-- Whether a value counts as true. -/
def isTrue : Item → Bool
  | none | absent _ _ => false
  | bool b => b
  | int i => i != 0
  | float f => f != 0
  | text s => !s.isEmpty
  | bytes b => !b.isEmpty
  | list _ items | tuple items => !items.isEmpty
  | dict _ entries | view _ entries => !entries.isEmpty
  | loop _ _ _ _ _ | template | method _ _ | kind _ => true

/-- Whether a value is absent. -/
def isAbsent : Item → Bool
  | absent _ _ => true
  | _ => false

/-- The whole number that a truth value or an integer is. -/
def toInt? : Item → Option Int
  | bool b => some (if b then 1 else 0)
  | int i => some i
  | _ => .none

/-- The items that a loop over a value goes through. The template seems to have items, but no first
one is found. -/
def items : Item → Outcome (List Item)
  | text s => .ok (s.map fun c ↦ text [c])
  | bytes b => .ok (b.map fun x ↦ int x.toNat)
  | list _ xs | tuple xs => .ok xs
  | dict _ entries => .ok (entries.map (·.1))
  | view part entries => .ok (viewItems part entries)
  | absent true cause => .error (.absent cause)
  | absent false _ => .ok []
  | template => .error (.fault .unknownKey)
  | _ => typeMismatch

/-- How many items a value has. -/
def size : Item → Outcome Nat
  | text s => .ok s.length
  | bytes b => .ok b.length
  | list _ xs | tuple xs => .ok xs.length
  | dict _ entries | view _ entries => .ok entries.length
  | loop _ passed _ ahead trouble =>
    match trouble with
    | some failure => .error failure
    | .none => .ok (passed.length + 1 + ahead.length)
  | absent true cause => .error (.absent cause)
  | absent false _ => .ok 0
  | _ => typeMismatch

@[simp] theorem textOf_text (s : List Char) : (text s).textOf = .ok s := rfl

@[simp] theorem isTrue_text (s : List Char) : (text s).isTrue = !s.isEmpty := rfl

end Item

end Scriptorium.Template
