import Scriptorium.Template.Member
import Scriptorium.Template.Method.Argument

/-!
# Methods of numbers and collections

What can be asked of a number, a list, a tuple or a dictionary with a call of one of its members,
and how a list or a dictionary is changed by one. What a method gives is a value and, if it changes
something, the new contents of what it is a method of.
-/

set_option autoImplicit false
set_option relaxedAutoImplicit false

namespace Scriptorium.Template

/-- A value, and the new contents of the collection that gave it. -/
structure Changed (α : Type) where
  value : Item
  contents : Option (List α)

/-- A value given without a change. -/
def Changed.unchanged {α : Type} (value : Item) : Changed α := ⟨value, none⟩

namespace NumberMethod

/-- The fraction in lowest terms that a floating-point number is. -/
def fractionOf (f : Float) : Outcome Item :=
  if f.isNaN then badValue
  else if f.isInf then tooLarge
  else
    let r := Decimal.Ratio.mk (if f == 0 then 0 else (Decimal.Binary.ofFloat f).value.num)
      (if f == 0 then 1 else (Decimal.Binary.ofFloat f).value.den)
    let common := Nat.gcd r.num r.den
    let num : Int := r.num / common
    .ok (.tuple [.int (if f < 0 then -num else num), .int (r.den / common)])

/-- The result of a method of a number. -/
def call (name : String) (owner : Item) (arguments : List Item) (named : List (String × Item)) :
    Outcome Item := do
  let _ ← positional 0 0 arguments named
  match name, owner with
  | "conjugate", .float f => return .float f
  | "as_integer_ratio", .float f => fractionOf f
  | "is_integer", .float f => return .bool (Decimal.wholeNumber? f).isSome
  | "is_integer", _ => typeMismatch
  | _, _ =>
    let i ← owner.asInt
    match name with
    | "conjugate" => return .int i
    | "as_integer_ratio" => return .tuple [.int i, .int 1]
    | "bit_length" => return .int (if i == 0 then 0 else Nat.log2 i.natAbs + 1)
    | "bit_count" => return .int ((Nat.toDigits 2 i.natAbs).count '1')
    | _ => typeMismatch

end NumberMethod

namespace ListMethod

/-- The place of the first item that equals a value. -/
def placeOfItem? (value : Item) : List Item → Outcome (Option Nat)
  | [] => .ok none
  | item :: rest => do
    if ← Item.equal item value then return some 0
    else return (← placeOfItem? value rest).map (· + 1)

/-- How many items equal a value. -/
def countOf (value : Item) : List Item → Outcome Nat
  | [] => .ok 0
  | item :: rest => do
    let found ← Item.equal item value
    return (← countOf value rest) + if found then 1 else 0

/-- The place of an item between the bounds among the arguments; it has to be there. -/
def index (items : List Item) (arguments : List Item) : Outcome Item := do
  match arguments with
  | value :: bounds =>
    let (start, stop) ← boundsOf bounds
    match window items start stop with
    | none => badValue
    | some (before, inner) =>
      match ← placeOfItem? value inner with
      | some n => return .int (before + n : Nat)
      | none => badValue
  | [] => typeMismatch

/-- An item put among sorted ones, behind those that it is not less than. -/
def insertSorted (item : Item) : List Item → Outcome (List Item)
  | [] => .ok [item]
  | other :: rest => do
    if (← Item.order item other) == some .lt then return item :: other :: rest
    else return other :: (← insertSorted item rest)

/-- The items in order, equal ones as they were. -/
def sorted (items : List Item) : Outcome (List Item) :=
  items.foldlM (fun done item ↦ insertSorted item done) []

/-- The items without the one at an index, and that one. -/
def popAt (items : List Item) (i : Int) : Outcome (Changed Item) :=
  let place := if i < 0 then i + items.length else i
  match if place < 0 then none else items[place.toNat]? with
  | some item => .ok ⟨item, some (items.eraseIdx place.toNat)⟩
  | none => .error (.fault .noElement)

/-- The result of a method that a list and a tuple have. -/
def query? (name : String) (items : List Item) (arguments : List Item)
    (named : List (String × Item)) :
    Option (Outcome Item) :=
  match name with
  | "index" => some do index items (← positional 1 3 arguments named)
  | "count" => some do
    match ← positional 1 1 arguments named with
    | value :: _ => return .int (← countOf value items)
    | [] => typeMismatch
  | _ => none

/-- The result of a method of a list. -/
def call (name : String) (items : List Item) (arguments : List Item)
    (named : List (String × Item)) :
    Outcome (Changed Item) := do
  match name with
  | "copy" =>
    let _ ← positional 0 0 arguments named
    return .unchanged (.list 0 items)
  | "append" =>
    return ⟨.none, some (items ++ (← positional 1 1 arguments named))⟩
  | "extend" =>
    match ← positional 1 1 arguments named with
    | more :: _ => return ⟨.none, some (items ++ (← more.items))⟩
    | [] => typeMismatch
  | "insert" =>
    match ← positional 2 2 arguments named with
    | [place, item] =>
      let n := min (placeOf items.length (← place.asSize)) items.length
      return ⟨.none, some (items.take n ++ item :: items.drop n)⟩
    | _ => typeMismatch
  | "pop" =>
    match ← positional 0 1 arguments named with
    | [place] => popAt items (← place.asSize)
    | _ => popAt items (-1)
  | "remove" =>
    match ← positional 1 1 arguments named with
    | value :: _ =>
      match ← placeOfItem? value items with
      | some n => return ⟨.none, some (items.eraseIdx n)⟩
      | none => badValue
    | [] => typeMismatch
  | "reverse" =>
    let _ ← positional 0 0 arguments named
    return ⟨.none, some items.reverse⟩
  | "clear" =>
    let _ ← positional 0 0 arguments named
    return ⟨.none, some []⟩
  | "sort" =>
    let _ ← positional 0 0 arguments (named.filter fun n ↦ n.1 != "reverse" && n.1 != "key")
    match (named.lookup "key").getD .none with
    | .none =>
      let descending ← ((named.lookup "reverse").getD (.int 0)).asInt
      if descending == 0 then return ⟨.none, some (← sorted items)⟩
      else return ⟨.none, some (← sorted items.reverse).reverse⟩
    | _ => typeMismatch
  | _ =>
    match query? name items arguments named with
    | some result => return .unchanged (← result)
    | none => typeMismatch

end ListMethod

namespace DictMethod

/-- The entries without the one under a key. -/
def without (key : Item) : List (Item × Item) → Outcome (List (Item × Item))
  | [] => .ok []
  | (k, v) :: rest => do
    if ← Item.equal k key then return rest else return (k, v) :: (← without key rest)

/-- The entry that a pair of items is. -/
def pairOf (item : Item) : Outcome (Item × Item) := do
  match ← item.items with
  | [key, value] => return (key, value)
  | _ => badValue

/-- The entries with those of another collection put in. -/
def updated (entries more : List (Item × Item)) : Outcome (List (Item × Item)) :=
  more.foldlM (fun done (key, value) ↦ do
    key.asKey
    Item.put key value done) entries

/-- The entries that an argument holds. -/
def entriesOf : Item → Outcome (List (Item × Item))
  | .dict _ entries => .ok entries
  | item => do (← item.items).mapM pairOf

/-- The result of a method of a dictionary. -/
def call (name : String) (entries : List (Item × Item)) (arguments : List Item)
    (named : List (String × Item)) : Outcome (Changed (Item × Item)) := do
  match name with
  | "keys" =>
    let _ ← positional 0 0 arguments named
    return .unchanged (.view .keys entries)
  | "values" =>
    let _ ← positional 0 0 arguments named
    return .unchanged (.view .values entries)
  | "items" =>
    let _ ← positional 0 0 arguments named
    return .unchanged (.view .entries entries)
  | "copy" =>
    let _ ← positional 0 0 arguments named
    return .unchanged (.dict 0 entries)
  | "clear" =>
    let _ ← positional 0 0 arguments named
    return ⟨.none, some []⟩
  | "get" =>
    match ← positional 1 2 arguments named with
    | key :: other =>
      key.asKey
      return .unchanged ((← Item.lookup key entries).getD (other.head?.getD .none))
    | [] => typeMismatch
  | "pop" =>
    match ← positional 1 2 arguments named with
    | key :: other =>
      key.asKey
      match ← Item.lookup key entries, other with
      | some value, _ => return ⟨value, some (← without key entries)⟩
      | none, value :: _ => return .unchanged value
      | none, [] => throw (.fault .unknownKey)
    | [] => typeMismatch
  | "popitem" =>
    let _ ← positional 0 0 arguments named
    match entries.getLast? with
    | some (key, value) => return ⟨.tuple [key, value], some entries.dropLast⟩
    | none => throw (.fault .unknownKey)
  | "setdefault" =>
    match ← positional 1 2 arguments named with
    | key :: other =>
      key.asKey
      match ← Item.lookup key entries with
      | some value => return .unchanged value
      | none =>
        let value := other.head?.getD .none
        return ⟨value, some (entries ++ [(key, value)])⟩
    | [] => typeMismatch
  | "update" =>
    let more ← match ← positional 0 1 arguments [] with
      | [] => pure []
      | item :: _ => entriesOf item
    let byName := named.map fun (key, value) ↦ (Item.text key.toList, value)
    return ⟨.none, some (← updated (← updated entries more) byName)⟩
  | "fromkeys" =>
    match ← positional 1 2 arguments named with
    | keys :: other =>
      let value := other.head?.getD .none
      return .unchanged (.dict 0 (← updated [] ((← keys.items).map (·, value))))
    | [] => typeMismatch
  | _ => typeMismatch

end DictMethod

end Scriptorium.Template
