import Scriptorium.Template.Item
import Scriptorium.Text.Search

/-!
# Relations between values

When two values are equal, how they are ordered, whether one is in another, and what a dictionary
has under a key. Numbers of all kinds compare by value, truth values as one and zero; values of
different kinds are different and have no order. To compare an absent value is to use it.
-/

set_option autoImplicit false
set_option relaxedAutoImplicit false

namespace Scriptorium.Template

/-- The relations that an expression can ask for. -/
inductive Comparison where
  | eq | ne | lt | le | gt | ge | isIn | notIn
  deriving DecidableEq, Repr

namespace Item

/-- The cause that an operation on two values reports if one of them is absent: the first, unless it
is the lenient one of the two. -/
def absence? : Item → Item → Option Absence
  | absent false _, absent true cause => some cause
  | absent _ cause, _ => some cause
  | _, absent _ cause => some cause
  | _, _ => .none

/-- How two numbers compare, if both are numbers and comparable. -/
def compareNumbers : Item → Item → Option (Option Ordering)
  | float f, float g =>
    some (if f < g then some .lt else if f == g then some .eq
      else if g < f then some .gt else .none)
  | float f, other => other.toInt?.map fun i ↦ (Decimal.compareWhole i f).map .swap
  | other, float f => other.toInt?.map fun i ↦ Decimal.compareWhole i f
  | left, right =>
    match left.toInt?, right.toInt? with
    | some i, some j => some (some (compare i j))
    | _, _ => .none

/-- The order of two sequences of numbers: as their first difference, and else by length. -/
def compareCodes : List Nat → List Nat → Ordering
  | [], [] => .eq
  | [], _ :: _ => .lt
  | _ :: _, [] => .gt
  | c :: s, d :: t => (compare c d).then (compareCodes s t)

/-- The value of the first entry whose key passes a test. -/
def entryWhere (test : Item → Outcome Bool) : List (Item × Item) → Outcome (Option Item)
  | [] => .ok .none
  | (key, value) :: rest => do
    if ← test key then return some value else entryWhere test rest

mutual

/-- Whether two values are equal. -/
def equal : Item → Item → Outcome Bool
  | absent false _, absent false _ => .ok true
  | absent false _, absent true cause => .error (.absent cause)
  | absent true cause, _ => .error (.absent cause)
  | _, absent true cause => .error (.absent cause)
  | absent false _, _ => .ok false
  | _, absent false _ => .ok false
  | none, none => .ok true
  | text s, text t => .ok (s == t)
  | bytes a, bytes b => .ok (a == b)
  | list _ xs, list _ ys => if xs.length == ys.length then equalAll xs ys else .ok false
  | tuple xs, tuple ys => if xs.length == ys.length then equalAll xs ys else .ok false
  | dict _ xs, dict _ ys => if xs.length == ys.length then equalEntries xs ys else .ok false
  | template, template => .ok true
  | loop n _ _ _ _, loop m _ _ _ _ => .ok (n == m)
  | kind n, kind m => .ok (n == m)
  | method x n, method y m => if n == m then equal x y else .ok false
  | left, right =>
    match compareNumbers left right with
    | some order => .ok (order == some .eq)
    | .none => .ok false

/-- Whether the items of two lists of one length are equal in turn. -/
def equalAll : List Item → List Item → Outcome Bool
  | x :: xs, y :: ys => do
    if ← equal x y then equalAll xs ys else return false
  | _, _ => .ok true

/-- Whether each entry of a dictionary is in another. -/
def equalEntries : List (Item × Item) → List (Item × Item) → Outcome Bool
  | [], _ => .ok true
  | (key, value) :: rest, ys => do
    match ← entryWhere (fun k ↦ equal key k) ys with
    | some other => if ← equal value other then equalEntries rest ys else return false
    | .none => return false

end

mutual

/-- How two values compare. -/
def order : Item → Item → Outcome (Option Ordering)
  | text s, text t => .ok (some (compareCodes (Text.codes s) (Text.codes t)))
  | bytes a, bytes b => .ok (some (compareCodes (a.map (·.toNat)) (b.map (·.toNat))))
  | list _ xs, list _ ys => orderAll xs ys
  | tuple xs, tuple ys => orderAll xs ys
  | left, right =>
    match absence? left right with
    | some cause => .error (.absent cause)
    | .none =>
      match compareNumbers left right with
      | some result => .ok result
      | .none => typeMismatch

/-- How two lists compare: as their first items that differ, and else by length. -/
def orderAll : List Item → List Item → Outcome (Option Ordering)
  | [], [] => .ok (some .eq)
  | [], _ :: _ => .ok (some .lt)
  | _ :: _, [] => .ok (some .gt)
  | x :: xs, y :: ys => do
    if ← equal x y then orderAll xs ys else order x y

end

/-- Whether one of the items equals a value. -/
def equalsAny (value : Item) : List Item → Outcome Bool
  | [] => .ok false
  | item :: rest => do
    if ← equal item value then return true else equalsAny value rest

mutual

/-- Fails for a value that cannot be a key. -/
def asKey : Item → Outcome Unit
  | list _ _ | dict _ _ | view .keys _ | view .entries _ => typeMismatch
  | absent true cause => .error (.absent cause)
  | tuple items => asKeys items
  | _ => .ok ()

/-- Fails if one of several values cannot be a key. -/
def asKeys : List Item → Outcome Unit
  | [] => .ok ()
  | item :: rest => do
    item.asKey
    asKeys rest

end

/-- The value of the first entry whose key equals a key. -/
def lookup (key : Item) (entries : List (Item × Item)) : Outcome (Option Item) :=
  entryWhere (fun k ↦ equal k key) entries

/-- Sets the value of a key, in its place if the key is there and at the end if it is not. -/
def put (key value : Item) : List (Item × Item) → Outcome (List (Item × Item))
  | [] => .ok [(key, value)]
  | (k, v) :: rest => do
    if ← equal k key then return (k, value) :: rest else return (k, v) :: (← put key value rest)

/-- The character whose code a byte is. -/
def asCharacter (byte : UInt8) : Char := Char.ofNat byte.toNat

/-- Whether a value is in a text or in bytes, among the items of a list, or among the keys of a
dictionary. -/
def contains (container value : Item) : Outcome Bool :=
  match container with
  | absent true cause => .error (.absent cause)
  | absent false _ => .ok false
  | text s =>
    match value with
    | text t => .ok (Text.occursIn t s)
    | _ => typeMismatch
  | bytes b =>
    match value with
    | bytes part => .ok (Text.occursIn (part.map asCharacter) (b.map asCharacter))
    | item =>
      match item.toInt? with
      | some i => if 0 ≤ i && i < 256 then .ok (b.any fun x ↦ x.toNat == i.toNat) else badValue
      | .none => typeMismatch
  | list _ items | tuple items => equalsAny value items
  | dict _ entries | view .keys entries => do
    value.asKey
    equalsAny value (entries.map (·.1))
  | view part entries => equalsAny value (viewItems part entries)
  | template => .error (.fault .unknownKey)
  | _ => typeMismatch

/-- Whether a relation holds between two values. -/
def related (relation : Comparison) (left right : Item) : Outcome Bool :=
  match relation with
  | .eq => equal left right
  | .ne => (! ·) <$> equal left right
  | .lt => (· == some .lt) <$> order left right
  | .le => (fun o ↦ o == some .lt || o == some .eq) <$> order left right
  | .gt => (· == some .gt) <$> order left right
  | .ge => (fun o ↦ o == some .gt || o == some .eq) <$> order left right
  | .isIn => contains right left
  | .notIn => (! ·) <$> contains right left

end Item

end Scriptorium.Template
