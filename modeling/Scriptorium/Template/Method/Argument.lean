import Scriptorium.Template.Arithmetic

/-!
# Arguments of methods

How many arguments a method takes and which of them by name, and what each has to be.
-/

set_option autoImplicit false
set_option relaxedAutoImplicit false

namespace Scriptorium.Template

/-- The argument of each parameter, if it has one. Arguments that match no parameter, or one that
has an argument already, do not fit. -/
def bindArguments : List String → List Item → List (String × Item) → Outcome (List (Option Item))
  | [], [], [] => .ok []
  | [], _, _ => typeMismatch
  | p :: parameters, argument :: arguments, named =>
    if named.any (·.1 == p) then typeMismatch
    else (some argument :: ·) <$> bindArguments parameters arguments named
  | p :: parameters, [], named =>
    (named.lookup p :: ·) <$> bindArguments parameters [] (named.filter (·.1 != p))

/-- Named values with one set, in its place if the name is there. -/
def namedSet (name : String) (value : Item) : List (String × Item) → List (String × Item)
  | [] => [(name, value)]
  | (n, v) :: rest => if n == name then (n, value) :: rest else (n, v) :: namedSet name value rest

/-- The arguments of a call of which at least `least` and at most `most` are given, none by name. -/
def positional (least most : Nat) (arguments : List Item) (named : List (String × Item)) :
    Outcome (List Item) :=
  if named.isEmpty && least ≤ arguments.length && arguments.length ≤ most then .ok arguments
  else typeMismatch

namespace Item

/-- The text that an argument has to be. -/
def asText : Item → Outcome (List Char)
  | text s => .ok s
  | _ => typeMismatch

/-- The whole number that an argument has to be. -/
def asInt (item : Item) : Outcome Int :=
  match item.toInt? with
  | some i => .ok i
  | .none => typeMismatch

/-- The number of items that an argument has to be, which must fit into sixty-four bits. -/
def asSize (item : Item) : Outcome Int := do
  let i ← item.asInt
  if -(Nat.pow 2 63 : Int) ≤ i && i < (Nat.pow 2 63 : Int) then return i else tooLarge

/-- The small whole number that an argument has to be, which must fit into thirty-two bits. -/
def asSmallInt (item : Item) : Outcome Int := do
  let i ← item.asInt
  if -(Nat.pow 2 31 : Int) ≤ i && i < (Nat.pow 2 31 : Int) then return i else tooLarge

/-- The bound that an argument has to be, if it is one. -/
def asBound : Item → Outcome (Option Int)
  | none => .ok .none
  | item => some <$> item.asInt

/-- The character that an argument has to be. -/
def asChar : Item → Outcome Char
  | text [c] => .ok c
  | _ => typeMismatch

end Item

/-- Places in a sequence from a bound on, or before one, counted from the end if it is negative. -/
def placeOf (size : Nat) (bound : Int) : Nat :=
  (if bound < 0 then bound + size else bound).toNat

/-- What lies between two bounds of a sequence, and how many items come before it, unless the bounds
are the wrong way round. -/
def window {α : Type} (items : List α) (start stop : Option Int) : Option (Nat × List α) :=
  let first := (start.map (placeOf items.length)).getD 0
  let last := min ((stop.map (placeOf items.length)).getD items.length) items.length
  if last < first then none else some (first, (items.take last).drop first)

/-- The bounds among the arguments that follow the first. -/
def boundsOf : List Item → Outcome (Option Int × Option Int)
  | [start, stop] => do
    let first ← start.asBound
    return (first, ← stop.asBound)
  | [start] => do return (← start.asBound, none)
  | _ => .ok (none, none)

end Scriptorium.Template
