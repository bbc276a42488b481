import Scriptorium.Template.Memory
import Scriptorium.Template.Method.Collection
import Scriptorium.Template.Method.Text
import Scriptorium.Template.Operation

/-!
# Calls

What a call of a value gives. Only members of values can be called; a call of a member of a list or
a dictionary can change what it is a member of, and a loop remembers what it was asked.
-/

set_option autoImplicit false
set_option relaxedAutoImplicit false

namespace Scriptorium.Template

/-- The result of a method that values of several kinds have. -/
def sharedMethod? (name : String) (owner : Item) (arguments : List Item)
    (named : List (String × Item)) :
    Option (Outcome Item) :=
  let one (f : Item → Outcome Item) : Outcome Item := do
    match ← positional 1 1 arguments named with
    | x :: _ => f x
    | [] => typeMismatch
  let alone (f : Outcome Item) : Outcome Item := do
    let _ ← positional 0 0 arguments named
    f
  match name with
  | "__len__" => some (alone do return .int (← owner.size))
  | "__str__" => some (alone do return .text (← owner.textOf))
  | "__repr__" => some (alone do return .text (← owner.shown))
  | "__contains__" => some (one fun x ↦ do return .bool (← owner.contains x))
  | "__add__" => some (one (owner.arith .add))
  | "__mul__" => some (one (owner.arith .mul))
  | "__mod__" => some (one (owner.arith .mod))
  | "__eq__" => some (one fun x ↦ do return .bool (← owner.equal x))
  | "__ne__" => some (one fun x ↦ do return .bool !(← owner.equal x))
  | "__getitem__" => some (one fun x ↦ do
      match owner with
      | .text _ | .bytes _ | .list _ _ | .tuple _ =>
        match x.toInt? with
        | none => typeMismatch
        | some _ =>
          match ← owner.element? x with
          | some found => return found
          | none => throw (.fault .noElement)
      | _ =>
        x.asKey
        match ← owner.element? x with
        | some found => return found
        | none => throw (.fault .unknownKey))
  | "__format__" => some (one fun x ↦ do return .text (← formatItem (← x.asText) owner))
  | _ => none

/-- The result of a method of bytes. -/
def bytesMethod (name : String) (value : List UInt8) (arguments : List Item)
    (named : List (String × Item)) :
    Outcome Item := do
  match name with
  | "decode" =>
    match ← bindArguments ["encoding", "errors"] arguments named with
    | encoding :: _ =>
      let wanted ← (encoding.getD (.text "utf-8".toList)).asText
      match Text.Encoding.ofName? (String.ofList wanted) with
      | none => throw (.fault .unknownEncoding)
      | some e =>
        match e.decode? value with
        | some text => return .text text
        | none => throw (.fault .undecodable)
    | [] => typeMismatch
  | "hex" =>
    let _ ← positional 0 0 arguments named
    return .text (value.flatMap fun b ↦ Text.hexDigits 2 b.toNat)
  | _ => typeMismatch

/-- Which of several values stands at a place in a cycle of them. -/
def cycled (place : Nat) (values : List Item) : Outcome Item :=
  match values[place % values.length]? with
  | some value => .ok value
  | none => typeMismatch

/-- Whether a loop is asked with other values than last time; it remembers these. -/
def loopChanged (number : Nat) (values : List Item) : Evaluation Item := do
  let memory ← get
  let same ← match memory.asked.lookup number with
    | none => pure false
    | some old =>
      if old.length == values.length then liftM (Item.equalAll old values) else pure false
  if same then return .bool false
  set { memory with asked := assocSet number values memory.asked }
  return .bool true

/-- The result of a method. -/
def callMethod (owner : Item) (name : String) (arguments : List Item)
    (named : List (String × Item)) :
    Evaluation Item := do
  match sharedMethod? name owner arguments named with
  | some result => liftM result
  | none =>
    match owner with
    | .text s => liftM (TextMethod.call name s arguments named)
    | .bytes b => liftM (bytesMethod name b arguments named)
    | .bool _ | .int _ | .float _ => liftM (NumberMethod.call name owner arguments named)
    | .tuple items =>
      match ListMethod.query? name items arguments named with
      | some result => liftM result
      | none => liftM (typeMismatch : Outcome Item)
    | .list n items =>
      let result ← liftM (ListMethod.call name items arguments named)
      match result.contents with
      | some contents => modify fun m ↦ { m with lists := assocSet n contents m.lists }
      | none => pure ()
      return result.value
    | .dict n entries =>
      let result ← liftM (DictMethod.call name entries arguments named)
      match result.contents with
      | some contents => modify fun m ↦ { m with dicts := assocSet n contents m.dicts }
      | none => pure ()
      return result.value
    | .loop n passed _ _ _ =>
      match name, named with
      | "cycle", [] => liftM (cycled passed.length arguments)
      | "changed", [] => loopChanged n arguments
      | _, _ => liftM (typeMismatch : Outcome Item)
    | _ => liftM (typeMismatch : Outcome Item)

/-- The result of a call of a value. -/
def callItem (function : Item) (arguments : List Item) (named : List (String × Item)) :
    Evaluation Item :=
  match function with
  | .absent _ cause => throw (.absent cause)
  | .method owner name => callMethod owner name arguments named
  | _ => liftM (typeMismatch : Outcome Item)

end Scriptorium.Template
