import Scriptorium.Template.Relation

/-!
# Members, elements and slices

What a value has under a name, at an index, or between two indexes. A name looks for a member before
an element, an index in square brackets for an element before a member; a value that has neither
leaves an absent one, which says what was missing where. Slices leave nothing absent: what cannot be
divided fails.
-/

set_option autoImplicit false
set_option relaxedAutoImplicit false

namespace Scriptorium.Template

namespace Item

/-- The methods that every value has. -/
def commonMethods : List String :=
  ["__delattr__", "__dir__", "__eq__", "__format__", "__ge__", "__getattribute__", "__getstate__",
   "__gt__", "__hash__", "__init__", "__init_subclass__", "__le__", "__lt__", "__ne__", "__new__",
   "__reduce__", "__reduce_ex__", "__repr__", "__setattr__", "__sizeof__", "__str__",
   "__subclasshook__"]

/-- The methods of a text. -/
def textMethods : List String :=
  ["capitalize", "casefold", "center", "count", "encode", "endswith", "expandtabs", "find",
   "format", "format_map", "index", "isalnum", "isalpha", "isascii", "isdecimal", "isdigit",
   "isidentifier", "islower", "isnumeric", "isprintable", "isspace", "istitle", "isupper", "join",
   "ljust", "lower", "lstrip", "maketrans", "partition", "removeprefix", "removesuffix", "replace",
   "rfind", "rindex", "rjust", "rpartition", "rsplit", "rstrip", "split", "splitlines",
   "startswith", "strip", "swapcase", "title", "translate", "upper", "zfill", "__add__",
   "__contains__", "__getitem__", "__getnewargs__", "__iter__", "__len__", "__mod__", "__mul__",
   "__rmod__", "__rmul__"]

/-- The methods of bytes. -/
def bytesMethods : List String :=
  ["capitalize", "center", "count", "decode", "endswith", "expandtabs", "find", "fromhex", "hex",
   "index", "isalnum", "isalpha", "isascii", "isdigit", "islower", "isspace", "istitle", "isupper",
   "join", "ljust", "lower", "lstrip", "maketrans", "partition", "removeprefix", "removesuffix",
   "replace", "rfind", "rindex", "rjust", "rpartition", "rsplit", "rstrip", "split", "splitlines",
   "startswith", "strip", "swapcase", "title", "translate", "upper", "zfill", "__add__",
   "__bytes__", "__contains__", "__getitem__", "__getnewargs__", "__iter__", "__len__", "__mod__",
   "__mul__", "__rmod__", "__rmul__"]

/-- The methods that all numbers have. -/
def numberMethods : List String :=
  ["as_integer_ratio", "conjugate", "__abs__", "__add__", "__bool__", "__divmod__", "__float__",
   "__floordiv__", "__ceil__", "__floor__", "__int__", "__mod__", "__mul__", "__neg__", "__pos__",
   "__pow__", "__radd__", "__rdivmod__", "__rfloordiv__", "__rmod__", "__rmul__", "__round__",
   "__rpow__", "__rsub__", "__rtruediv__", "__sub__", "__truediv__", "__trunc__", "__getnewargs__"]

/-- The methods of a whole number. -/
def intMethods : List String :=
  ["bit_count", "bit_length", "from_bytes", "to_bytes", "__and__", "__index__", "__invert__",
   "__lshift__", "__or__", "__rand__", "__rlshift__", "__ror__", "__rrshift__", "__rshift__",
   "__rxor__", "__xor__"]
    ++ numberMethods

/-- The methods of a floating-point number. -/
def floatMethods : List String :=
  ["fromhex", "hex", "is_integer", "__getformat__"] ++ numberMethods

/-- The methods of a list. -/
def listMethods : List String :=
  ["append", "clear", "copy", "count", "extend", "index", "insert", "pop", "remove", "reverse",
   "sort", "__add__", "__class_getitem__", "__contains__", "__delitem__", "__getitem__", "__iadd__",
   "__imul__", "__iter__", "__len__", "__mul__", "__reversed__", "__rmul__", "__setitem__"]

/-- The methods of a tuple. -/
def tupleMethods : List String :=
  ["count", "index", "__add__", "__class_getitem__", "__contains__", "__getitem__",
   "__getnewargs__", "__iter__", "__len__", "__mul__", "__rmul__"]

/-- The methods of a dictionary. -/
def dictMethods : List String :=
  ["clear", "copy", "fromkeys", "get", "items", "keys", "pop", "popitem", "setdefault", "update",
   "values", "__class_getitem__", "__contains__", "__delitem__", "__getitem__", "__ior__",
   "__iter__", "__len__", "__or__", "__reversed__", "__ror__", "__setitem__"]

/-- The methods of a view of a dictionary. -/
def viewMethods : ViewPart → List String
  | .values => ["__iter__", "__len__", "__reversed__"]
  | _ => ["isdisjoint", "__contains__", "__iter__", "__len__", "__reversed__"]

/-- The methods of a value beyond those that every value has. -/
def methods : Item → List String
  | bool _ | int _ => intMethods
  | float _ => floatMethods
  | text _ => textMethods
  | bytes _ => bytesMethods
  | list _ _ => listMethods
  | tuple _ => tupleMethods
  | dict _ _ => dictMethods
  | view part _ => viewMethods part
  | loop _ _ _ _ _ => ["cycle", "changed", "__call__", "__iter__", "__len__", "__next__"]
  | method _ _ => ["__call__"]
  | none => ["__bool__"]
  | _ => []

/-- What a number is made of. -/
def numberPart? (item : Item) (name : String) : Option Item :=
  match item, name with
  | float f, "real" => some (float f)
  | float _, "imag" => some (float 0)
  | item, "real" | item, "numerator" => item.toInt?.map int
  | item, "imag" => item.toInt?.map fun _ ↦ int 0
  | item, "denominator" => item.toInt?.map fun _ ↦ int 1
  | _, _ => .none

/-- What a loop tells about itself. -/
def loopMember? (passed : List Item) (ahead : List Item) (trouble : Option Failure)
    (name : String) :
    Outcome (Option Item) :=
  let position := passed.length
  let length : Outcome Nat :=
    match trouble with
    | some failure => .error failure
    | .none => .ok (position + 1 + ahead.length)
  let following (found : Item) (none? : Item) : Outcome (Option Item) :=
    match ahead, trouble with
    | _ :: _, _ => .ok (some found)
    | [], some failure => .error failure
    | [], .none => .ok (some none?)
  match name with
  | "index" => .ok (some (int (position + 1)))
  | "index0" => .ok (some (int position))
  | "revindex" => do return some (int ((← length) - position))
  | "revindex0" => do return some (int ((← length) - position - 1))
  | "first" => .ok (some (bool (position == 0)))
  | "last" => following (bool false) (bool true)
  | "length" => do return some (int (← length))
  | "depth" => .ok (some (int 1))
  | "depth0" => .ok (some (int 0))
  | "previtem" => .ok (some (passed.head?.getD (absent true .noneBefore)))
  | "nextitem" => following (ahead.head?.getD none) (absent true .noneAfter)
  | _ => .ok .none

/-- A dotted name without the parts before its last one. -/
def lastPart (name : List Char) : List Char := (name.reverse.takeWhile (· != '.')).reverse

/-- What a value has under a name as a member, if it has it. -/
def member? (owner : Item) (name : String) : Outcome (Option Item) :=
  if owner.methods.contains name || commonMethods.contains name then .ok (some (method owner name))
  else if name == "__class__" then .ok (some (kind owner.kindName))
  else
    match owner with
    | loop _ passed _ ahead trouble => loopMember? passed ahead trouble name
    | kind n | method _ n =>
      if name == "__name__" || name == "__qualname__" then .ok (some (text (lastPart n.toList)))
      else .ok .none
    | _ => .ok (owner.numberPart? name)

/-- The item at an index, counted from the end if it is negative. -/
def itemAt? {α : Type} (items : List α) (index : Int) : Option α :=
  if 0 ≤ index then items[index.toNat]?
  else if index.natAbs ≤ items.length then items[items.length - index.natAbs]? else .none

/-- What a value has at an index or under a key, if it has it. -/
def element? (owner index : Item) : Outcome (Option Item) :=
  match owner with
  | text s => .ok ((index.toInt?.bind (itemAt? s ·)).map fun c ↦ text [c])
  | bytes b => .ok ((index.toInt?.bind (itemAt? b ·)).map fun x ↦ int x.toNat)
  | list _ xs | tuple xs => .ok (index.toInt?.bind (itemAt? xs ·))
  | dict _ entries =>
    match index.asKey with
    | .error (.fault .typeMismatch) => .ok .none
    | .error failure => .error failure
    | .ok () => lookup index entries
  | template =>
    match index with
    | absent _ cause => .error (.absent cause)
    | _ => .ok .none
  | _ => .ok .none

/-- What is absent where a value has nothing under a name. -/
def withoutMember (owner : Item) (name : String) : Item :=
  absent true (.member owner.objectName name)

/-- What is absent where a value has nothing at an index. -/
def withoutElement (owner index : Item) : Item :=
  match index with
  | text name => owner.withoutMember (String.ofList name)
  | _ =>
    absent true (.element owner.objectName
      (match index.shown with
        | .ok s => String.ofList s
        | .error _ => ""))

/-- The member of a value with a name, or else its element of that key; absent if there is none. -/
def member (owner : Item) (name : String) : Outcome Item :=
  match owner with
  | absent _ cause => .error (.absent cause)
  | _ => do
    match ← owner.member? name with
    | some found => return found
    | .none => return (← owner.element? (text name.toList)).getD (owner.withoutMember name)

/-- The element of a value at an index, or else its member with that name; absent if there is
none. -/
def element (owner index : Item) : Outcome Item :=
  match owner with
  | absent _ cause => .error (.absent cause)
  | _ => do
    match ← owner.element? index with
    | some found => return found
    | .none =>
      match index with
      | text name => return (← owner.member? (String.ofList name)).getD (owner.withoutElement index)
      | _ => return owner.withoutElement index

/-- A bound of a slice, if there is one. -/
def sliceBound? : Item → Outcome (Option Int)
  | none => .ok .none
  | item =>
    match item.toInt? with
    | some i => .ok (some i)
    | .none => typeMismatch

/-- A bound of a slice of `size` items: counted from the end if it is negative, and moved between
two limits. -/
def boundIn (size low high bound : Int) : Int :=
  let i := if bound < 0 then bound + size else bound
  if i < low then low else if high < i then high else i

/-- Every so manieth item, counted from an item that is there. -/
def everyNth {α : Type} (step : Nat) (items : List α) : Nat → List α
  | 0 => []
  | fuel + 1 =>
    match items with
    | [] => []
    | item :: _ => item :: everyNth step (items.drop step) fuel

/-- The items between two bounds, every so manieth; backwards if the step is negative, which must
not be zero. -/
def sliceOf {α : Type} (items : List α) (start stop : Option Int) (step : Int) : List α :=
  let size : Int := items.length
  if 0 < step then
    let first := (start.map (boundIn size 0 size)).getD 0
    let last := (stop.map (boundIn size 0 size)).getD size
    everyNth step.toNat ((items.take last.toNat).drop first.toNat) items.length
  else
    let first := (start.map (boundIn size (-1) (size - 1))).getD (size - 1)
    let last := (stop.map (boundIn size (-1) (size - 1))).getD (-1)
    everyNth step.natAbs ((items.take (first + 1).toNat).drop (last + 1).toNat).reverse items.length

/-- The part of a value between two bounds. -/
def slice (number : Nat) (owner start stop step : Item) : Outcome Item :=
  match owner with
  | absent _ cause => .error (.absent cause)
  | text _ | bytes _ | list _ _ | tuple _ => do
    let by' := (← step.sliceBound?).getD 1
    if by' == 0 then badValue
    let first ← start.sliceBound?
    let last ← stop.sliceBound?
    match owner with
    | text s => return text (sliceOf s first last by')
    | bytes b => return bytes (sliceOf b first last by')
    | list _ xs => return list number (sliceOf xs first last by')
    | tuple xs => return tuple (sliceOf xs first last by')
    | _ => typeMismatch
  | _ => typeMismatch

end Item

end Scriptorium.Template
