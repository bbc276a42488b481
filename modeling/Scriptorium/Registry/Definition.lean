import Scriptorium.Definition.Model
import Scriptorium.Registry

/-!
# Registries from definitions

When definitions of functions are acceptable, and the registry that they make. Every definition is
looked at before any function is built: its name, that it has either code or calls, and its
parameters, one definition after the other; then that no two have the same code or the same revert
code; last the calls.
-/

set_option autoImplicit false
set_option relaxedAutoImplicit false

namespace Scriptorium

/-- Whether a text is there and not empty. -/
def hasText : Option String → Bool
  | some s => s != ""
  | none => false

/-- The words that mean something else in code, so that no parameter can go by them. -/
def reservedNames : List String :=
  ["true", "false", "none", "True", "False", "None", "and", "or", "not", "in", "is", "if", "else",
   "elif", "endif", "for", "endfor", "set", "endset", "block", "endblock", "macro", "endmacro",
   "call", "endcall", "filter", "endfilter", "with", "endwith", "raw", "endraw", "extends",
   "include", "import", "from", "as", "recursive", "self", "loop", "caller", "varargs", "kwargs"]

/-- A letter of ASCII or an underscore. -/
def isNameStart (c : Char) : Bool := c.isAlpha || c == '_'

/-- A letter or digit of ASCII or an underscore. -/
def isNameRest (c : Char) : Bool := c.isAlphanum || c == '_'

/-- Characters that can follow the first of a parameter's name. One line feed is let pass at the
end. -/
def isNameTail : List Char → Bool
  | [] => true
  | ['\n'] => true
  | c :: rest => isNameRest c && isNameTail rest

/-- Whether a text can be the name of a parameter. -/
def isParameterName : List Char → Bool
  | [] => false
  | c :: rest => isNameStart c && isNameTail rest

namespace Definition

/-- Whether there is at least one call. -/
def hasCalls : Option Calls → Bool
  | some (.one _) => true
  | some (.many calls) => !calls.isEmpty
  | none => false

/-- The calls of a definition as a list. -/
def Calls.toList : Calls → List Call
  | one c => [c]
  | many cs => cs

/-- The call that a definition describes. -/
def Call.build (c : Call) : Except Error Scriptorium.Call :=
  if !hasText c.function then .error (.argument .unnamedDefinition)
  else
    Scriptorium.Call.ofValues? c.function
      (((c.parameters.map Mapping.entries).getD []).map fun (name, value) ↦ (.text name, value))

/-- The calls that definitions describe, the first failure first. -/
def buildCalls : List Call → Except Error (List Scriptorium.Call)
  | [] => .ok []
  | c :: rest => do
    let call ← c.build
    let calls ← buildCalls rest
    return call :: calls

/-- Whether a function has either code or calls, and revert code only with code. -/
def Function.checkBody (f : Function) (name : String) : Except Error Unit :=
  let hasCode := hasText f.code
  let hasCall := hasCalls f.calls
  if hasCode && hasCall then .error (.function (.codeAndCall name))
  else if !hasCode && !hasCall then .error (.function (.neitherCodeNorCall name))
  else if hasCall && hasText f.revertCode then .error (.function (.revertWithCall name))
  else .ok ()

/-- Whether the parameters of a function have names that differ from each other and from those
seen. -/
def checkParameters (function : String) (seen : List String) : List Parameter → Except Error Unit
  | [] => .ok ()
  | p :: rest =>
    match p.name with
    | none => .error (.function (.badParameter "None" function))
    | some name =>
      if !isParameterName name.toList then .error (.function (.badParameter name function))
      else if name ∈ reservedNames then .error (.function (.reservedParameter name function))
      else if name ∈ seen then .error (.function (.repeatedParameter name function))
      else checkParameters function (name :: seen) rest

/-- Whether each function has a name that differs from those seen in more than case, a body and
parameters. -/
def checkFunctions (seen : List (List Char)) : List Function → Except Error Unit
  | [] => .ok ()
  | f :: rest =>
    match f.name with
    | none => .error (.function .unnamed)
    | some name =>
      if name = "" then .error (.function .unnamed)
      else if Text.lowercase name.toList ∈ seen then .error (.repeatedFunction name)
      else do
        f.checkBody name
        checkParameters name [] f.parameters
        checkFunctions (Text.lowercase name.toList :: seen) rest

/-- The names of the first two of some owners whose codes are the same. An owner without code shares
with none. -/
def firstShared? (owners : List (String × String)) : List (String × Option String) →
    Option (String × String)
  | [] => none
  | (name, code) :: rest =>
    match code with
    | none => firstShared? owners rest
    | some "" => firstShared? owners rest
    | some code =>
      match owners.lookup code with
      | some owner => some (owner, name)
      | none => firstShared? ((code, name) :: owners) rest

/-- Whether no two functions have the same code, nor the same revert code. -/
def checkCodes (functions : List Function) : Except Error Unit :=
  let codes (code : Function → Option String) : List (String × Option String) :=
    functions.map fun f ↦ (f.name.getD "", code f)
  match firstShared? [] (codes Function.code), firstShared? [] (codes Function.revertCode) with
  | some (f, g), _ => .error (.function (.sameCode f g .execute))
  | none, some (f, g) => .error (.function (.sameCode f g .revert))
  | none, none => .ok ()

/-- The shared function that a definition describes. -/
def Function.build (f : Function) : Except Error Scriptorium.Function := do
  let name := f.name.getD ""
  if name = "" then throw (.function .unnamed)
  let parameters := f.parameters.map fun p ↦ ⟨p.name.getD "", p.required⟩
  if hasText f.code then
    return ⟨name, parameters, .code ⟨f.code.getD "", f.revertCode.getD ""⟩⟩
  else
    match buildCalls ((f.calls.map Calls.toList).getD []) with
    | .ok calls => return ⟨name, parameters, .calls calls⟩
    | .error (.argument cause) => throw (.function (.badCall name cause))
    | .error other => throw other

/-- The shared functions that definitions describe, the first failure first. -/
def buildFunctions : List Function → Except Error (List Scriptorium.Function)
  | [] => .ok []
  | f :: rest => do
    let function ← f.build
    let functions ← buildFunctions rest
    return function :: functions

/-- Reads raw definitions of functions. None may be missing. -/
def readFunctions : List Value → Except Error (List Function)
  | [] => .ok []
  | .null :: _ => .error (.function .missing)
  | v :: rest => do
    let f ← accept "FunctionDefinition" (Function.read v)
    let fs ← readFunctions rest
    return f :: fs

end Definition

namespace Registry

/-- The registry of the functions that definitions describe. -/
def ofDefinitions? (definitions : List Definition.Function) : Except Error Registry := do
  Definition.checkFunctions [] definitions
  Definition.checkCodes definitions
  let functions ← Definition.buildFunctions definitions
  ofFunctions? functions

/-- The registry that raw definitions describe; without definitions it is empty. -/
def ofValues? : Option (List Value) → Except Error Registry
  | none => .ok empty
  | some values => do ofDefinitions? (← Definition.readFunctions values)

end Registry

namespace Call

/-- The calls that raw data describe: one call or a list of calls, none of them missing. -/
def listOfValue? : Value → Except Error (List Call)
  | .null => .error (.argument .noCallData)
  | .list items | .knot _ (.list items) => readItems items
  | v => readItems [v]
where
  /-- The calls that raw items describe. -/
  readItems : List Value → Except Error (List Call)
    | [] => .ok []
    | .null :: _ => .error (.argument .noCall)
    | v :: rest => do
      let definition ← Definition.accept "FunctionCallDefinition" (Definition.Call.read v)
      let call ← definition.build
      let calls ← readItems rest
      return call :: calls

end Call

end Scriptorium
