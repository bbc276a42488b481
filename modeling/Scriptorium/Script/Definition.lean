import Scriptorium.Documentation
import Scriptorium.Expansion
import Scriptorium.Registry.Definition
import Scriptorium.Script

/-!
# Scripts from definitions

The script that a definition describes, among shared functions and in a dialect. A definition has
either code or calls. Calls are compiled; the code that they give has to be as valid as code that is
written out.
-/

set_option autoImplicit false
set_option relaxedAutoImplicit false

namespace Scriptorium

/-- What definitions of scripts are read with: the shared functions and the dialect. -/
structure Context where
  functions : Registry
  dialect : Dialect

/-- The context of raw definitions of functions and a raw name of a dialect. -/
def Context.ofValues? (functions : Option (List Value)) (language : Value) :
    Except Error Context := do
  let functions ← Registry.ofValues? functions
  let dialect ← Dialect.ofValue? language
  return ⟨functions, dialect⟩

namespace Definition.Script

/-- Whether a script has either code or calls, and revert code only with code. -/
def checkBody (s : Definition.Script) (name : String) : Except Error Unit :=
  let hasCode := hasText s.code
  let hasCall := hasCalls s.calls
  if hasCode && hasCall then .error (.script (.codeAndCall name))
  else if !hasCode && !hasCall then .error (.script (.neitherCodeNorCall name))
  else if hasCall && hasText s.revertCode then .error (.script (.revertWithCall name))
  else .ok ()

/-- The level that a script is recommended at, whose name may be in any case. -/
def buildLevel (s : Definition.Script) (name : String) : Except Error (Option Level) :=
  match s.recommend with
  | none => .ok none
  | some level =>
    match Level.ofName? (String.ofList (Text.lowercase level.toList)) with
    | some l => .ok (some l)
    | none => .error (.script (.unknownLevel level name (Level.all.map Level.name)))

/-- A text, if it is not empty. -/
def textOrNone (text : String) : Option String := if text = "" then none else some text

/-- The calls of a script. -/
def callList (s : Definition.Script) (name : String) : Except Error (List Scriptorium.Call) :=
  match buildCalls ((s.calls.map Calls.toList).getD []) with
  | .ok calls => .ok calls
  | .error (.argument cause) => .error (.script (.badCall name cause))
  | .error other => .error other

/-- The code of a script, as it is written or as its calls compile. -/
def buildCode (s : Definition.Script) (name : String) (context : Context) :
    Except Error ScriptCode :=
  if hasText s.code then .ok ⟨s.code.getD "", textOrNone (s.revertCode.getD "")⟩
  else do
    let calls ← s.callList name
    let compiled ← context.functions.compile calls
    return ⟨compiled.code, textOrNone compiled.revertCode⟩

/-- What is known of a script before its code is. -/
structure Head where
  name : String
  documentation : List String
  level : Option Level

/-- What a definition says of a script besides its code. -/
def head (s : Definition.Script) : Except Error Head := do
  let name := s.name.getD ""
  if name = "" then throw (.unnamed .script)
  s.checkBody name
  let level ← s.buildLevel name
  let documentation ← Documentation.ofDefinition? s.docs
  return ⟨name, documentation, level⟩

/-- The script that a definition describes. -/
def build (s : Definition.Script) (context : Context) : Except Error Scriptorium.Script := do
  let h ← s.head
  let code ← s.buildCode h.name context
  code.check context.dialect h.name
  return ⟨h.name, h.documentation, h.level, code⟩

end Definition.Script

/-- The script that a raw definition describes. -/
def Script.ofValue? (context : Option Context) (value : Value) : Except Error Script :=
  match value, context with
  | .null, _ => .error (.argument .noScript)
  | _, none => .error (.argument .noContext)
  | value, some context => do
    let definition ← Definition.accept "ScriptDefinition" (Definition.Script.read value)
    definition.build context

end Scriptorium
