import Scriptorium.Definition.Shape

/-!
# Definitions

The records that a collection is written in: parameters, calls, functions, scripts, categories, the
scripting section and the collection itself. A definition only has the right shape; whether it makes
sense is for later. `read` reads a raw value as a definition, `dump` writes a definition as a raw
value in which every field goes by one name.
-/

set_option autoImplicit false
set_option relaxedAutoImplicit false

namespace Scriptorium.Definition

/-- A parameter of a shared function. -/
structure Parameter where
  name : Option String
  isOptional : Option Bool
  isRequired : Option Bool

/-- A call of a shared function. -/
structure Call where
  function : Option String
  parameters : Option Mapping

/-- One call, or a list of calls. -/
inductive Calls where
  | one (call : Call)
  | many (calls : List Call)

/-- A shared function: code, or calls. -/
structure Function where
  name : Option String
  parameters : List Parameter
  code : Option String
  revertCode : Option String
  calls : Option Calls

/-- One address of documentation, or a list of them. -/
inductive Docs where
  | one (url : String)
  | many (urls : List String)
  deriving DecidableEq

/-- A script: code, or calls. -/
structure Script where
  name : Option String
  docs : Option Docs
  code : Option String
  revertCode : Option String
  calls : Option Calls
  recommend : Option String

/-- A category, or a script, as the child of a category. -/
inductive Child where
  | script (script : Script)
  | category (name : Option String) (docs : Option Docs) (children : Option (List Child))

/-- A group of scripts and further categories. -/
structure Category where
  name : Option String
  docs : Option Docs
  children : Option (List Child)

/-- The dialect, and the code put around every script. -/
structure Scripting where
  language : Option String
  fileExtension : Option String
  startCode : Option String
  endCode : Option String

/-- A whole collection. -/
structure Collection where
  os : Option String
  scripting : Option Scripting
  functions : List Function
  actions : List Category

/-- A parameter is required if it says so, and else unless it is optional. -/
def Parameter.required (p : Parameter) : Bool := p.isRequired.getD !(p.isOptional.getD false)

/-- A category as a child. -/
def Category.toChild (c : Category) : Child := .category c.name c.docs c.children

/-! ### Reading -/

/-- Reads a parameter. -/
def Parameter.read : Value → Reading Parameter :=
  record fun entries ↦
    Parameter.mk <$> field entries ["name"] none (optional text)
      <*> field entries ["optional"] none (optional bool)
      <*> field entries ["isRequired", "is_required", "required"] none (optional bool)

/-- Reads a call. -/
def Call.read : Value → Reading Call :=
  record fun entries ↦
    Call.mk <$> field entries ["function", "functionName", "function_name"] none (optional text)
      <*> field entries ["parameters", "arguments"] none (optional mapping)

/-- Reads one call or a list of calls. A value that is neither has the problems of both. -/
def Calls.read (v : Value) : Reading Calls :=
  Reading.either (Calls.one <$> (Call.read v).below "FunctionCallDefinition")
    (Calls.many <$> (listOf Call.read v).below "list[FunctionCallDefinition]")

/-- Reads a shared function. -/
def Function.read : Value → Reading Function :=
  record fun entries ↦
    Function.mk <$> field entries ["name"] none (optional text)
      <*> field entries ["parameters"] [] (listOf Parameter.read)
      <*> field entries ["code", "do"] none (optional text)
      <*> field entries ["revertCode", "revert", "revert_code"] none (optional text)
      <*> field entries ["call", "calls"] none (optional Calls.read)

/-- Reads one address or a list of addresses. A value that is neither has the problems of both. -/
def Docs.read (v : Value) : Reading Docs :=
  Reading.either (Docs.one <$> (text v).below "str")
    (Docs.many <$> (listOf text v).below "list[str]")

/-- Reads the entries of a script. -/
def Script.readEntries (entries : List (Value × Value)) : Reading Script :=
  Script.mk <$> field entries ["name"] none (optional text)
    <*> field entries ["docs"] none (optional Docs.read)
    <*> field entries ["code"] none (optional text)
    <*> field entries ["revertCode", "revert_code"] none (optional text)
    <*> field entries ["call"] none (optional Calls.read)
    <*> field entries ["recommend"] none (optional text)

/-- Reads a script. -/
def Script.read : Value → Reading Script := record Script.readEntries

/-- Whether the entries of a child are those of a category. -/
def isCategory (entries : List (Value × Value)) : Bool :=
  (Value.get? entries "children").isSome || (Value.get? entries "category").isSome

/-- Reads the name and the documentation of a category, for the children that it is then given. -/
def Category.readHead (entries : List (Value × Value)) : Reading (Option (List Child) → Category) :=
  Category.mk <$> field entries ["category", "name"] none (optional text)
    <*> field entries ["docs"] none (optional Docs.read)

/-- The child that entries make, given the reading of the children among them. -/
def Child.ofEntries (entries : List (Value × Value)) (children : Reading (Option (List Child))) :
    Reading Child :=
  if isCategory entries then
    (Category.toChild <$> (Category.readHead entries <*> children)).below "category"
  else (Child.script <$> Script.readEntries entries).below "script"

mutual

/-- Reads a child of a category: a category if it has the name of one or children, and else a
script. A category cannot be its own child. `above` are the numbers of the categories that it stands
in. -/
def Child.read (above : List Nat) : Value → Reading Child
  | .map entries => Child.ofEntries entries (readChildrenField above entries)
  | .knot number (.map entries) =>
    if isCategory entries && above.contains number then
      (Reading.problem .recursion : Reading Child).below "category"
    else Child.ofEntries entries (readChildrenField (number :: above) entries)
  | _ => (Reading.problem .record : Reading Child).below "script"

/-- Reads the children among the entries of a category. -/
def readChildrenField (above : List Nat) : List (Value × Value) → Reading (Option (List Child))
  | [] => .accepted none
  | (key, v) :: rest =>
    if key.sameKey (.text "children") then (readChildren above v).below "children"
    else readChildrenField above rest

/-- Reads the children of a category. -/
def readChildren (above : List Nat) : Value → Reading (Option (List Child))
  | .null => .accepted none
  | .list xs | .set xs | .knot _ (.list xs) => some <$> readChildItems above 0 xs
  | _ => .problem .list

/-- Reads children that begin at an index. -/
def readChildItems (above : List Nat) : Nat → List Value → Reading (List Child)
  | _, [] => .accepted []
  | i, v :: rest =>
    List.cons <$> (Child.read above v).below (Decimal.natText i)
      <*> readChildItems above (i + 1) rest

end

/-- Reads a category. -/
def Category.read (v : Value) : Reading Category :=
  record (fun entries ↦ Category.readHead entries <*> readChildrenField v.numbers entries) v

/-- Reads a scripting section. -/
def Scripting.read : Value → Reading Scripting :=
  record fun entries ↦
    Scripting.mk <$> field entries ["language"] none (optional text)
      <*> field entries ["fileExtension", "file_extension"] none (optional text)
      <*> field entries ["startCode", "start_code"] none (optional text)
      <*> field entries ["endCode", "end_code"] none (optional text)

/-- Reads a collection. -/
def Collection.read : Value → Reading Collection :=
  record fun entries ↦
    Collection.mk <$> field entries ["os"] none (optional text)
      <*> field entries ["scripting"] none (optional Scripting.read)
      <*> field entries ["functions"] [] (listOf Function.read)
      <*> field entries ["actions"] [] (listOf Category.read)

/-! ### Writing -/

/-- A parameter as a raw value. -/
def Parameter.dump (p : Parameter) : Value :=
  toRecord [("name", textValue p.name), ("optional", boolValue p.isOptional),
    ("is_required", boolValue p.isRequired)]

/-- A call as a raw value. -/
def Call.dump (c : Call) : Value :=
  toRecord [("function", textValue c.function),
    ("parameters", match c.parameters with
      | some m => toRecord m.entries
      | none => .null)]

/-- One call or a list of calls as a raw value. -/
def Calls.dump : Calls → Value
  | one c => c.dump
  | many cs => .list (cs.map Call.dump)

/-- Calls or nothing as a raw value. -/
def callsValue : Option Calls → Value
  | some c => c.dump
  | none => .null

/-- A shared function as a raw value. -/
def Function.dump (f : Function) : Value :=
  toRecord [("name", textValue f.name), ("parameters", .list (f.parameters.map Parameter.dump)),
    ("code", textValue f.code), ("revert_code", textValue f.revertCode),
    ("call", callsValue f.calls)]

/-- Documentation or nothing as a raw value. -/
def docsValue : Option Docs → Value
  | some (.one url) => .text url
  | some (.many urls) => .list (urls.map .text)
  | none => .null

/-- A script as a raw value. -/
def Script.dump (s : Script) : Value :=
  toRecord [("name", textValue s.name), ("docs", docsValue s.docs), ("code", textValue s.code),
    ("revert_code", textValue s.revertCode), ("call", callsValue s.calls),
    ("recommend", textValue s.recommend)]

mutual

/-- A child of a category as a raw value. -/
def Child.dump : Child → Value
  | .script s => s.dump
  | .category name docs children =>
    toRecord [("name", textValue name), ("docs", docsValue docs),
      ("children", dumpChildren children)]

/-- The children of a category as a raw value. -/
def dumpChildren : Option (List Child) → Value
  | none => .null
  | some children => .list (dumpAll children)

/-- Children as raw values. -/
def dumpAll : List Child → List Value
  | [] => []
  | c :: rest => c.dump :: dumpAll rest

end

/-- A category as a raw value. -/
def Category.dump (c : Category) : Value := c.toChild.dump

/-- A scripting section as a raw value. -/
def Scripting.dump (s : Scripting) : Value :=
  toRecord [("language", textValue s.language), ("file_extension", textValue s.fileExtension),
    ("start_code", textValue s.startCode), ("end_code", textValue s.endCode)]

/-- A collection as a raw value. -/
def Collection.dump (c : Collection) : Value :=
  toRecord [("os", textValue c.os),
    ("scripting", match c.scripting with
      | some s => s.dump
      | none => .null),
    ("functions", .list (c.functions.map Function.dump)),
    ("actions", .list (c.actions.map Category.dump))]

/-! ### Refusing -/

/-- A reading as the outcome of loading: a value with problems is refused under the name of what it
should have been. -/
def accept {α : Type} (what : String) (reading : Reading α) : Except Error α :=
  match reading with
  | .accepted a => .ok a
  | .refused problems => .error (.load (.badShape what problems))

/-- Exactly what is read is accepted, whatever it should have been. -/
theorem accept_eq_ok_iff {α : Type} {what : String} {reading : Reading α} {a : α} :
    accept what reading = .ok a ↔ reading = .accepted a := by
  cases reading <;> simp [accept]

end Scriptorium.Definition
