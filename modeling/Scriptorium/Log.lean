import Scriptorium.Collection
import Scriptorium.Generation

/-!
# Log records

What is told of a run while it goes on: each step that has succeeded leaves a record, in the order
of the steps, and those before a failure stay. Every record is known from what the step is given;
nothing depends on it.
-/

set_option autoImplicit false
set_option relaxedAutoImplicit false

namespace Scriptorium

/-- How much a record matters. -/
inductive LogLevel where
  | debug
  | info
  | warning
  deriving DecidableEq, Repr

namespace LogLevel

/-- What a level is called. -/
def name : LogLevel → String
  | debug => "DEBUG"
  | info => "INFO"
  | warning => "WARNING"

/-- The order of the levels. -/
def rank : LogLevel → Nat
  | debug => 0
  | info => 1
  | warning => 2

end LogLevel

/-- A record, with the name of the part of the program that leaves it. -/
structure LogRecord where
  level : LogLevel
  source : String
  text : String
  deriving DecidableEq, Repr

namespace LogRecord

open Decimal (natText)

/-- Functions are registered. -/
def registered (count : Nat) : LogRecord :=
  ⟨.debug, "tweakscript.compiler.functions",
    "Registered " ++ natText count ++ " shared function(s)"⟩

/-- Calls are compiled. -/
def compiled (calls fragments : Nat) : LogRecord :=
  ⟨.debug, "tweakscript.compiler.call_compiler",
    "Compiled " ++ natText calls ++ " call(s) into " ++ natText fragments ++ " fragment(s)"⟩

/-- A script is complete. -/
def script (name : String) : LogRecord :=
  ⟨.debug, "tweakscript.parser.script", "Parsed script " ++ shownText name⟩

/-- The children of a category are complete. -/
def category (name : String) (scripts categories : Nat) : LogRecord :=
  ⟨.debug, "tweakscript.parser.category",
    "Parsed category " ++ shownText name ++ " (" ++ natText scripts ++ " script(s), "
      ++ natText categories ++ " sub-categories)"⟩

/-- A collection is complete. -/
def collection (os : String) (categories scripts : Nat) : LogRecord :=
  ⟨.info, "tweakscript.parser.collection",
    "Parsed collection for " ++ shownText os ++ ": " ++ natText categories ++ " categories, "
      ++ natText scripts ++ " scripts"⟩

/-- A script is left out because it cannot be reverted. -/
def skipped (name : String) : LogRecord :=
  ⟨.warning, "tweakscript.cli", "Skipping " ++ shownText name ++ ": no revert code"⟩

/-- A script is generated. -/
def generated (sections : Nat) : LogRecord :=
  ⟨.debug, "tweakscript.generation.generator",
    "Generated script with " ++ natText sections ++ " section(s)"⟩

end LogRecord

/-- The records of a result; a failure leaves none. -/
def logOf {α : Type} (result : Except Error α) (records : α → List LogRecord) : List LogRecord :=
  match result with
  | .ok a => records a
  | .error _ => []

namespace Definition

/-- The records of compiling the calls of a script with a name. -/
def Script.compileLog (s : Definition.Script) (name : String) (context : Context) :
    List LogRecord :=
  if hasText s.code then []
  else
    logOf (s.callList name) fun calls ↦
      logOf (context.functions.expandCalls calls) fun fragments ↦
        [.compiled calls.length fragments.length]

/-- The records of a script. -/
def Script.log (s : Definition.Script) (context : Context) : List LogRecord :=
  logOf s.head fun h ↦
    s.compileLog h.name context ++ logOf (s.build context) fun _ ↦ [.script h.name]

mutual

/-- The records of a child of a category. -/
def Child.log (context : Context) : Child → List LogRecord
  | .script s => s.log context
  | .category name _ children => membersLog context (name.getD "") children

/-- The records of the children of a category with a name. -/
def membersLog (context : Context) (name : String) : Option (List Child) → List LogRecord
  | none => []
  | some children =>
    if name = "" || children.isEmpty then []
    else
      childrenLog context children ++ logOf (buildChildren context children) fun m ↦
        [.category name m.scripts.length m.categories.length]

/-- The records of children, up to the first failure. -/
def childrenLog (context : Context) : List Child → List LogRecord
  | [] => []
  | c :: rest => c.log context ++ logOf (c.build context) fun _ ↦ childrenLog context rest

end

/-- The records of categories, up to the first failure. -/
def categoriesLog (context : Context) : List Definition.Category → List LogRecord
  | [] => []
  | c :: rest =>
    membersLog context (c.name.getD "") c.children
      ++ logOf (c.build context) fun _ ↦ categoriesLog context rest

/-- The records of a collection. -/
def Collection.log (c : Definition.Collection) (project : Project) (date : Date) : List LogRecord :=
  if c.actions.isEmpty then []
  else
    logOf (Scripting.buildGiven c.scripting project date) fun scripting ↦
      logOf (Registry.ofDefinitions? c.functions) fun functions ↦
        .registered functions.size :: categoriesLog ⟨functions, scripting.dialect⟩ c.actions
          ++ logOf (c.build project date) fun collection ↦
            [.collection collection.os collection.actions.length collection.scripts.length]

end Definition

/-- The records of generating a script from a selection. -/
def generationLog (selections : List Selection) (w : Wrapping) : List LogRecord :=
  if selections.isEmpty then []
  else logOf (Generated.ofSelections? selections w) fun g ↦ [.generated g.positions.length]

end Scriptorium
