import Scriptorium.Category.Definition
import Scriptorium.Scripting

/-!
# Collections

Everything that is defined for an operating system: categories of scripts and the scripting section
they share. No two scripts of a collection have the same name.
-/

set_option autoImplicit false
set_option relaxedAutoImplicit false

namespace Scriptorium

/-- A collection. -/
structure Collection where
  os : String
  scripting : Scripting
  actions : List Category

namespace Collection

/-- The scripts of a collection, category by category. -/
def scripts (c : Collection) : List Script := scriptsOfAll c.actions

/-- The script with a name. -/
def find? (c : Collection) (name : String) : Option Script := c.scripts.find? fun s ↦ s.name == name

/-- The scripts that are recommended at a level. -/
def recommended (c : Collection) (level : Level) : List Script :=
  c.scripts.filter fun s ↦
    match s.level with
    | some l => level.includes l
    | none => false

end Collection

/-- The names that stand in a list more than once, each where it stands first. -/
def repeatedNames (names : List String) : List String :=
  names.eraseDups.filter fun n ↦ 1 < names.count n

/-- Whether no two scripts of categories have the same name. -/
def checkNames (actions : List Category) : Except Error Unit :=
  match repeatedNames ((scriptsOfAll actions).map (·.name)) with
  | [] => .ok ()
  | names => .error (.collection (.repeatedScripts names))

namespace Definition.Collection

/-- The collection that a definition describes: first the scripting section, then the functions,
then the categories. -/
def build (c : Definition.Collection) (project : Project) (date : Date) :
    Except Error Scriptorium.Collection := do
  if c.actions.isEmpty then throw (.collection .noActions)
  let scripting ← Scripting.buildGiven c.scripting project date
  let functions ← Registry.ofDefinitions? c.functions
  let actions ← buildCategories ⟨functions, scripting.dialect⟩ c.actions
  checkNames actions
  return ⟨c.os.getD "", scripting, actions⟩

end Definition.Collection

/-- The collection that a raw definition describes. -/
def Collection.ofValue? (value : Value) (project : Project) (date : Date) :
    Except Error Collection :=
  match value with
  | .null => .error (.argument .noCollection)
  | value => do
    let definition ← Definition.accept "CollectionDefinition" (Definition.Collection.read value)
    definition.build project date

end Scriptorium
