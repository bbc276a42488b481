import Scriptorium.Category
import Scriptorium.Script.Definition

/-!
# Categories from definitions

The category that a definition describes. Its children are read one after the other, in the order in
which they stand, and sorted into scripts and categories; its documentation is looked at last.
-/

set_option autoImplicit false
set_option relaxedAutoImplicit false

namespace Scriptorium

/-- The children of a category, those of each kind in order. -/
structure Members where
  scripts : List Script
  categories : List Category

namespace Definition

mutual

/-- The members of a category that a child of it gives. -/
def Child.build (context : Context) : Child → Except Error Members
  | .script s => do return ⟨[← s.build context], []⟩
  | .category name docs children => do
    let name := name.getD ""
    if name = "" then throw (.unnamed .category)
    let members ← buildMembers context name children
    let documentation ← Documentation.ofDefinition? docs
    return ⟨[], [⟨name, documentation, members.scripts, members.categories⟩]⟩

/-- The members that the children of a category give, of which there has to be one. -/
def buildMembers (context : Context) (name : String) : Option (List Child) → Except Error Members
  | none => .error (.emptyCategory name)
  | some children =>
    if children.isEmpty then .error (.emptyCategory name) else buildChildren context children

/-- The members that children give. -/
def buildChildren (context : Context) : List Child → Except Error Members
  | [] => .ok ⟨[], []⟩
  | c :: rest => do
    let first ← c.build context
    let others ← buildChildren context rest
    return ⟨first.scripts ++ others.scripts, first.categories ++ others.categories⟩

end

/-- The category that a definition describes. -/
def Category.build (c : Definition.Category) (context : Context) :
    Except Error Scriptorium.Category := do
  let name := c.name.getD ""
  if name = "" then throw (.unnamed .category)
  let members ← buildMembers context name c.children
  let documentation ← Documentation.ofDefinition? c.docs
  return ⟨name, documentation, members.scripts, members.categories⟩

/-- The categories that definitions describe, the first failure first. -/
def buildCategories (context : Context) : List Definition.Category →
    Except Error (List Scriptorium.Category)
  | [] => .ok []
  | c :: rest => do
    let category ← c.build context
    let categories ← buildCategories context rest
    return category :: categories

end Definition

/-- The category that a raw definition describes. -/
def Category.ofValue? (context : Option Context) (value : Value) : Except Error Category :=
  match value, context with
  | .null, _ => .error .noCategory
  | _, none => .error (.argument .noContext)
  | value, some context => do
    let definition ← Definition.accept "CategoryDefinition" (Definition.Category.read value)
    definition.build context

end Scriptorium
