import Scriptorium.Script

/-!
# Categories

A category is a named group of scripts and of further categories.
-/

set_option autoImplicit false
set_option relaxedAutoImplicit false

namespace Scriptorium

/-- A category. -/
structure Category where
  name : String
  documentation : List String
  scripts : List Script
  categories : List Category

mutual

/-- The scripts of a category: its own, then those of its categories, each with those below it. -/
def Category.allScripts : Category → List Script
  | ⟨_, _, scripts, categories⟩ => scripts ++ scriptsOfAll categories

/-- The scripts of several categories. -/
def scriptsOfAll : List Category → List Script
  | [] => []
  | c :: rest => c.allScripts ++ scriptsOfAll rest

end

end Scriptorium
