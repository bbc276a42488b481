import Scriptorium.Call
import Scriptorium.Text.Lowercase

/-!
# Shared functions

A shared function has a name, parameters and a body, which is either code with placeholders or a
sequence of calls of other shared functions. Those are known by name alone.
-/

set_option autoImplicit false
set_option relaxedAutoImplicit false

namespace Scriptorium

/-- A parameter of a shared function. -/
structure Parameter where
  name : String
  isRequired : Bool
  deriving DecidableEq

/-- The code of a shared function: what applies it, and what reverts it. -/
structure FunctionCode where
  execute : String
  revert : String
  deriving DecidableEq

/-- The body of a shared function. -/
inductive FunctionBody where
  | code (code : FunctionCode)
  | calls (calls : List Call)
  deriving DecidableEq

/-- A shared function. -/
structure Function where
  name : String
  parameters : List Parameter
  body : FunctionBody
  deriving DecidableEq

namespace Function

/-- The names of the parameters, in order. -/
def parameterNames (f : Function) : List String := f.parameters.map (·.name)

/-- What two functions of a registry must not have in common: the name without regard to case. -/
def key (f : Function) : List Char := Text.lowercase f.name.toList

end Function

end Scriptorium
