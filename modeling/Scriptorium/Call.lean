import Scriptorium.Arguments

/-!
# Calls

A call names a shared function and gives it arguments. The name is looked up only when the call is
expanded.
-/

set_option autoImplicit false
set_option relaxedAutoImplicit false

namespace Scriptorium

/-- A call of a shared function. -/
structure Call where
  function : String
  arguments : Arguments
  named : function ≠ ""
  deriving DecidableEq

namespace Call

/-- The call of a function with raw arguments. The name is looked at first. -/
def ofValues? (function : Option String) (arguments : List (Value × Value)) : Except Error Call :=
  match function with
  | none => .error (.argument .unnamedCall)
  | some name =>
    if h : name = "" then .error (.argument .unnamedCall)
    else do
      let arguments ← Arguments.ofValues? arguments
      return ⟨name, arguments, h⟩

end Call

end Scriptorium
