import Scriptorium.Repetition

/-!
# Scripts

A script is a named piece of code that is applied, with the code that reverts it if there is any. A
code is valid if it is not blank, differs from its revert code, and neither of the two repeats a
line that runs.
-/

set_option autoImplicit false
set_option relaxedAutoImplicit false

namespace Scriptorium

/-- How safely a script can be applied without being read first. -/
inductive Level where
  | standard
  | strict
  deriving DecidableEq, Repr

namespace Level

/-- Every level, the safest first. -/
def all : List Level := [standard, strict]

/-- What a level is called. -/
def name : Level → String
  | standard => "standard"
  | strict => "strict"

/-- The level with a name. -/
def ofName? (name : String) : Option Level := all.find? fun l ↦ l.name == name

/-- Whether a level takes in the scripts of another: the strict one takes in all. -/
def includes : Level → Level → Bool
  | standard, l => l == standard
  | strict, _ => true

end Level

/-- The code of a script: what applies it, and what reverts it. -/
structure ScriptCode where
  execute : String
  revert : Option String
  deriving DecidableEq, Repr

/-- A script. -/
structure Script where
  name : String
  documentation : List String
  level : Option Level
  code : ScriptCode
  deriving DecidableEq, Repr

/-- Whether a script has code that reverts it. -/
def Script.canRevert (s : Script) : Bool := (s.code.revert.getD "") != ""

namespace ScriptCode

/-- Whether no line that runs stands more than once in a code. -/
def checkLines (d : Dialect) (code : String) : Except Error Unit :=
  match d.repeatedLines code with
  | [] => .ok ()
  | lines => .error (.repeatedLines lines)

/-- Whether the code of a script with a name is valid in a dialect. -/
def check (code : ScriptCode) (d : Dialect) (name : String) : Except Error Unit := do
  if Text.isBlankText code.execute.toList then throw (.script (.emptyCode name))
  let revert := code.revert.getD ""
  if revert = code.execute then throw (.script (.sameRevert name))
  checkLines d code.execute
  checkLines d revert

end ScriptCode

end Scriptorium
