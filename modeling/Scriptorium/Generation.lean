import Scriptorium.Collection
import Scriptorium.Draft

/-!
# Generated scripts

The script that a selection makes: the code at the start, a section for every script that is
selected, and the code at the end. Where each section has come to stand is kept under its title. A
script can be selected both for itself and for being reverted, but neither of them twice.
-/

set_option autoImplicit false
set_option relaxedAutoImplicit false

namespace Scriptorium

/-- A script that is to be applied, or to be reverted. -/
structure Selection where
  script : Script
  revert : Bool

namespace Selection

/-- The title of the section of a selected script. -/
def title (s : Selection) : String :=
  if s.revert then s.script.name ++ " (revert)" else s.script.name

/-- The code of a selected script. -/
def code (s : Selection) : Except Error String :=
  if s.revert then
    match s.script.code.revert with
    | none | some "" => .error (.argument (.noRevertCode s.script.name))
    | some code => .ok code
  else .ok s.script.code.execute

end Selection

/-- The code put around a script, and the dialect as it is named. -/
structure Wrapping where
  language : Value
  startCode : String
  endCode : String

/-- What a scripting section puts around a script. -/
def Scripting.wrapping (s : Scripting) : Wrapping := ⟨.text s.dialect.name, s.startCode, s.endCode⟩

/-- The lines of a section under its title, counted from one. -/
structure Position where
  title : String
  first : Nat
  last : Nat
  deriving DecidableEq, Repr

/-- A script made from a selection. -/
structure Generated where
  code : String
  positions : List Position
  deriving DecidableEq, Repr

namespace Generated

/-- Adds the section of a selected script and an empty line. -/
def addSelection (b : Draft) (positions : List Position) (s : Selection) :
    Except Error (Draft × List Position) :=
  if s.title ∈ positions.map (·.title) then .error (.argument (.selectedTwice s.title))
  else do
    let after ← b.addSection s.title (← s.code)
    return (after.blank, positions ++ [⟨s.title, b.size + 1, after.size⟩])

/-- Adds the sections of selected scripts one after the other. -/
def addSelections (b : Draft) (positions : List Position) :
    List Selection → Except Error (Draft × List Position)
  | [] => .ok (b, positions)
  | s :: rest => do
    let (b, positions) ← addSelection b positions s
    addSelections b positions rest

/-- The script that a selection makes. Of an empty selection nothing comes. -/
def ofSelections? (selections : List Selection) (w : Wrapping) : Except Error Generated :=
  if selections.isEmpty then .ok ⟨"", []⟩
  else do
    let dialect ← Dialect.ofValue? w.language
    let opened :=
      if w.startCode = "" then Draft.empty dialect
      else ((Draft.empty dialect).code w.startCode).blank
    let (b, positions) ← addSelections opened [] selections
    let closed := if w.endCode = "" then b else b.blank.code w.endCode
    return ⟨closed.text, positions⟩

/-- The script that a selection makes, if there is one and something to put around it. -/
def ofGiven? (selections : Option (List Selection)) (w : Option Wrapping) :
    Except Error Generated :=
  match selections, w with
  | none, _ => .error (.argument .noSelection)
  | some _, none => .error (.argument .noScripting)
  | some selections, some w => ofSelections? selections w

end Generated

end Scriptorium
