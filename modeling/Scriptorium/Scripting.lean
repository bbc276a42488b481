import Scriptorium.Definition.Model
import Scriptorium.Dialect
import Scriptorium.Expansion

/-!
# Scripting sections

The dialect of a collection and the code put around every script that is made from it. That code can
use the name, the version and the homepage of the project and the date, by placeholders of these
names.
-/

set_option autoImplicit false
set_option relaxedAutoImplicit false

namespace Scriptorium

/-- What a project is called, which version it is, and where it is found. -/
structure Project where
  name : String
  version : String
  homepage : String
  deriving DecidableEq, Repr

/-- The dialect, and the code put before and after. -/
structure Scripting where
  dialect : Dialect
  fileExtension : String
  startCode : String
  endCode : String
  deriving DecidableEq, Repr

/-- What placeholders in the code around a script stand for. -/
def Project.placeholders (p : Project) (date : Date) : Arguments where
  entries := [("name", p.name), ("homepage", p.homepage), ("version", p.version),
    ("date", date.shortText)]
  nodup := by simp [entryNames]

namespace Definition.Scripting

/-- The scripting section that a definition describes. Without an ending for files of its own it
takes that of the dialect. -/
def build (s : Definition.Scripting) (project : Project) (date : Date) :
    Except Error Scriptorium.Scripting := do
  let dialect ← Dialect.ofValue? (textValue s.language)
  let fileExtension := match s.fileExtension with
    | none | some "" => dialect.fileExtension
    | some ending => ending
  let placeholders := project.placeholders date
  let startCode ← placeholders.fill (s.startCode.getD "")
  let endCode ← placeholders.fill (s.endCode.getD "")
  return ⟨dialect, fileExtension, startCode, endCode⟩

/-- The scripting section of a definition that may be missing. -/
def buildGiven (s : Option Definition.Scripting) (project : Project) (date : Date) :
    Except Error Scriptorium.Scripting :=
  match s with
  | none => .error (.collection .noScripting)
  | some s => s.build project date

end Definition.Scripting

/-- The scripting section that a raw definition describes. -/
def Scripting.ofValue? (value : Value) (project : Project) (date : Date) : Except Error Scripting :=
  match value with
  | .null => .error (.collection .noScripting)
  | value => do
    let definition ← Definition.accept "ScriptingDefinitionData" (Definition.Scripting.read value)
    definition.build project date

end Scriptorium
