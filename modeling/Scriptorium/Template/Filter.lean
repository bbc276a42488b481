import Scriptorium.PowerShell
import Scriptorium.Template.Method.Argument
import Scriptorium.Text.Lowercase
import Scriptorium.Text.Blank
import Scriptorium.Text.Substitute
import Scriptorium.Text.Uppercase

/-!
# Filters and tests

What a template can apply to a value with a bar, and what it can ask of one with `is`. Both are
looked up by name; arguments are matched to parameters by position first and then by name. There are
more of either in the language than are known here: those are left out, and are no unknown names.
-/

set_option autoImplicit false
set_option relaxedAutoImplicit false

namespace Scriptorium.Template

/-- A filter. -/
inductive Filter where
  | escapeDoubleQuotes
  | inlinePowerShell
  | upper
  | lower
  | trim
  | replace
  | length
  | default
  deriving DecidableEq, Repr

/-- The filter with a name. -/
def Filter.ofName? (name : String) : Option Filter :=
  match name with
  | "escape_double_quotes" => some .escapeDoubleQuotes
  | "inline_powershell" => some .inlinePowerShell
  | "upper" => some .upper
  | "lower" => some .lower
  | "trim" => some .trim
  | "replace" => some .replace
  | "length" | "count" => some .length
  | "default" | "d" => some .default
  | _ => none

/-- The filters that are left out. -/
def leftOutFilters : List String :=
  ["abs", "attr", "batch", "capitalize", "center", "dictsort", "e", "escape", "filesizeformat",
   "first", "float", "forceescape", "format", "groupby", "indent", "int", "items", "join", "last",
   "list", "map", "max", "min", "pprint", "random", "reject", "rejectattr", "reverse", "round",
   "safe", "select", "selectattr", "slice", "sort", "string", "striptags", "sum", "title", "tojson",
   "truncate", "unique", "urlencode", "urlize", "wordcount", "wordwrap", "xmlattr"]

/-- The names of a filter's parameters after the value. -/
def Filter.parameters : Filter → List String
  | trim => ["chars"]
  | replace => ["old", "new", "count"]
  | default => ["default_value", "boolean"]
  | _ => []

/-- A test. -/
inductive Test where
  | defined
  | undefined
  deriving DecidableEq, Repr

/-- The test with a name. -/
def Test.ofName? (name : String) : Option Test :=
  match name with
  | "defined" => some .defined
  | "undefined" => some .undefined
  | _ => none

/-- The tests that are left out. -/
def leftOutTests : List String :=
  ["boolean", "callable", "divisibleby", "eq", "equalto", "escaped", "even", "false", "filter",
   "float", "ge", "greaterthan", "gt", "in", "integer", "iterable", "le", "lessthan", "lower", "lt",
   "mapping", "ne", "none", "number", "odd", "sameas", "sequence", "string", "test", "true",
   "upper"]

/-- Strips the characters of a set from both ends. -/
def stripChars (chars text : List Char) : List Char :=
  Text.trimRightWhile chars.contains (text.dropWhile chars.contains)

/-- The result of a filter on a value and the arguments of its parameters. -/
def Filter.run (filter : Filter) (input : Item) (arguments : List (Option Item)) : Outcome Item :=
  match filter, arguments with
  | escapeDoubleQuotes, _ => do return .text (PowerShell.escapeDoubleQuotes (← input.textOf))
  | inlinePowerShell, _ => do return .text (PowerShell.inline (← input.textOf))
  | upper, _ => do return .text (Text.uppercase (← input.textOf))
  | lower, _ => do return .text (Text.lowercase (← input.textOf))
  | trim, [some (.text chars)] => do return .text (stripChars chars (← input.textOf))
  | trim, [some .none] | trim, [none] => do return .text (Text.trim (← input.textOf))
  | trim, _ => do
    let _ ← input.textOf
    typeMismatch
  | replace, [some old, some new, count] => do
    let text ← input.textOf
    let old ← old.textOf
    let new ← new.textOf
    match count with
    | none | some .none => return .text (Text.replaceAll old new text)
    | some count =>
      let n ← count.asSize
      if n < 0 then return .text (Text.replaceAll old new text)
      else return .text (Text.replaceFirst old new n.toNat text)
  | replace, _ => typeMismatch
  | length, _ => do return .int (← input.size)
  | default, [value, boolean] =>
    let replaceFalse := (boolean.map Item.isTrue).getD false
    if input.isAbsent || (replaceFalse && !input.isTrue) then return value.getD (.text [])
    else return input
  | default, _ => typeMismatch

/-- Applies the filter with a name. One that does not exist takes no arguments by name, and fails
only here. -/
def applyFilter (name : String) (input : Item) (arguments : List Item)
    (named : List (String × Item)) :
    Outcome Item :=
  match Filter.ofName? name with
  | none => if named.isEmpty then .error (.fault .notRenderable) else typeMismatch
  | some filter => do filter.run input (← bindArguments filter.parameters arguments named)

/-- Asks the test with a name. -/
def applyTest (name : String) (input : Item) (arguments : List Item)
    (named : List (String × Item)) :
    Outcome Item :=
  match Test.ofName? name with
  | none => if named.isEmpty then .error (.fault .notRenderable) else typeMismatch
  | some test => do
    let _ ← bindArguments [] arguments named
    match test with
    | .defined => return .bool (!input.isAbsent)
    | .undefined => return .bool input.isAbsent

end Scriptorium.Template
