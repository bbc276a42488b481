import Scriptorium.Error

/-!
# Dialects

The languages that scripts are written in: how each is called, how its comments begin, which words
are too common to count as code, where its lines end, and how it prints a text.
-/

set_option autoImplicit false
set_option relaxedAutoImplicit false

namespace Scriptorium

/-- A language for scripts. -/
inductive Dialect where
  | shell
  | batch
  deriving DecidableEq, Repr

namespace Dialect

/-- Every dialect. -/
def all : List Dialect := [shell, batch]

/-- What a dialect is called in a definition. -/
def name : Dialect → String
  | shell => "shellscript"
  | batch => "batchfile"

/-- The dialect with a name. -/
def ofName? (name : String) : Option Dialect := all.find? fun d ↦ d.name == name

/-- The dialect that a raw value names. -/
def ofValue? (value : Value) : Except Error Dialect :=
  match value with
  | .text name =>
    match ofName? name with
    | some d => .ok d
    | none => .error (.unknownLanguage value)
  | _ => .error (.unknownLanguage value)

@[simp] theorem ofValue?_name (d : Dialect) : ofValue? (.text d.name) = .ok d := by cases d <;> rfl

/-- The ending of the name of a file in a dialect. -/
def fileExtension : Dialect → String
  | shell => "sh"
  | batch => "bat"

/-- How a line of comment can begin. -/
def commentDelimiters : Dialect → List String
  | shell => ["#"]
  | batch => ["REM", "::"]

/-- The words that a line can be made of without being code of its own. -/
def commonWords : Dialect → List String
  | shell => ["(", ")", "else", "fi"]
  | batch => ["(", ")", "else"]

/-- How a line of comment is begun when one is written. -/
def commentMark : Dialect → String
  | shell => "#"
  | batch => "::"

/-- What stands between lines. -/
def lineEnd : Dialect → String
  | shell => "\n"
  | batch => "\r\n"

/-- A character between single quotes for the shell: a single quote closes the quotes, stands for
itself after a backslash, and opens them again. -/
def shellQuoted (c : Char) : List Char := if c = '\'' then ['\'', '\\', '\'', '\''] else [c]

/-- A character in an argument for the batch processor, which joins commands at an ampersand and
replaces variables at a percent sign. -/
def batchEscaped (c : Char) : List Char :=
  if c = '&' then ['^', '&'] else if c = '%' then ['%', '%'] else [c]

/-- The command that prints a text. -/
def echo (d : Dialect) (text : String) : String :=
  match d with
  | shell => "echo '" ++ String.ofList (text.toList.flatMap shellQuoted) ++ "'"
  | batch => "echo " ++ String.ofList (text.toList.flatMap batchEscaped)

end Dialect

end Scriptorium
