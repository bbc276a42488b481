import Scriptorium.Text.Blank
import Scriptorium.Text.Line

/-!
# Text for PowerShell

What a value goes through on its way into a command line that hands it to PowerShell: quotes are
escaped, and several lines are made one.
-/

set_option autoImplicit false
set_option relaxedAutoImplicit false

namespace Scriptorium.PowerShell

open Text

/-- A double quote as a command line has to hand it on. -/
def escapedQuote : List Char := ['"', '^', '"', '"']

/-- Escapes every double quote. -/
def escapeDoubleQuotes (text : List Char) : List Char :=
  text.flatMap fun c ↦ if c = '"' then escapedQuote else [c]

/-- Whether a stripped line is a statement: it is not empty and does not begin as a comment. -/
def isStatement : List Char → Bool
  | [] => false
  | c :: _ => c != '#'

/-- The lines of a snippet that are statements, each without blanks at its ends. -/
def statements (text : List Char) : List (List Char) :=
  ((lines text).map trim).filter isStatement

/-- A snippet in one line, its statements set apart by semicolons. -/
def inline (text : List Char) : List Char := [';', ' '].intercalate (statements text)

end Scriptorium.PowerShell
