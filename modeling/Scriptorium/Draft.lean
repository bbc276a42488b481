import Scriptorium.Dialect
import Scriptorium.Text.Blank

/-!
# Drafts

A script in the making: the lines written so far, in a dialect. Code is split into lines where it is
written, and empty lines of it are dropped. Comments are written as they are. A section is a heading
framed by hyphens, a command that prints its name, its code, and a closing line of hyphens.
-/

set_option autoImplicit false
set_option relaxedAutoImplicit false

namespace Scriptorium

/-- A script in the making. -/
structure Draft where
  dialect : Dialect
  lines : List String
  deriving DecidableEq, Repr

namespace Draft

/-- How many hyphens a line of them has, and how wide a heading is. -/
def headingWidth : Nat := 58

/-- The draft without lines. -/
def empty (d : Dialect) : Draft := ⟨d, []⟩

/-- The number of lines. -/
def size (b : Draft) : Nat := b.lines.length

/-- The draft with more lines. -/
def extend (b : Draft) (lines : List String) : Draft := { b with lines := b.lines ++ lines }

/-- Whether a character ends a line. -/
def isLineEnd (c : Char) : Bool := c == '\r' || c == '\n'

/-- The lines of code that are not empty. -/
def codeLines (code : String) : List String :=
  (Text.runs (fun c ↦ !isLineEnd c) code.toList).map String.ofList

/-- Adds an empty line. -/
def blank (b : Draft) : Draft := b.extend [""]

/-- Adds the lines of code, or an empty line if there is no code. -/
def code (b : Draft) (code : String) : Draft :=
  if code = "" then b.blank else b.extend (codeLines code)

/-- A line of comment in a dialect, without blanks at its end. -/
def commentLine (d : Dialect) (text : String) : String :=
  String.ofList (Text.trimRight (d.commentMark ++ " " ++ text).toList)

/-- Adds a line of comment. -/
def comment (b : Draft) (text : String) : Draft := b.extend [commentLine b.dialect text]

/-- Hyphens, of which there are none for a negative count. -/
def hyphens (count : Int) : String := String.ofList (List.replicate count.toNat '-')

/-- Adds a line of hyphens. -/
def rule (b : Draft) (count : Int) : Draft := b.comment (hyphens count)

/-- Adds a heading: a title with hyphens on both sides up to a width, the right side being one
longer if the sides cannot be even, between two lines of hyphens. A title as wide as that stands
alone. -/
def heading (b : Draft) (title : String) (width : Int) : Except Error Draft :=
  if title = "" then .error (.argument .emptySectionName)
  else if title.length ≥ width then .ok (b.comment title)
  else
    let padding := width - title.length
    .ok (((b.rule headingWidth).comment
      (hyphens (padding / 2) ++ title ++ hyphens (padding - padding / 2))).rule headingWidth)

/-- Adds a section. -/
def addSection (b : Draft) (title code : String) : Except Error Draft :=
  if title = "" then .error (.argument .emptyName)
  else if code = "" then .error (.argument .emptyCode)
  else do
    let b ← b.heading title headingWidth
    return ((b.code (b.dialect.echo ("--- " ++ title))).code code).rule headingWidth

/-- The text of the lines. -/
def text (b : Draft) : String := String.intercalate b.dialect.lineEnd b.lines

end Draft

end Scriptorium
