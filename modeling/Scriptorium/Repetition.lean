import Scriptorium.Dialect
import Scriptorium.Text.Alphanumeric
import Scriptorium.Text.Blank
import Scriptorium.Text.Line
import Scriptorium.Text.Lowercase
import Scriptorium.Text.Substitute

/-!
# Repeated lines

The lines of a code that run and stand in it more than once. Blank lines, lines of comment and lines
made of common words alone do not run. What a line is made of is decided without regard to case;
whether two lines are the same is not.
-/

set_option autoImplicit false
set_option relaxedAutoImplicit false

namespace Scriptorium

namespace Text

/-- Whether a text begins with a delimiter. A delimiter that ends in a letter or digit must not be
followed by another, where it would be the beginning of a longer word. -/
def beginsWith (delimiter text : List Char) : Bool :=
  match dropPrefix? delimiter text with
  | none => false
  | some [] => true
  | some (c :: _) => !((delimiter.getLast?.map isAlphanumeric).getD false && isAlphanumeric c)

/-- The items that stand in a list again after they were seen, each at its first return. Those
already returned are not told again. -/
def returning (seen returned : List (List Char)) : List (List Char) → List (List Char)
  | [] => []
  | line :: rest =>
    if line ∈ seen then
      if line ∈ returned then returning seen returned rest
      else line :: returning seen (line :: returned) rest
    else returning (line :: seen) returned rest

end Text

namespace Dialect

/-- Whether a line, without blanks around it and in lower case, is a comment. -/
def isComment (d : Dialect) (line : List Char) : Bool :=
  d.commentDelimiters.any fun delimiter ↦ Text.beginsWith (Text.lowercase delimiter.toList) line

/-- Whether a line, without blanks around it and in lower case, is made of common words alone. -/
def isCommon (d : Dialect) (line : List Char) : Bool :=
  (Text.words line).all fun word ↦ (d.commonWords.map String.toList).contains word

/-- Whether a line does not run. -/
def isIgnored (d : Dialect) (line : List Char) : Bool :=
  let line := Text.lowercase (Text.trim line)
  line.isEmpty || d.isComment line || d.isCommon line

/-- The lines of a code that run. -/
def executableLines (d : Dialect) (code : List Char) : List (List Char) :=
  (Text.lines code).filter fun line ↦ !d.isIgnored line

/-- The lines that run and stand in a code more than once, in the order in which they return. -/
def repeatedLines (d : Dialect) (code : String) : List String :=
  (Text.returning [] [] (d.executableLines code.toList)).map String.ofList

end Dialect

end Scriptorium
