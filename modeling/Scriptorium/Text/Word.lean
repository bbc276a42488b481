import Scriptorium.Text.Blank
import Scriptorium.Text.Line

/-!
# Words and kept lines

Dividing a text at its blanks, at most so many times, from either end, and at its line breaks with
the breaks kept.
-/

set_option autoImplicit false
set_option relaxedAutoImplicit false

namespace Scriptorium.Text

/-- The first `limit` words of a text, and then what is left after the blanks behind them, if that
is not nothing. -/
def firstWords : Nat → List Char → List (List Char)
  | 0, text => if (trimLeft text).isEmpty then [] else [trimLeft text]
  | limit + 1, text =>
    let inner := trimLeft text
    if inner.isEmpty then []
    else inner.takeWhile (!isBlank ·) :: firstWords limit (inner.dropWhile (!isBlank ·))

/-- The last `limit` words of a text after what is left before the blanks in front of them. -/
def lastWords (limit : Nat) (text : List Char) : List (List Char) :=
  ((firstWords limit text.reverse).map List.reverse).reverse

/-- The lines of a text with their breaks. -/
def linesKept : List Char → List (List Char)
  | [] => []
  | '\r' :: '\n' :: rest => ['\r', '\n'] :: linesKept rest
  | c :: rest =>
    if isLineBreak c then [c] :: linesKept rest
    else match linesKept rest with
      | [] => [[c]]
      | line :: others => (c :: line) :: others

end Scriptorium.Text
