import Scriptorium.Text.Printable
import Scriptorium.Text.Surrogate

/-!
# Quoted text

A text as it is shown inside a message or a list: between single quotes, or between double quotes
if it holds a single quote and no double one, with the quote, the backslash and everything that is
not printable escaped.
-/

set_option autoImplicit false
set_option relaxedAutoImplicit false

namespace Scriptorium.Text

/-- The last `width` hexadecimal digits of a number, lower case. -/
def hexDigits : Nat → Nat → List Char
  | 0, _ => []
  | width + 1, n => hexDigits width (n / 16) ++ [Nat.digitChar (n % 16)]

/-- A code point by its number: two, four or eight digits, as many as are needed. -/
def escapeCode (n : Nat) : List Char :=
  if n < 0x100 then '\\' :: 'x' :: hexDigits 2 n
  else if n < 0x10000 then '\\' :: 'u' :: hexDigits 4 n
  else '\\' :: 'U' :: hexDigits 8 n

/-- A code point between quotes of one kind. -/
def quotedCode (quote : Char) (n : Nat) : List Char :=
  let c := Char.ofNat n
  if isSurrogate n then escapeCode n
  else if c == quote || c == '\\' then ['\\', c]
  else if c == '\n' then ['\\', 'n']
  else if c == '\r' then ['\\', 'r']
  else if c == '\t' then ['\\', 't']
  else if isPrintable c then [c]
  else escapeCode n

/-- A text with every code point beyond ASCII written by its number. -/
def escapeBeyondAscii (text : List Char) : List Char :=
  (codes text).flatMap fun n ↦ if n < 128 then [Char.ofNat n] else escapeCode n

/-- The quote that a text is put between. -/
def quoteFor (text : List Char) : Char :=
  if text.contains '\'' && !text.contains '"' then '"' else '\''

/-- A text between quotes. -/
def quoted (text : List Char) : List Char :=
  quoteFor text :: (codes text).flatMap (quotedCode (quoteFor text)) ++ [quoteFor text]

end Scriptorium.Text
