import Scriptorium.Fault
import Scriptorium.Text.Surrogate

/-!
# Places in a document

How far the reading of a document has come: what is left of the text, and the line and the column,
both counted from zero. Where a line ends the column starts again; a byte order mark takes no
column.
-/

set_option autoImplicit false
set_option relaxedAutoImplicit false

namespace Scriptorium.Yaml

/-- Why a document is not read: it is no document, or a scalar in it denotes nothing. -/
inductive Failure where
  | malformed
  | fault (fault : Fault)
  deriving DecidableEq, Repr

/-- The outcome of a step of reading. -/
abbrev Outcome (α : Type) := Except Failure α

/-- The failure of a text that is no document. -/
def malformed {α : Type} : Outcome α := .error .malformed

/-! ### Classes of characters -/

/-- A character that ends a line. -/
def isBreak (c : Char) : Bool :=
  c == '\n' || c == '\r' || c == '\x85' || c == '\u2028' || c == '\u2029'

/-- A space or a tab. -/
def isGap (c : Char) : Bool := c == ' ' || c == '\t'

/-- A letter, a digit, a hyphen or an underscore. -/
def isNameChar (c : Char) : Bool := c.isAlphanum || c == '-' || c == '_'

/-- A character that a document can hold. -/
def isAllowed (c : Char) : Bool :=
  let n := c.toNat
  n == 9 || n == 10 || n == 13 || n == 0x85 || (32 ≤ n && n ≤ 126) || (0xa0 ≤ n && n ≤ 0xfffd)
    || (0x10000 ≤ n && !Text.isHalf c)

/-- The value of a hexadecimal digit. -/
def hexValue? (c : Char) : Option Nat :=
  if c.isDigit then some (c.toNat - 48)
  else if 'a' ≤ c && c ≤ 'f' then some (c.toNat - 87)
  else if 'A' ≤ c && c ≤ 'F' then some (c.toNat - 55)
  else none

/-- The number that hexadecimal digits write. -/
def hexNumber? (digits : List Char) : Option Nat :=
  digits.foldlM (fun n c ↦ (hexValue? c).map (n * 16 + ·)) 0

/-! ### What a text begins with -/

/-- Whether a text is at its end or begins with a space or the end of a line. -/
def atSpace : List Char → Bool
  | [] => true
  | c :: _ => c == ' ' || isBreak c

/-- Whether a text is at its end or begins with a space, a tab or the end of a line. -/
def atGap : List Char → Bool
  | [] => true
  | c :: _ => isGap c || isBreak c

/-- Whether a text is at its end or at the end of a line. -/
def atLineEnd : List Char → Bool
  | [] => true
  | c :: _ => isBreak c

/-- Whether a text begins with three times a character and then a gap. -/
def atMarkOf (mark : Char) : List Char → Bool
  | a :: b :: c :: rest => a == mark && b == mark && c == mark && atGap rest
  | _ => false

/-- Whether a text begins with a mark between documents. -/
def atMark (text : List Char) : Bool := atMarkOf '-' text || atMarkOf '.' text

/-! ### Cursors -/

/-- A place in a document. -/
structure Cursor where
  rest : List Char
  index : Nat
  line : Nat
  column : Nat
  deriving DecidableEq, Repr

namespace Cursor

/-- The start of a text. -/
def ofText (text : List Char) : Cursor := ⟨text, 0, 0, 0⟩

/-- The place after the next character. -/
def next (p : Cursor) : Cursor :=
  match p.rest with
  | [] => p
  | c :: rest =>
    if isBreak c && !(c == '\r' && rest.head? == some '\n') then ⟨rest, p.index + 1, p.line + 1, 0⟩
    else if c == '\ufeff' then ⟨rest, p.index + 1, p.line, p.column⟩
    else ⟨rest, p.index + 1, p.line, p.column + 1⟩

/-- The place after some characters. -/
def advance (p : Cursor) : Nat → Cursor
  | 0 => p
  | n + 1 => p.next.advance n

/-- The characters of a class that come next, and the place after them. -/
def span (p : Cursor) (class? : Char → Bool) : List Char × Cursor :=
  let taken := p.rest.takeWhile class?
  (taken, p.advance taken.length)

/-- The place after the characters of a class. -/
def skip (p : Cursor) (class? : Char → Bool) : Cursor := (p.span class?).2

/-- The end of a line that comes next, as the text that it stands for, and the place after it. -/
def lineBreak? (p : Cursor) : Option (Char × Cursor) :=
  match p.rest with
  | '\r' :: '\n' :: _ => some ('\n', p.advance 2)
  | c :: _ =>
    if c == '\u2028' || c == '\u2029' then some (c, p.next)
    else if isBreak c then some ('\n', p.next)
    else none
  | [] => none

/-- The place after a comment, if one comes next. -/
def skipComment (p : Cursor) : Cursor :=
  match p.rest with
  | '#' :: _ => p.skip fun c ↦ !isBreak c
  | _ => p

/-- The place after spaces, a comment and the end of a line; nothing else may come before it. -/
def endLine? (p : Cursor) : Outcome Cursor :=
  let p := (p.skip (· == ' ')).skipComment
  if atLineEnd p.rest then
    match p.lineBreak? with
    | some (_, p) => .ok p
    | none => .ok p
  else malformed

/-- How many characters are left, and one. It bounds the steps of a loop that goes through them. -/
def bound (p : Cursor) : Nat := p.rest.length + 1

end Cursor

/-- The text that the end of a line and those directly after it stand for: a single one is a space,
and the first of several stands for nothing, unless it is one that is kept. -/
def folded (first : Char) (others : List Char) : List Char :=
  if first != '\n' then first :: others
  else if others.isEmpty then [' ']
  else others

end Scriptorium.Yaml
