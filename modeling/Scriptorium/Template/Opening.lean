import Scriptorium.Text.Blank

/-!
# Openings of tags

Where a tag begins in the text of a template. A print tag opens with two braces, a blank and a
dollar sign, a comment with a brace and two number signs, a statement with a brace and a percent
sign; a raw section is a statement of its own kind whose contents are not read. A sign after the
opening decides about the white space before it. `splitAtOpening` divides a text at its first
opening.
-/

set_option autoImplicit false
set_option relaxedAutoImplicit false

namespace Scriptorium.Template

open Text

/-- What a sign beside the mark of a tag asks for: to strip all blanks on that side, to keep them
all, or neither. -/
inductive Sign where
  | strip
  | keep
  | plain
  deriving DecidableEq, Repr

/-- What a tag is for. -/
inductive TagKind where
  | raw
  | print
  | comment
  | statement
  deriving DecidableEq, Repr

/-- A sign, and the text after it. -/
def readSign : List Char → Sign × List Char
  | '-' :: rest => (.strip, rest)
  | '+' :: rest => (.keep, rest)
  | rest => (.plain, rest)

/-- The text after the end of a statement that need not trim anything, if it begins with one: a mark
with a minus takes the blanks after it along. -/
def readPlainEnd? : List Char → Option (List Char)
  | '-' :: '%' :: '\x7d' :: rest => some (trimLeft rest)
  | '%' :: '\x7d' :: rest => some rest
  | _ => none

/-- The text after one leading line feed, if there is one. -/
def dropNewline : List Char → List Char
  | '\n' :: rest => rest
  | rest => rest

/-- The text after the end of a statement, if it begins with one: a bare mark takes one line feed
along. -/
def readStatementEnd? : List Char → Option (List Char)
  | '+' :: '%' :: '\x7d' :: rest => some rest
  | '-' :: '%' :: '\x7d' :: rest => some (trimLeft rest)
  | '%' :: '\x7d' :: rest => some (dropNewline rest)
  | _ => none

/-- The text after the end of a print tag, if it begins with one. -/
def readPrintEnd? : List Char → Option (List Char)
  | '-' :: '\x7d' :: '\x7d' :: rest => some (trimLeft rest)
  | '\x7d' :: '\x7d' :: rest => some rest
  | _ => none

/-- The text after the end of a comment, if it begins with one. -/
def readCommentEnd? : List Char → Option (List Char)
  | '+' :: '#' :: '#' :: '\x7d' :: rest => some rest
  | '-' :: '#' :: '#' :: '\x7d' :: rest => some (trimLeft rest)
  | '#' :: '#' :: '\x7d' :: rest => some (dropNewline rest)
  | _ => none

/-- The text after a keyword and the blanks around it. -/
def readKeyword? (keyword text : List Char) : Option (List Char) :=
  let inner := trimLeft text
  if keyword.isPrefixOf inner then some (trimLeft (inner.drop keyword.length)) else none

/-- The opening that a text begins with: its kind, its sign and the text after it. -/
def readOpening? : List Char → Option (TagKind × Sign × List Char)
  | '\x7b' :: '%' :: rest =>
    let (sign, inner) := readSign rest
    match (readKeyword? ['r', 'a', 'w'] inner).bind readPlainEnd? with
    | some body => some (.raw, sign, body)
    | none => some (.statement, sign, inner)
  | '\x7b' :: '\x7b' :: ' ' :: '$' :: rest =>
    let (sign, inner) := readSign rest
    some (.print, sign, inner)
  | '\x7b' :: '#' :: '#' :: rest =>
    let (sign, inner) := readSign rest
    some (.comment, sign, inner)
  | _ => none

/-- The text before the first opening and the opening, if there is one. -/
def splitAtOpening : List Char → List Char × Option (TagKind × Sign × List Char)
  | [] => ([], none)
  | c :: rest =>
    match readOpening? (c :: rest) with
    | some opening => ([], some opening)
    | none =>
      let (before, opening) := splitAtOpening rest
      (c :: before, opening)

/-- The text before the end of a comment and the text after it. -/
def splitAtCommentEnd? : List Char → Option (List Char × List Char)
  | [] => none
  | c :: rest =>
    match readCommentEnd? (c :: rest) with
    | some after => some ([], after)
    | none => (splitAtCommentEnd? rest).map fun (before, after) ↦ (c :: before, after)

/-- The sign and the text after the end of a raw section, if a text begins with one. -/
def readRawEnd? : List Char → Option (Sign × List Char)
  | '\x7b' :: '%' :: rest =>
    let (sign, inner) := readSign rest
    ((readKeyword? ['e', 'n', 'd', 'r', 'a', 'w'] inner).bind readStatementEnd?).map (sign, ·)
  | _ => none

/-- The contents of a raw section, the sign of its end and the text after it. -/
def splitAtRawEnd? : List Char → Option (List Char × Sign × List Char)
  | [] => none
  | c :: rest =>
    match readRawEnd? (c :: rest) with
    | some (sign, after) => some ([], sign, after)
    | none => (splitAtRawEnd? rest).map fun (before, sign, after) ↦ (c :: before, sign, after)

/-- Text up to and including its last line feed, if all after it is blank and not nothing, and there
is a line feed or the text starts a line. -/
def withoutIndent (startsLine : Bool) (text : List Char) : List Char :=
  let indent := (text.reverse.takeWhile (· != '\n')).reverse
  let before := text.take (text.length - indent.length)
  if (startsLine || !before.isEmpty) && isBlankText indent then before else text

/-- The text before a tag as it stays: a minus strips its blanks, and before a statement or a
comment that is alone at the start of its line the indentation goes. -/
def textBefore (startsLine : Bool) (kind : TagKind) (sign : Sign) (text : List Char) : List Char :=
  match sign, kind with
  | .strip, _ => trimRight text
  | .plain, .print => text
  | .plain, _ => withoutIndent startsLine text
  | .keep, _ => text

end Scriptorium.Template
