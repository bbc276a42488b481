import Scriptorium.Yaml.Cursor

/-!
# Tokens of a document

What a document is made of. The nesting of block collections, which the text shows by indentation
alone, is marked by tokens of its own.
-/

set_option autoImplicit false
set_option relaxedAutoImplicit false

namespace Scriptorium.Yaml

/-- A line at the start of a document that is about the document. -/
inductive Directive where
  | version (major minor : Nat)
  | tagHandle (handle start : List Char)
  | other
  deriving DecidableEq, Repr

/-- A tag as it is written: a handle that stands for the start of the tag, if there is one, and the
rest. -/
structure TagToken where
  handle : Option (List Char)
  suffix : List Char
  deriving DecidableEq, Repr

/-- A token. The last token of a text that cannot be read to its end says why. -/
inductive Token where
  | directive (directive : Directive)
  | documentStart
  | documentEnd
  | blockSequenceStart
  | blockMappingStart
  | blockEnd
  | flowSequenceStart
  | flowSequenceEnd
  | flowMappingStart
  | flowMappingEnd
  | blockEntry
  | flowEntry
  | key
  | value
  | alias (name : List Char)
  | anchor (name : List Char)
  | tag (tag : TagToken)
  | scalar (text : List Char) (isPlain : Bool)
  | unreadable (failure : Failure)
  deriving DecidableEq, Repr

/-! ### Tokens of a name or two -/

/-- A decimal number of at least one digit. -/
def number? (p : Cursor) : Outcome (Nat × Cursor) :=
  let (digits, p) := p.span Char.isDigit
  if digits.isEmpty then malformed
  else .ok (digits.foldl (fun n c ↦ n * 10 + (c.toNat - 48)) 0, p)

/-- The name of an anchor or an alias, after its mark. -/
def anchorName (p : Cursor) : Outcome (List Char × Cursor) :=
  let (name, p) := p.span isNameChar
  let isEnd := match p.rest with
    | [] => true
    | c :: _ => isGap c || isBreak c || ['?', ':', ',', ']', '\x7d', '%', '@', '`'].contains c
  if name.isEmpty || !isEnd then malformed else .ok (name, p)

/-- Whether a character can stand in a tag or in what a handle stands for. -/
def isTagChar (c : Char) : Bool :=
  isNameChar c || [';', '/', '?', ':', '@', '&', '=', '+', '$', ',', '.', '!', '~', '*', '\'',
    '(', ')', '[', ']'].contains c

/-- The bytes that escapes of a tag write, two hexadecimal digits after each percent sign. -/
def tagEscapes : Nat → Cursor → Outcome (List UInt8 × Cursor)
  | 0, _ => malformed
  | bound + 1, p =>
    match p.rest with
    | '%' :: a :: b :: _ =>
      match hexNumber? [a, b] with
      | some n => do
        let (others, p) ← tagEscapes bound (p.advance 3)
        return (n.toUInt8 :: others, p)
      | none => malformed
    | '%' :: _ => malformed
    | _ => .ok ([], p)

/-- The characters of a tag, possibly none. -/
def tagChars : Nat → Cursor → Outcome (List Char × Cursor)
  | 0, _ => malformed
  | bound + 1, p =>
    match p.rest with
    | [] => .ok ([], p)
    | c :: _ =>
      if c == '%' then do
        let (bytes, p) ← tagEscapes p.bound p
        match String.fromUTF8? ⟨bytes.toArray⟩ with
        | none => malformed
        | some piece =>
          let (others, p) ← tagChars bound p
          return (piece.toList ++ others, p)
      else if isTagChar c then do
        let (others, p) ← tagChars bound p.next
        return (c :: others, p)
      else .ok ([], p)

/-- The characters of a tag, of which there has to be one. -/
def tagText (p : Cursor) : Outcome (List Char × Cursor) := do
  let (text, after) ← tagChars p.bound p
  if after.index == p.index then malformed else return (text, after)

/-- A handle: an exclamation mark alone, or a name between two of them. -/
def tagHandle (p : Cursor) : Outcome (List Char × Cursor) :=
  match p.rest with
  | '!' :: ' ' :: _ => .ok (['!'], p.next)
  | '!' :: _ =>
    let (name, after) := p.next.span isNameChar
    match after.rest with
    | '!' :: _ => .ok ('!' :: name ++ ['!'], after.next)
    | _ => malformed
  | _ => malformed

/-- Whether another exclamation mark comes before the next gap. -/
def hasHandle (text : List Char) : Bool :=
  (text.takeWhile fun c ↦ c != ' ' && !isBreak c).contains '!'

/-- The tag that comes next, from its exclamation mark on. -/
def tagToken (p : Cursor) : Outcome (TagToken × Cursor) := do
  let (tag, p) ← show Outcome (TagToken × Cursor) from
    match p.next.rest with
    | '<' :: _ => do
      let (suffix, p) ← tagText (p.advance 2)
      match p.rest with
      | '>' :: _ => return (⟨none, suffix⟩, p.next)
      | _ => malformed
    | rest =>
      if atGap rest then .ok (⟨none, ['!']⟩, p.next)
      else do
        let (handle, p) ← if hasHandle rest then tagHandle p else .ok (['!'], p.next)
        let (suffix, p) ← tagText p
        return (⟨some handle, suffix⟩, p)
  if atSpace p.rest then return (tag, p) else malformed

/-- What a directive for versions says. -/
def versionDirective (p : Cursor) : Outcome (Directive × Cursor) := do
  let (major, p) ← number? (p.skip (· == ' '))
  match p.rest with
  | '.' :: _ =>
    let (minor, p) ← number? p.next
    if atSpace p.rest then return (.version major minor, p) else malformed
  | _ => malformed

/-- What a directive for handles says. -/
def handleDirective (p : Cursor) : Outcome (Directive × Cursor) := do
  let (handle, p) ← tagHandle (p.skip (· == ' '))
  if p.rest.head? != some ' ' then malformed
  else
    let (start, p) ← tagText (p.skip (· == ' '))
    if atSpace p.rest then return (.tagHandle handle start, p) else malformed

/-- The directive that comes next, from its percent sign on, with the end of its line. -/
def directive (p : Cursor) : Outcome (Directive × Cursor) := do
  let (name, p) := p.next.span isNameChar
  if name.isEmpty || !atSpace p.rest then malformed
  else
    let (content, p) ←
      if name == ['Y', 'A', 'M', 'L'] then versionDirective p
      else if name == ['T', 'A', 'G'] then handleDirective p
      else .ok (.other, p.skip fun c ↦ !isBreak c)
    return (content, ← p.endLine?)

end Scriptorium.Yaml
