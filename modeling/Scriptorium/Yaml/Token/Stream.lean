import Scriptorium.Yaml.Scalar.Block
import Scriptorium.Yaml.Scalar.Plain
import Scriptorium.Yaml.Scalar.Quoted
import Scriptorium.Yaml.Token

/-!
# The tokens of a text

`tokens` reads a text from start to end. What is written before a colon turns out to be a key only
at the colon, so the places where a key may have begun are kept, one for each level of brackets,
until the line ends or the colon is found; then the token of the key is put in where it began.
-/

set_option autoImplicit false
set_option relaxedAutoImplicit false

namespace Scriptorium.Yaml

/-- A place where a key may have begun: how many tokens came before, and whether nothing but a key
can have begun there. -/
structure KeyStart where
  before : Nat
  isRequired : Bool
  index : Nat
  line : Nat
  column : Nat
  deriving DecidableEq, Repr

/-- The reading of tokens: those read so far, the last one first, and what the next ones depend
on. -/
structure Reader where
  place : Cursor
  read : List Token
  count : Nat
  indent : Int
  outer : List Int
  flowDepth : Nat
  allowsKey : Bool
  keyStarts : List (Nat × KeyStart)
  deriving Repr

namespace Reader

/-- The reading at the start of a text. A byte order mark at the start is no part of it. -/
def ofText (text : List Char) : Reader :=
  let place := Cursor.ofText text
  let place := if text.head? == some '\ufeff' then place.next else place
  ⟨place, [], 0, -1, [], 0, true, []⟩

/-- Whether the place is inside brackets. -/
def inFlow (r : Reader) : Bool := r.flowDepth != 0

/-- Adds a token and goes to the place after it. -/
def add (r : Reader) (token : Token) (place : Cursor) : Reader :=
  { r with read := token :: r.read, count := r.count + 1, place }

/-- Adds a token that takes no place. -/
def addMark (r : Reader) (token : Token) : Reader := r.add token r.place

/-- Puts a token in after some of those read. -/
def insertAt (r : Reader) (before : Nat) (token : Token) : Reader :=
  let later := r.count - before
  { r with read := r.read.take later ++ token :: r.read.drop later, count := r.count + 1 }

/-- Goes to the next token: over spaces, comments and ends of lines. After the end of a line a key
may begin, but not inside brackets. -/
def skipToToken : Nat → Reader → Reader
  | 0, r => r
  | bound + 1, r =>
    let place := (r.place.skip (· == ' ')).skipComment
    match place.lineBreak? with
    | some (_, place) => skipToToken bound { r with place, allowsKey := r.allowsKey || !r.inFlow }
    | none => { r with place }

/-- Gives up the places where a key cannot have begun any more, because the line has ended or too
much has come since. One where nothing else can have begun must not be given up. -/
def dropStale (r : Reader) : Outcome Reader :=
  let isStale (k : KeyStart) : Bool := k.line != r.place.line || 1024 < r.place.index - k.index
  if r.keyStarts.any fun (_, k) ↦ isStale k && k.isRequired then malformed
  else .ok { r with keyStarts := r.keyStarts.filter fun (_, k) ↦ !isStale k }

/-- Gives up the place where a key may have begun at the level of brackets. -/
def dropKeyStart (r : Reader) : Outcome Reader :=
  if r.keyStarts.any fun (depth, k) ↦ depth == r.flowDepth && k.isRequired then malformed
  else .ok { r with keyStarts := r.keyStarts.filter fun (depth, _) ↦ depth != r.flowDepth }

/-- Remembers that a key may begin here, if one may. -/
def markKeyStart (r : Reader) : Outcome Reader :=
  if r.allowsKey then do
    let r ← r.dropKeyStart
    let start := ⟨r.count, !r.inFlow && r.indent == r.place.column, r.place.index, r.place.line,
      r.place.column⟩
    return { r with keyStarts := (r.flowDepth, start) :: r.keyStarts }
  else .ok r

/-- Ends the block collections that are indented further than a column. -/
def unindent (column : Int) : List Int → Reader → Reader
  | outer, r =>
    if r.inFlow || r.indent ≤ column then r
    else
      match outer with
      | [] => r
      | indent :: outer => unindent column outer { r.addMark .blockEnd with indent, outer }

/-- Begins a block collection at a column if the column is further in than those that are open. The
flag says whether it does. -/
def indentTo (r : Reader) (column : Nat) : Reader × Bool :=
  if r.indent < column then ({ r with indent := column, outer := r.indent :: r.outer }, true)
  else (r, false)

/-- Begins a block collection here, with its token, if this is further in. -/
def openBlock (r : Reader) (token : Token) : Reader :=
  let (opened, isNew) := r.indentTo r.place.column
  if isNew then opened.addMark token else opened

/-- A directive. -/
def readDirective (r : Reader) : Outcome Reader := do
  let r ← (unindent (-1) r.outer r).dropKeyStart
  let (content, place) ← directive r.place
  return { r with allowsKey := false }.add (.directive content) place

/-- A mark between documents. -/
def readMark (r : Reader) (token : Token) : Outcome Reader := do
  let r ← (unindent (-1) r.outer r).dropKeyStart
  return { r with allowsKey := false }.add token (r.place.advance 3)

/-- An opening bracket. -/
def readOpening (r : Reader) (token : Token) : Outcome Reader := do
  let r ← r.markKeyStart
  return { r with flowDepth := r.flowDepth + 1, allowsKey := true }.add token r.place.next

/-- A closing bracket. -/
def readClosing (r : Reader) (token : Token) : Outcome Reader := do
  let r ← r.dropKeyStart
  if r.flowDepth == 0 then malformed
  else return { r with flowDepth := r.flowDepth - 1, allowsKey := false }.add token r.place.next

/-- A comma between entries in brackets. -/
def readFlowEntry (r : Reader) : Outcome Reader := do
  let r ← { r with allowsKey := true }.dropKeyStart
  return r.add .flowEntry r.place.next

/-- The hyphen of an entry of a block sequence. -/
def readBlockEntry (r : Reader) : Outcome Reader := do
  if !r.inFlow && !r.allowsKey then malformed
  else
    let r := if r.inFlow then r else r.openBlock .blockSequenceStart
    let r ← { r with allowsKey := true }.dropKeyStart
    return r.add .blockEntry r.place.next

/-- The question mark of a key. -/
def readKey (r : Reader) : Outcome Reader := do
  if !r.inFlow && !r.allowsKey then malformed
  else
    let r := if r.inFlow then r else r.openBlock .blockMappingStart
    let r ← { r with allowsKey := !r.inFlow }.dropKeyStart
    return r.add .key r.place.next

/-- The colon of a value, for the key that began before it or for one written after a question
mark. -/
def readValue (r : Reader) : Outcome Reader := do
  match r.keyStarts.lookup r.flowDepth with
  | some start =>
    let r := { r with keyStarts := r.keyStarts.filter fun (depth, _) ↦ depth != r.flowDepth }
    let r := r.insertAt start.before .key
    let (opened, isNew) := r.indentTo start.column
    let r := if !r.inFlow && isNew then opened.insertAt start.before .blockMappingStart else r
    return { r with allowsKey := false }.add .value r.place.next
  | none =>
    if !r.inFlow && !r.allowsKey then malformed
    else
      let r := if r.inFlow then r else r.openBlock .blockMappingStart
      let r ← { r with allowsKey := !r.inFlow }.dropKeyStart
      return r.add .value r.place.next

/-- A token that a key may begin with. -/
def readSimple (r : Reader) (read : Cursor → Outcome (Token × Cursor)) : Outcome Reader := do
  let r ← r.markKeyStart
  let (token, place) ← read r.place
  return { r with allowsKey := false }.add token place

/-- A block scalar. -/
def readBlockScalar (r : Reader) (fold : Bool) : Outcome Reader := do
  let r ← { r with allowsKey := true }.dropKeyStart
  let (text, place) ← blockScalar fold r.indent r.place.next
  return r.add (.scalar text false) place

/-- A plain scalar. After it a key may begin if a line has ended. -/
def readPlain (r : Reader) : Outcome Reader := do
  let r ← r.markKeyStart
  let scalar := plainScalar r.inFlow (r.indent + 1) r.place.bound r.place
  return { r with allowsKey := scalar.endsLine }.add (.scalar scalar.text true) scalar.place

/-- Whether a plain scalar can begin with the character that comes next. -/
def atPlain (r : Reader) : Bool :=
  match r.place.rest with
  | [] => false
  | c :: rest =>
    let isMark := isGap c || isBreak c ||
      ['-', '?', ':', ',', '[', ']', '\x7b', '\x7d', '#', '&', '*', '!', '|', '>', '\'', '"',
        '%', '@', '`'].contains c
    !isMark || (!atGap rest && (c == '-' || (!r.inFlow && (c == '?' || c == ':'))))

/-- Reads the token that comes next, at a place where one begins. -/
def readToken (r : Reader) : Outcome Reader :=
  let text := r.place.rest
  let atStart := r.place.column == 0
  if atStart && text.head? == some '%' then r.readDirective
  else if atStart && atMarkOf '-' text then r.readMark .documentStart
  else if atStart && atMarkOf '.' text then r.readMark .documentEnd
  else
    match text with
    | [] => malformed
    | c :: rest =>
      let standsAlone := r.inFlow || atGap rest
      if c == '[' then r.readOpening .flowSequenceStart
      else if c == '\x7b' then r.readOpening .flowMappingStart
      else if c == ']' then r.readClosing .flowSequenceEnd
      else if c == '\x7d' then r.readClosing .flowMappingEnd
      else if c == ',' then r.readFlowEntry
      else if c == '-' && atGap rest then r.readBlockEntry
      else if c == '?' && standsAlone then r.readKey
      else if c == ':' && standsAlone then r.readValue
      else if c == '*' then r.readSimple fun p ↦ do
        let (name, p) ← anchorName p.next
        return (.alias name, p)
      else if c == '&' then r.readSimple fun p ↦ do
        let (name, p) ← anchorName p.next
        return (.anchor name, p)
      else if c == '!' then r.readSimple fun p ↦ do
        let (tag, p) ← tagToken p
        return (.tag tag, p)
      else if c == '|' && !r.inFlow then r.readBlockScalar false
      else if c == '>' && !r.inFlow then r.readBlockScalar true
      else if c == '\'' then r.readSimple fun p ↦ do
        let (text, p) ← singleQuoted p.bound p.next
        return (.scalar text false, p)
      else if c == '"' then r.readSimple fun p ↦ do
        let (text, p) ← doubleQuoted p.bound p.next
        return (.scalar text false, p)
      else if r.atPlain then r.readPlain
      else malformed

/-- Ends the reading at the end of the text. -/
def finish (r : Reader) : Outcome Reader := (unindent (-1) r.outer r).dropKeyStart

/-- Reads the tokens up to the end of the text, or up to where it cannot be read. -/
def readAll : Nat → Reader → List Token
  | 0, r => (Token.unreadable .malformed :: r.read).reverse
  | bound + 1, r =>
    let r := skipToToken r.place.bound r
    match r.dropStale with
    | .error failure => (Token.unreadable failure :: r.read).reverse
    | .ok r =>
      let r := unindent r.place.column r.outer r
      if r.place.rest.isEmpty then
        match r.finish with
        | .error failure => (Token.unreadable failure :: r.read).reverse
        | .ok r => r.read.reverse
      else
        match r.readToken with
        | .error failure => (Token.unreadable failure :: r.read).reverse
        | .ok r => readAll bound r

end Reader

/-- The tokens of a text. -/
def tokens (text : List Char) : List Token :=
  let r := Reader.ofText text
  Reader.readAll r.place.bound r

end Scriptorium.Yaml
