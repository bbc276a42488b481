import Scriptorium.Template.Format
import Scriptorium.Template.Conversion
import Scriptorium.Template.Method.Argument
import Scriptorium.Text.Case
import Scriptorium.Text.Encoding
import Scriptorium.Text.Identifier
import Scriptorium.Text.Number
import Scriptorium.Text.Word

/-!
# Methods of texts

What can be asked of a text with a call of one of its members. Lists in a result are new.
-/

set_option autoImplicit false
set_option relaxedAutoImplicit false

namespace Scriptorium.Template

namespace TextMethod

/-- Whether a text has characters and all of them are of a class. -/
def consistsOf (p : Char → Bool) (s : List Char) : Bool := !s.isEmpty && s.all p

/-- A question about a text that takes no arguments. -/
def question? (name : String) (s : List Char) : Option Bool :=
  match name with
  | "isalnum" => some (consistsOf Text.isAlphanumeric s)
  | "isalpha" => some (consistsOf Text.isLetter s)
  | "isascii" => some (s.all (·.toNat < 128))
  | "isdecimal" => some (consistsOf Text.isDigit s)
  | "isdigit" => some (consistsOf Text.isAnyDigit s)
  | "isidentifier" => some (Text.isIdentifier s)
  | "islower" => some (Text.isLowercase s)
  | "isnumeric" => some (consistsOf Text.isNumeric s)
  | "isprintable" => some (s.all Text.isPrintable)
  | "isspace" => some (consistsOf Text.isBlank s)
  | "istitle" => some (Text.isTitlecase s)
  | "isupper" => some (Text.isUppercase s)
  | _ => none

/-- A text made of another without arguments. -/
def image? (name : String) (s : List Char) : Option (List Char) :=
  match name with
  | "capitalize" => some (Text.capitalized s)
  | "casefold" => some (Text.folded s)
  | "lower" => some (Text.lowercase s)
  | "swapcase" => some (Text.swapped s)
  | "title" => some (Text.titlecase s)
  | "upper" => some (Text.uppercase s)
  | _ => none

/-- Characters to fill a text with. -/
def filling (count : Nat) (c : Char) : Outcome (List Char) := do
  return List.replicate (← checkedWidth count) c

/-- The arguments of a method that pads: a width and what fills it. -/
def padding (s : List Char) (arguments : List Item) : Outcome (Nat × Char) := do
  match arguments with
  | [width] => return (((← width.asSize) - s.length).toNat, ' ')
  | [width, fill] =>
    let size ← width.asSize
    return ((size - s.length).toNat, ← fill.asChar)
  | _ => typeMismatch

/-- A text with blanks, or another character, before, behind or around it. -/
def padded (name : String) (s : List Char) (arguments : List Item) : Outcome Item := do
  let (missing, fill) ← padding s arguments
  match name with
  | "ljust" => return .text (s ++ (← filling missing fill))
  | "rjust" => return .text ((← filling missing fill) ++ s)
  | _ =>
    let width := missing + s.length
    let before := if missing % 2 == 1 && width % 2 == 1 then missing / 2 + 1 else missing / 2
    return .text ((← filling before fill) ++ s ++ (← filling (missing - before) fill))

/-- A text of numerals with zeros up to a width, after its sign. -/
def zeroFilled (s : List Char) (width : Int) : Outcome Item := do
  let zeros ← filling (width - s.length).toNat '0'
  match s with
  | '+' :: rest => return .text ('+' :: zeros ++ rest)
  | '-' :: rest => return .text ('-' :: zeros ++ rest)
  | _ => return .text (zeros ++ s)

/-- A text with its tabulators replaced by blanks up to the next stop, from a column on. -/
def expandTabs (size : Int) (column : Nat) : List Char → List Char
  | [] => []
  | c :: rest =>
    if c == '\t' then
      if 0 < size then
        let count := size.toNat - column % size.toNat
        List.replicate count ' ' ++ expandTabs size (column + count) rest
      else expandTabs size column rest
    else c :: expandTabs size (if c == '\n' || c == '\r' then 0 else column + 1) rest

/-- Strips the characters of a set, or the blanks, from the ends of a text. -/
def stripped (left right : Bool) (s : List Char) (set : Option (List Char)) : List Char :=
  let strips (c : Char) : Bool := (set.map (·.contains c)).getD (Text.isBlank c)
  let inner := if left then s.dropWhile strips else s
  if right then Text.trimRightWhile strips inner else inner

/-- The set of characters that a stripping method has as its argument. -/
def strippedSet : List Item → Outcome (Option (List Char))
  | [] | [.none] => .ok none
  | [item] => some <$> item.asText
  | _ => typeMismatch

/-- The place of a text in another, between the bounds among the arguments. -/
def place? (last : Bool) (s : List Char) (arguments : List Item) : Outcome (Option Nat) := do
  match arguments with
  | part :: bounds =>
    let wanted ← part.asText
    let (start, stop) ← boundsOf bounds
    return (window s start stop).bind fun (before, inner) ↦
      (if last then Text.findLast? wanted inner else Text.find? wanted inner).map (before + ·)
  | [] => typeMismatch

/-- How often a text occurs in another, between the bounds among the arguments. -/
def counted (s : List Char) (arguments : List Item) : Outcome Item := do
  match arguments with
  | part :: bounds =>
    let wanted ← part.asText
    let (start, stop) ← boundsOf bounds
    return .int (((window s start stop).map fun (_, inner) ↦ Text.occurrences wanted inner).getD 0)
  | [] => typeMismatch

/-- Whether a text has another at its start or its end. -/
def hasEnd (atStart : Bool) (s wanted : List Char) : Bool :=
  if atStart then wanted.isPrefixOf s else wanted.isSuffixOf s

/-- Whether a text has one of several at its start or its end. -/
def hasSomeEnd (atStart : Bool) (s : List Char) : List Item → Outcome Bool
  | [] => .ok false
  | item :: rest => do
    if hasEnd atStart s (← item.asText) then return true else hasSomeEnd atStart s rest

/-- Whether a text has another, or one of several, at its start or its end between the bounds. -/
def endTest (atStart : Bool) (s : List Char) (arguments : List Item) : Outcome Item := do
  match arguments with
  | part :: bounds =>
    let (start, stop) ← boundsOf bounds
    let candidates ← match part with
      | .tuple items => pure items
      | .text t => pure [.text t]
      | _ => typeMismatch
    match window s start stop with
    | some (_, inner) => return .bool (← hasSomeEnd atStart inner candidates)
    | none =>
      let _ ← candidates.mapM Item.asText
      return .bool false
  | [] => typeMismatch

/-- The texts of several items, which all have to be texts. -/
def textsOf : List Item → Outcome (List (List Char))
  | [] => .ok []
  | item :: rest => do
    let first ← item.asText
    return first :: (← textsOf rest)

/-- Texts as items of a new list. -/
def listOf (parts : List (List Char)) : Item := .list 0 (parts.map .text)

/-- The parts of a text between a mark, or its words, at most so many times divided. -/
def division (last : Bool) (s : List Char) (mark limit : Option Item) : Outcome Item := do
  let most ← (limit.getD (.int (-1))).asSize
  let count := if most < 0 then s.length + 1 else most.toNat
  match mark.getD .none with
  | .none => return listOf (if last then Text.lastWords count s else Text.firstWords count s)
  | item =>
    let wanted ← item.asText
    if wanted.isEmpty then badValue
    else if last then return listOf (Text.splitAtLast wanted count s)
    else return listOf (Text.splitAt wanted count s)

/-- What comes before a mark, the mark, and what follows it. -/
def partitioned (last : Bool) (s : List Char) (mark : Item) : Outcome Item := do
  let wanted ← mark.asText
  if wanted.isEmpty then badValue
  else
    match if last then Text.findLast? wanted s else Text.find? wanted s with
    | some n => return .tuple [.text (s.take n), .text wanted, .text (s.drop (n + wanted.length))]
    | none =>
      return .tuple (if last then [.text [], .text [], .text s] else [.text s, .text [], .text []])

/-- What a table replaces a code point by: nothing, another code point, or a text. -/
def translatedCode (table : Item) (n : Nat) : Outcome (List Char) := do
  let code : Item := .int n
  let found : Option Item ←
    match table with
    | .absent _ cause => throw (.absent cause)
    | .dict _ _ | .list _ _ | .tuple _ | .text _ | .bytes _ => table.element? code
    | .template => pure none
    | _ => typeMismatch
  match found with
  | none => return Text.ofCode n
  | some .none => return []
  | some (.text t) => return t
  | some item =>
    let i ← item.asInt
    if 0 ≤ i && i < 0x110000 then return Text.ofCode i.toNat else badValue

/-- A text with its code points replaced as a table says. -/
def translated (table : Item) (text : List Char) : Outcome (List Char) := do
  return (← (Text.codes text).mapM (translatedCode table)).flatten

/-- The entries of a table with the codes of its keys. -/
def codedEntries : List (Item × Item) → Outcome (List (Item × Item))
  | [] => .ok []
  | (key, value) :: rest => do
    let code : Item ← match key with
      | .text t =>
        match Text.codes t with
        | [n] => pure (.int n)
        | _ => badValue
      | item => do pure (.int (← item.asInt))
    return (code, value) :: (← codedEntries rest)

/-- A new dictionary of entries, of which a later one replaces an earlier one with its key. -/
def dictOf (entries : List (Item × Item)) : Outcome Item := do
  return .dict 0 (← entries.foldlM (fun done (key, value) ↦ Item.put key value done) [])

/-- A table for replacing characters. -/
def tableOf (arguments : List Item) : Outcome Item := do
  match arguments with
  | [.dict _ entries] => dictOf (← codedEntries entries)
  | [_] => typeMismatch
  | source :: target :: removed =>
    let sources := Text.codes (← source.asText)
    let targets := Text.codes (← target.asText)
    let gone ← textsOf removed
    if sources.length != targets.length then badValue
    dictOf ((sources.zip targets).map (fun (n, m) ↦ (.int n, .int m))
      ++ (gone.flatMap Text.codes).map fun n ↦ (.int n, Item.none))
  | [] => typeMismatch

/-- The bytes of a text in an encoding; what cannot be encoded fails, or is left out or replaced. -/
def encoded (s : List Char) (encoding errors : Option Item) : Outcome Item := do
  let name ← (encoding.getD (.text "utf-8".toList)).asText
  let handling ← (errors.getD (.text "strict".toList)).asText
  match Text.Encoding.ofName? (String.ofList name) with
  | none => throw (.fault .unknownEncoding)
  | some e =>
    let one (n : Nat) : Outcome (List UInt8) :=
      match e.bytesOf? n with
      | some b => .ok b
      | none =>
        match String.ofList handling with
        | "ignore" => .ok []
        | "replace" => .ok ['?'.toNat.toUInt8]
        | "backslashreplace" => .ok ((Text.escapeCode n).map fun d ↦ d.toNat.toUInt8)
        | "xmlcharrefreplace" =>
          .ok (("&#" ++ Decimal.natText n ++ ";").toList.map fun d ↦ d.toNat.toUInt8)
        | "strict" => .error (.fault .unencodable)
        | _ => .error (.fault .unknownEncoding)
    return .bytes (← (Text.codes s).mapM one).flatten

/-- The operands of fields that come from a dictionary. -/
def mappingOperands (mapping : Item) : FieldOperands :=
  ⟨none, fun name ↦
    match mapping with
    | .dict _ entries => do
      match ← Item.lookup (.text name.toList) entries with
      | some value => return value
      | none => throw (.fault .unknownKey)
    | .absent _ cause => .error (.absent cause)
    | .template => .error (.fault .unknownKey)
    | _ => typeMismatch⟩

/-- The operands of fields that are the arguments of a call. -/
def callOperands (arguments : List Item) (named : List (String × Item)) : FieldOperands :=
  ⟨some arguments, fun name ↦
    match named.lookup name with
    | some value => .ok value
    | none => .error (.fault .unknownKey)⟩

/-- A text of which some occurrences of another are replaced. -/
def replaced (s : List Char) (arguments : List Item) : Outcome Item := do
  match arguments with
  | old :: new :: limit =>
    let from' ← old.asText
    let to' ← new.asText
    match limit with
    | count :: _ =>
      let n ← count.asSize
      if n < 0 then return .text (Text.replaceAll from' to' s)
      else return .text (Text.replaceFirst from' to' n.toNat s)
    | [] => return .text (Text.replaceAll from' to' s)
  | _ => typeMismatch

/-- The place of a text in another that has to be there. -/
def requiredPlace (found : Option Nat) : Outcome Item :=
  match found with
  | some n => .ok (.int n)
  | none => badValue

/-- The result of a method of a text. -/
def call (name : String) (s : List Char) (arguments : List Item) (named : List (String × Item)) :
    Outcome Item :=
  match question? name s, image? name s with
  | some answer, _ => do
    let _ ← positional 0 0 arguments named
    return .bool answer
  | _, some image => do
    let _ ← positional 0 0 arguments named
    return .text image
  | none, none =>
    match name with
    | "center" | "ljust" | "rjust" => do padded name s (← positional 1 2 arguments named)
    | "zfill" => do
      match ← positional 1 1 arguments named with
      | width :: _ => zeroFilled s (← width.asSize)
      | [] => typeMismatch
    | "expandtabs" => do
      match ← bindArguments ["tabsize"] arguments named with
      | size :: _ => return .text (expandTabs (← (size.getD (.int 8)).asSmallInt) 0 s)
      | [] => typeMismatch
    | "strip" => do
      return .text (stripped true true s (← strippedSet (← positional 0 1 arguments named)))
    | "lstrip" => do
      return .text (stripped true false s (← strippedSet (← positional 0 1 arguments named)))
    | "rstrip" => do
      return .text (stripped false true s (← strippedSet (← positional 0 1 arguments named)))
    | "find" => do
      let found ← place? false s (← positional 1 3 arguments named)
      return .int ((found.map fun n ↦ (n : Int)).getD (-1))
    | "rfind" => do
      let found ← place? true s (← positional 1 3 arguments named)
      return .int ((found.map fun n ↦ (n : Int)).getD (-1))
    | "index" => do requiredPlace (← place? false s (← positional 1 3 arguments named))
    | "rindex" => do requiredPlace (← place? true s (← positional 1 3 arguments named))
    | "count" => do counted s (← positional 1 3 arguments named)
    | "startswith" => do endTest true s (← positional 1 3 arguments named)
    | "endswith" => do endTest false s (← positional 1 3 arguments named)
    | "join" => do
      match ← positional 1 1 arguments named with
      | parts :: _ => return .text (List.intercalate s (← textsOf (← parts.items)))
      | [] => typeMismatch
    | "split" | "rsplit" => do
      match ← bindArguments ["sep", "maxsplit"] arguments named with
      | [mark, limit] => division (name == "rsplit") s mark limit
      | _ => typeMismatch
    | "splitlines" => do
      match ← bindArguments ["keepends"] arguments named with
      | keep :: _ =>
        let keeps ← (keep.getD (.int 0)).asSmallInt
        return listOf (if keeps == 0 then Text.lines s else Text.linesKept s)
      | [] => typeMismatch
    | "partition" | "rpartition" => do
      match ← positional 1 1 arguments named with
      | mark :: _ => partitioned (name == "rpartition") s mark
      | [] => typeMismatch
    | "removeprefix" => do
      match ← positional 1 1 arguments named with
      | start :: _ =>
        let t ← start.asText
        return .text (if t.isPrefixOf s then s.drop t.length else s)
      | [] => typeMismatch
    | "removesuffix" => do
      match ← positional 1 1 arguments named with
      | ending :: _ =>
        let t ← ending.asText
        return .text (if t.isSuffixOf s then s.take (s.length - t.length) else s)
      | [] => typeMismatch
    | "replace" => do replaced s (← positional 2 3 arguments named)
    | "translate" => do
      match ← positional 1 1 arguments named with
      | table :: _ => return .text (← translated table s)
      | [] => typeMismatch
    | "maketrans" => do tableOf (← positional 1 3 arguments named)
    | "encode" => do
      match ← bindArguments ["encoding", "errors"] arguments named with
      | [encoding, errors] => encoded s encoding errors
      | _ => typeMismatch
    | "format" => do return .text (← format (callOperands arguments named) s)
    | "format_map" => do
      match ← positional 1 1 arguments named with
      | mapping :: _ => return .text (← format (mappingOperands mapping) s)
      | [] => typeMismatch
    | _ => typeMismatch

end TextMethod

end Scriptorium.Template
