import Scriptorium.Template.Field
import Scriptorium.Template.Member
import Scriptorium.Text.Digit

/-!
# Replacement fields

A text with fields in braces. A field names an operand, by position or by name, and perhaps a part
of it; it can ask for the operand as it is shown, and say how the value is set out: what fills the
field and on which side, the sign, the width, the marks between groups of digits, the precision and
the kind of number. `format` fills the fields in; how a value is set out may itself have fields, but
these no more.
-/

set_option autoImplicit false
set_option relaxedAutoImplicit false

namespace Scriptorium.Template

/-! ### How a value is set out -/

/-- Where a value stands in a field that is wider: at a side, in the middle, or with what fills the
field between its sign and its digits. -/
inductive Alignment where
  | left | right | center | afterSign
  deriving DecidableEq, Repr

/-- The alignment that a character asks for. -/
def Alignment.ofChar? : Char → Option Alignment
  | '<' => some .left
  | '>' => some .right
  | '^' => some .center
  | '=' => some .afterSign
  | _ => none

/-- How a value is set out in its field. -/
structure Setting where
  fill : Char
  alignment : Alignment
  sign : Option Char
  positiveZero : Bool
  alternate : Bool
  width : Nat
  group : Option Char
  precision : Option Nat
  kind : Option Char

/-- A character of a set at the start of a text, and what follows it. -/
def leadingChar (set : List Char) : List Char → Option Char × List Char
  | [] => (none, [])
  | c :: rest => if set.contains c then (some c, rest) else (none, c :: rest)

/-- A number at the start of a text. -/
def leadingDigits (text : List Char) : Option Nat × List Char :=
  let digits := text.takeWhile Text.isDigit
  (if digits.isEmpty then none
    else some (digits.foldl (fun n c ↦ n * 10 + (Text.digitValue? c).getD 0) 0),
    text.dropWhile Text.isDigit)

/-- The fill and the alignment at the start of a setting. -/
def leadingAlignment : List Char → Option Char × Option Alignment × List Char
  | [] => (none, none, [])
  | [c] =>
    match Alignment.ofChar? c with
    | some a => (none, some a, [])
    | none => (none, none, [c])
  | c :: d :: rest =>
    match Alignment.ofChar? d with
    | some a => (some c, some a, rest)
    | none =>
      match Alignment.ofChar? c with
      | some a => (none, some a, d :: rest)
      | none => (none, none, c :: d :: rest)

/-- Whether digits of a kind of number can be set apart by a mark. -/
def groupsDigits (mark : Char) : Option Char → Bool
  | none => true
  | some kind =>
    ['d', 'e', 'f', 'g', 'E', 'G', '%', 'F'].contains kind
      || (mark == '_' && ['b', 'o', 'x', 'X'].contains kind)

/-- Reads a setting. Numbers stand on the right by default and texts on the left; a zero before the
width fills the field, for numbers after the sign. -/
def Setting.read (numeric : Bool) (text : List Char) : Outcome Setting := do
  let (fill, alignment, afterAlignment) := leadingAlignment text
  let (sign, afterSign) := leadingChar [' ', '+', '-'] afterAlignment
  let (positive, afterPositive) := leadingChar ['z'] afterSign
  let (alternate, afterAlternate) := leadingChar ['#'] afterPositive
  let (zero, afterZero) :=
    if fill.isNone then leadingChar ['0'] afterAlternate else (none, afterAlternate)
  let (width, afterWidth) := leadingDigits afterZero
  let (comma, afterComma) := leadingChar [','] afterWidth
  let (bar, afterBar) := leadingChar ['_'] afterComma
  if comma.isSome && bar.isSome then badValue
  let (late, afterLate) := leadingChar [','] afterBar
  if late.isSome then badValue
  let (precision, kinds) : Option (Option Nat) × List Char :=
    match afterLate with
    | '.' :: rest => (some (leadingDigits rest).1, (leadingDigits rest).2)
    | rest => (none, rest)
  if precision == some none then badValue
  let kind ← match kinds with
    | [] => pure none
    | [c] => pure (some c)
    | _ => badValue
  let group := comma.or bar
  if !((group.map (groupsDigits · kind)).getD true) then badValue
  let size ← checkedWidth (width.getD 0)
  let digits ← (precision.bind id).mapM checkedWidth
  return { fill := (fill.or zero).getD ' '
           alignment := alignment.getD
            (if !numeric then .left else if zero.isSome then .afterSign else .right)
           sign, positiveZero := positive.isSome, alternate := alternate.isSome
           width := size, group, precision := digits, kind }

/-- A text in a field. -/
def Setting.pad (s : Setting) (text : List Char) : List Char :=
  let missing := s.width - text.length
  let before :=
    match s.alignment with
    | .left => 0
    | .center => missing / 2
    | _ => missing
  List.replicate before s.fill ++ text ++ List.replicate (missing - before) s.fill

/-- Digits, the last first, in groups with marks between them, and zeros before them up to a
width. -/
def groupedFrom (mark : Char) (size : Nat) : Nat → List Char → Nat → List Char
  | 0, digits, _ => digits
  | fuel + 1, digits, width =>
    let count := min size (max (max digits.length width) 1)
    let group := digits.take count ++ List.replicate (count - digits.length) '0'
    let rest := digits.drop count
    if rest.isEmpty && width ≤ count then group
    else group ++ mark :: groupedFrom mark size fuel rest (width - count - 1)

/-- Digits in groups if marks are asked for, and zeros before them up to a width. -/
def groupDigits (mark : Option Char) (size width : Nat) (digits : List Char) : List Char :=
  match mark with
  | none => List.replicate (width - digits.length) '0' ++ digits
  | some m => (groupedFrom m size (digits.length + width + 1) digits.reverse width).reverse

/-- A numeral in a field. What follows its whole part stays as it is. -/
def Setting.padNumeral (s : Setting) (n : Numeral) (ending : List Char) : List Char :=
  let sign :=
    if n.negative then ['-']
    else if s.sign == some '+' then ['+']
    else if s.sign == some ' ' then [' '] else []
  let whole := n.digits.takeWhile Char.isAlphanum
  let isWhole := n.digits.all Char.isAlphanum
  let (front, rest) :=
    if isWhole &&
        !(n.digits.contains 'e' && s.kind.any fun k ↦ k.toLower == 'e' || k.toLower == 'g') then
      (n.digits, [])
    else (whole.takeWhile Char.isDigit, n.digits.drop (whole.takeWhile Char.isDigit).length)
  let size := if s.kind.any (['b', 'o', 'x', 'X'].contains ·) then 4 else 3
  let outside := sign.length + n.mark.length + rest.length + ending.length
  let width := if s.fill == '0' && s.alignment == .afterSign then s.width - outside else 0
  let body := groupDigits s.group size width front ++ rest ++ ending
  match s.alignment with
  | .afterSign =>
    sign ++ n.mark
      ++ List.replicate (s.width - (sign.length + n.mark.length + body.length)) s.fill ++ body
  | _ => s.pad (sign ++ n.mark ++ body)

/-- A text as a setting sets it out. -/
def formatText (setting text : List Char) : Outcome (List Char) := do
  let s ← Setting.read false setting
  if s.sign.isSome || s.positiveZero || s.alternate || s.alignment == .afterSign || s.group.isSome
      || !(s.kind.isNone || s.kind == some 's') then badValue
  return s.pad ((s.precision.map text.take).getD text)

/-- A floating-point number as a setting sets it out. -/
def formatFloat (s : Setting) (f : Float) : Outcome (List Char) := do
  let full := s.alternate
  let style (kind : Char) (g : Float) : Numeral :=
    let places := s.precision.getD 6
    let upper := kind.isUpper
    match kind.toLower with
    | 'e' => .ofFloat .exponent places full upper g
    | 'f' => .ofFloat .fixed places full upper g
    | _ => .ofFloat (.general (max places 1)) places full upper g
  let plain (n : Numeral) : Numeral :=
    if s.positiveZero && n.digits.all fun c ↦ c == '0' || c == '.' then { n with negative := false }
    else n
  match s.kind with
  | none =>
    match s.precision with
    | none =>
      let text := (Decimal.floatText f.abs).toList
      let digits :=
        if full && text.contains 'e' && !text.contains '.' then
          text.takeWhile (· != 'e') ++ '.' :: text.dropWhile (· != 'e')
        else text
      return s.padNumeral (plain ⟨!f.isNaN && Decimal.hasMinus f, [], digits⟩) []
    | some places =>
      let n := Numeral.ofFloat (.general (max places 1 - 1)) places full false f
      let isPlain := n.digits.all fun c ↦ c.isDigit || c == '.'
      let digits := if isPlain && !n.digits.contains '.' then n.digits ++ ['.', '0'] else n.digits
      return s.padNumeral (plain { n with digits }) []
  | some '%' =>
    return s.padNumeral (plain (style 'f' (f * 100))) ['%']
  | some 'n' => return s.padNumeral (plain (style 'g' f)) []
  | some kind =>
    if ['e', 'E', 'f', 'F', 'g', 'G'].contains kind then
      return s.padNumeral (plain (style kind f)) []
    else badValue

/-- A whole number as a setting sets it out. -/
def formatInt (s : Setting) (i : Int) : Outcome (List Char) := do
  let kind := s.kind.getD 'd'
  if ['e', 'E', 'f', 'F', 'g', 'G', '%'].contains kind then formatFloat s (← (Item.int i).toFloat)
  else
    if s.precision.isSome || s.positiveZero then badValue
    match kind with
    | 'c' =>
      if s.sign.isSome || s.alternate then badValue
      return s.padNumeral ⟨false, [], ← characterOf i⟩ []
    | 'd' | 'n' =>
      let _ ← Item.shownInt i
      return s.padNumeral (.ofInt 10 0 false false i) []
    | 'b' => return s.padNumeral (.ofInt 2 0 s.alternate false i) []
    | 'o' => return s.padNumeral (.ofInt 8 0 s.alternate false i) []
    | 'x' => return s.padNumeral (.ofInt 16 0 s.alternate false i) []
    | 'X' => return s.padNumeral (.ofInt 16 0 s.alternate true i) []
    | _ => badValue

/-- A value as a setting sets it out. -/
def formatItem (setting : List Char) (item : Item) : Outcome (List Char) :=
  if setting.isEmpty then item.textOf
  else
    match item with
    | .text s => formatText setting s
    | .float f => do formatFloat (← Setting.read true setting) f
    | _ =>
      match item.toInt? with
      | some i => do formatInt (← Setting.read true setting) i
      | none => typeMismatch

/-! ### Fields in a text -/

/-- A part of a text with fields: a character, a field, or what cannot be read. -/
inductive FormatPart where
  | plain (c : Char)
  | field (name : List Char) (conversion : Option Char) (setting : List Char)
  | broken

/-- The name of a field, the character that ends it, and the text after that. -/
def readFieldName? : Bool → List Char → Option (List Char × Char × List Char)
  | _, [] => none
  | true, c :: rest => (readFieldName? (c != ']') rest).map fun (name, stop) ↦ (c :: name, stop)
  | false, c :: rest =>
    if c == '\x7b' then none
    else if c == '\x7d' || c == ':' || c == '!' then some ([], c, rest)
    else (readFieldName? (c == '[') rest).map fun (name, stop) ↦ (c :: name, stop)

/-- A setting up to the brace that closes its field, after `depth` more that are open. -/
def readSetting? (depth : Nat) : List Char → Option (List Char × List Char)
  | [] => none
  | c :: rest =>
    if c == '\x7d' then
      match depth with
      | 0 => some ([], rest)
      | d + 1 => (readSetting? d rest).map fun (setting, after) ↦ (c :: setting, after)
    else
      (readSetting? (if c == '\x7b' then depth + 1 else depth) rest).map
        fun (setting, after) ↦ (c :: setting, after)

/-- A field after its opening brace and the text behind it. -/
def readField? (text : List Char) : Option (FormatPart × List Char) := do
  let (name, stop, rest) ← readFieldName? false text
  if stop == '\x7d' then return (.field name none [], rest)
  let (conversion, afterConversion) ←
    if stop == ':' then pure (none, ':' :: rest)
    else
      match rest with
      | [] => none
      | c :: after => pure (some c, after)
  match afterConversion with
  | '\x7d' :: after => if stop == '!' then return (.field name conversion [], after) else none
  | ':' :: after =>
    let (setting, last) ← readSetting? 0 after
    return (.field name conversion setting, last)
  | _ => none

/-- The parts of a text, of which at most `fuel` characters are read. -/
def readFormat : Nat → List Char → List FormatPart
  | 0, _ | _, [] => []
  | fuel + 1, c :: rest =>
    if c == '\x7b' || c == '\x7d' then
      if rest.head? == some c then .plain c :: readFormat fuel (rest.drop 1)
      else if c == '\x7d' then [.broken]
      else
        match readField? rest with
        | some (field, after) => field :: readFormat fuel after
        | none => [.broken]
    else .plain c :: readFormat fuel rest

/-- How fields without names of their own are counted: not at all yet, in turn, or by the numbers
given. -/
inductive Numbering where
  | open
  | inTurn (next : Nat)
  | given

/-- The operands of fields: those by position, if there can be any, and those by name. -/
structure FieldOperands where
  positional : Option (List Item)
  named : String → Outcome Item

/-- The number that a name is, if it is one. -/
def numberOf? (name : List Char) : Option Nat :=
  if !name.isEmpty && name.all Text.isDigit then (leadingDigits name).1 else none

/-- The element of a value that a field asks for. -/
def elementOf (owner : Item) (key : List Char) : Outcome Item :=
  let index : Item := (((numberOf? key).map fun (n : Nat) ↦ Item.int (n : Int))).getD (.text key)
  match owner, index with
  | .absent _ cause, _ => .error (.absent cause)
  | .dict _ entries, _ => do
    match ← Item.lookup index entries with
    | some value => return value
    | none => throw (.fault .unknownKey)
  | .template, _ => .error (.fault .unknownKey)
  | .text _, .int _ | .bytes _, .int _ | .list _ _, .int _ | .tuple _, .int _ => do
    match ← owner.element? index with
    | some value => return value
    | none => throw (.fault .noElement)
  | _, _ => typeMismatch

/-- The member of a value that a field asks for. -/
def memberOf (owner : Item) (name : List Char) : Outcome Item :=
  match owner with
  | .absent _ cause => .error (.absent cause)
  | _ => do
    match ← owner.member? (String.ofList name) with
    | some value => return value
    | none => throw (.fault .noMember)

/-- The part of a value that the rest of a field's name leads to, in at most `fuel` steps. -/
def followName : Nat → List Char → Item → Outcome Item
  | 0, _, value | _, [], value => .ok value
  | fuel + 1, c :: rest, value =>
    if c == '.' then
      let name := rest.takeWhile fun d ↦ d != '.' && d != '['
      if name.isEmpty then badValue
      else do followName fuel (rest.drop name.length) (← memberOf value name)
    else if c == '[' then
      let key := rest.takeWhile (· != ']')
      if key.length == rest.length || key.isEmpty then badValue
      else do followName fuel (rest.drop (key.length + 1)) (← elementOf value key)
    else badValue

/-- The operand at a position. -/
def FieldOperands.atPosition (operands : FieldOperands) (n : Nat) : Outcome Item :=
  match operands.positional with
  | none => badValue
  | some items =>
    match items[n]? with
    | some item => .ok item
    | none => .error (.fault .noElement)

/-- The value that a field's name leads to, and how fields are counted after it. -/
def FieldOperands.find (operands : FieldOperands) (numbering : Numbering) (name : List Char) :
    Outcome (Item × Numbering) := do
  let first := name.takeWhile fun c ↦ c != '.' && c != '['
  let rest := name.drop first.length
  let (start, after) : Item × Numbering ←
    if first.isEmpty then
      match numbering with
      | .open => do pure (← operands.atPosition 0, .inTurn 1)
      | .inTurn n => do pure (← operands.atPosition n, .inTurn (n + 1))
      | .given => badValue
    else
      match numberOf? first, numbering with
      | some _, .inTurn _ => badValue
      | some n, _ => do pure (← operands.atPosition n, .given)
      | none, _ => do pure (← operands.named (String.ofList first), numbering)
  return (← followName rest.length rest start, after)

/-- A value as a field asks for it. -/
def convertedItem (conversion : Option Char) (item : Item) : Outcome Item :=
  match conversion with
  | none => .ok item
  | some 's' => .text <$> item.textOf
  | some 'r' => .text <$> item.shown
  | some 'a' => do return .text (Text.escapeBeyondAscii (← item.shown))
  | some _ => badValue

mutual

/-- The text of parts with operands, where fields can stand in one another `depth` deep. -/
def fillParts (operands : FieldOperands) : Nat → Numbering → List FormatPart →
    Outcome (List Char × Numbering)
  | _, numbering, [] => .ok ([], numbering)
  | depth, numbering, .plain c :: rest => do
    let (text, after) ← fillParts operands depth numbering rest
    return (c :: text, after)
  | _, _, .broken :: _ => badValue
  | depth, numbering, .field name conversion setting :: rest => do
    let (value, afterValue) ← operands.find numbering name
    let item ← convertedItem conversion value
    let (expanded, afterSetting) ← fillText operands depth afterValue setting
    let text ← formatItem expanded item
    let (others, last) ← fillParts operands depth afterSetting rest
    return (text ++ others, last)
termination_by depth _ parts => (depth, parts.length + 1)

/-- A setting with its own fields filled in. -/
def fillText (operands : FieldOperands) :
    Nat → Numbering → List Char → Outcome (List Char × Numbering)
  | depth, numbering, text =>
    if text.contains '\x7b' then
      match depth with
      | 0 => badValue
      | d + 1 => fillParts operands d numbering (readFormat text.length text)
    else .ok (text, numbering)
termination_by depth _ _ => (depth, 0)

end

/-- A text with its fields filled in. -/
def format (operands : FieldOperands) (text : List Char) : Outcome (List Char) := do
  let (filled, _) ← fillParts operands 1 .open (readFormat text.length text)
  return filled

end Scriptorium.Template
