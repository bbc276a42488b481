import Scriptorium.Template.Field

/-!
# Conversions by percent signs

A text with conversions such as `%s` or `%04d` takes its operands from a tuple in order, from a
single value, or from a dictionary by their keys. `convert` fills them in; operands that are
missing, left over or of another kind make it fail.
-/

set_option autoImplicit false
set_option relaxedAutoImplicit false

namespace Scriptorium.Template

/-- A number that a conversion gives or takes from the operands. -/
inductive Amount where
  | given (n : Nat)
  | operand
  deriving DecidableEq, Repr

/-- A conversion: its flags, its least width, its precision and the letter of its kind. -/
structure Conversion where
  key : Option (List Char)
  left : Bool
  plus : Bool
  blank : Bool
  alternate : Bool
  zero : Bool
  width : Option Amount
  precision : Option Amount
  kind : Char

/-- A part of a text with conversions. One that is cut off may have begun a key. -/
inductive ConversionPart where
  | plain (c : Char)
  | conversion (c : Conversion)
  | incomplete (keyed : Bool)

/-- Decimal digits at the start of a text as a number, and what follows them. -/
def leadingNumber (text : List Char) : Option Nat × List Char :=
  let digits := text.takeWhile Char.isDigit
  (if digits.isEmpty then none else some (digits.foldl (fun n c ↦ n * 10 + (c.toNat - 48)) 0),
    text.dropWhile Char.isDigit)

/-- An amount at the start of a text. -/
def leadingAmount : List Char → Option Amount × List Char
  | '*' :: rest => (some .operand, rest)
  | text => ((leadingNumber text).1.map .given, (leadingNumber text).2)

/-- A key up to the parenthesis that closes it, after `depth` more that are open. -/
def leadingKey? (depth : Nat) : List Char → Option (List Char × List Char)
  | [] => none
  | ')' :: rest =>
    match depth with
    | 0 => some ([], rest)
    | d + 1 => (leadingKey? d rest).map fun (key, after) ↦ (')' :: key, after)
  | c :: rest =>
    (leadingKey? (if c == '(' then depth + 1 else depth) rest).map
      fun (key, after) ↦ (c :: key, after)

/-- The flag characters of conversions. -/
def isFlag (c : Char) : Bool := c == '-' || c == '+' || c == ' ' || c == '#' || c == '0'

/-- The conversion after a percent sign and the text behind it. -/
def readConversion? (text : List Char) : Option (Conversion × List Char) := do
  let (key, afterKey) ←
    match text with
    | '(' :: rest => do
      let (key, after) ← leadingKey? 0 rest
      pure (some key, after)
    | _ => pure (none, text)
  let flags := afterKey.takeWhile isFlag
  let (width, afterWidth) := leadingAmount (afterKey.dropWhile isFlag)
  let (precision, afterPrecision) : Option Amount × List Char :=
    match afterWidth with
    | '.' :: rest => ((leadingAmount rest).1.or (some (.given 0)), (leadingAmount rest).2)
    | _ => (none, afterWidth)
  let afterSize :=
    match afterPrecision with
    | 'h' :: rest | 'l' :: rest | 'L' :: rest => rest
    | _ => afterPrecision
  match afterSize with
  | [] => none
  | kind :: rest =>
    return ({ key, left := flags.contains '-', plus := flags.contains '+',
              blank := flags.contains ' ', alternate := flags.contains '#',
              zero := flags.contains '0', width, precision, kind }, rest)

/-- The parts of a text, of which at most `fuel` characters are read. -/
def readConversions : Nat → List Char → List ConversionPart
  | 0, _ | _, [] => []
  | fuel + 1, '%' :: '%' :: rest => .plain '%' :: readConversions fuel rest
  | fuel + 1, '%' :: rest =>
    match readConversion? rest with
    | some (c, after) => .conversion c :: readConversions fuel after
    | none => [.incomplete (rest.head? == some '(')]
  | fuel + 1, c :: rest => .plain c :: readConversions fuel rest

/-- What is left of the operands, and the dictionary that they can be looked up in. -/
structure Operands where
  pending : List Item
  mapping : Option Item

/-- The operands that a value is. -/
def Operands.ofItem : Item → Operands
  | .tuple items => ⟨items, none⟩
  | .list n items => ⟨[.list n items], some (.list n items)⟩
  | .dict n entries => ⟨[.dict n entries], some (.dict n entries)⟩
  | .bytes b => ⟨[.bytes b], some (.bytes b)⟩
  | .absent strict cause => ⟨[.absent strict cause], some (.absent strict cause)⟩
  | .template => ⟨[.template], some .template⟩
  | item => ⟨[item], none⟩

/-- The next operand. -/
def Operands.next (operands : Operands) : Outcome (Item × Operands) :=
  match operands.pending with
  | item :: rest => .ok (item, { operands with pending := rest })
  | [] => typeMismatch

/-- The operands with the one under a key in front. -/
def Operands.select (operands : Operands) (key : List Char) : Outcome Operands :=
  match operands.mapping with
  | some (.dict n entries) => do
    match ← Item.lookup (.text key) entries with
    | some value => return ⟨[value], some (.dict n entries)⟩
    | none => throw (.fault .unknownKey)
  | some (.absent _ cause) => .error (.absent cause)
  | some .template => .error (.fault .unknownKey)
  | _ => typeMismatch

/-- An amount that comes from the operands: a whole number. -/
def Operands.amount (operands : Operands) : Option Amount → Outcome (Option Int × Operands)
  | none => .ok (none, operands)
  | some (.given n) => .ok (some n, operands)
  | some .operand => do
    let (item, rest) ← operands.next
    match item.toInt? with
    | some i => return (some i, rest)
    | none => typeMismatch

namespace Conversion

/-- The numeral of a number in a conversion of whole numbers. -/
def wholeNumeral (c : Conversion) (precision : Nat) (item : Item) : Outcome Numeral :=
  let base := if c.kind == 'x' || c.kind == 'X' then 16 else if c.kind == 'o' then 8 else 10
  let numeral (i : Int) : Outcome Numeral :=
    if base == 10 && !Decimal.isWritable i then badValue
    else .ok (.ofInt base precision c.alternate (c.kind == 'X') i)
  match item with
  | .absent _ cause => if base == 10 then .error (.absent cause) else typeMismatch
  | .float f => if base == 10 then do numeral (← Item.truncated f) else typeMismatch
  | _ =>
    match item.toInt? with
    | some i => numeral i
    | none => typeMismatch

/-- The numeral of a number in a conversion of floating-point numbers. -/
def floatNumeral (c : Conversion) (precision : Option Nat) (item : Item) : Outcome Numeral := do
  let f ← item.toFloat
  let places := precision.getD 6
  let style : FloatStyle :=
    if c.kind.toLower == 'f' then .fixed
    else if c.kind.toLower == 'e' then .exponent
    else .general (max places 1)
  return .ofFloat style places c.alternate c.kind.isUpper f

/-- A text in a field of a width. -/
def padText (c : Conversion) (left : Bool) (width : Nat) (text : List Char) : List Char :=
  let fill := List.replicate (width - text.length) ' '
  if left || c.left then text ++ fill else fill ++ text

/-- A numeral in a field of a width: zeros come after the sign and the mark, blanks before them. -/
def padNumeral (c : Conversion) (left : Bool) (width : Nat) (n : Numeral) : List Char :=
  let sign := if n.negative then ['-'] else if c.plus then ['+'] else if c.blank then [' '] else []
  let front := sign ++ n.mark
  if c.zero && !(left || c.left) then
    front ++ List.replicate (width - (front.length + n.digits.length)) '0' ++ n.digits
  else c.padText left width (front ++ n.digits)

/-- The text of an operand in a conversion with a width and a precision. -/
def write (c : Conversion) (left : Bool) (width : Nat) (precision : Option Nat) (item : Item) :
    Outcome (List Char) := do
  let cut (text : List Char) : List Char := (precision.map text.take).getD text
  match c.kind with
  | 's' => return c.padText left width (cut (← item.textOf))
  | 'r' => return c.padText left width (cut (← item.shown))
  | 'a' => return c.padText left width (cut (Text.escapeBeyondAscii (← item.shown)))
  | 'c' =>
    match item with
    | .text [ch] => return c.padText left width [ch]
    | _ =>
      match item.toInt? with
      | some i => return c.padText left width (← characterOf i)
      | none => typeMismatch
  | 'd' | 'i' | 'u' | 'o' | 'x' | 'X' =>
    return c.padNumeral left width (← c.wholeNumeral (precision.getD 0) item)
  | 'e' | 'E' | 'f' | 'F' | 'g' | 'G' =>
    return c.padNumeral left width (← c.floatNumeral precision item)
  | _ => badValue

/-- The text of a conversion and the operands after it. -/
def run (c : Conversion) (operands : Operands) : Outcome (List Char × Operands) := do
  let chosen ← match c.key with
    | some key => operands.select key
    | none => pure operands
  let (width, afterWidth) ← chosen.amount c.width
  let (precision, afterPrecision) ← afterWidth.amount c.precision
  let (item, rest) ← afterPrecision.next
  let size ← checkedWidth ((width.map Int.natAbs).getD 0)
  let digits ← (precision.map Int.toNat).mapM checkedWidth
  return (← c.write ((width.map (decide <| · < 0)).getD false) size digits item, rest)

end Conversion

/-- The text of parts with operands, all of which have to be used unless they are looked up. -/
def convertParts (operands : Operands) : List ConversionPart → Outcome (List Char)
  | [] => if operands.pending.isEmpty || operands.mapping.isSome then .ok [] else typeMismatch
  | .plain c :: rest => (c :: ·) <$> convertParts operands rest
  | .incomplete keyed :: _ => if keyed && operands.mapping.isNone then typeMismatch else badValue
  | .conversion c :: rest => do
    let (text, left) ← c.run operands
    return text ++ (← convertParts left rest)

/-- A text with its conversions filled in. -/
def convert (text : List Char) (operands : Item) : Outcome (List Char) :=
  convertParts (.ofItem operands) (readConversions text.length text)

end Scriptorium.Template
