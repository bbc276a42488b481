import Scriptorium.Template.Token
import Scriptorium.Template.Tree

/-!
# The grammar of templates

Reading the tokens of a template as statements. From the loosest to the tightest an expression is a
choice, a disjunction, a conjunction, a negation, a comparison, a sum, a concatenation, a product, a
power, a signed operand with its suffixes. Every reader takes a bound on its depth; `readTemplate`
computes one that the number of tokens makes sufficient.

Where an expression is a wrong target, the message names its line. That is not always the line it
begins on: an operation has the line where the operand before its last one ends, a comparison the
one where it ends itself, and a tuple that of its last comma. So a reader keeps the line of the
expression it built last.
-/

set_option autoImplicit false
set_option relaxedAutoImplicit false

namespace Scriptorium.Template

/-- The tags that are left out. -/
def leftOutTags : List String := ["autoescape", "block", "call", "from", "macro", "print", "with"]

/-- The tokens that are left, the line of the one read last and that of the expression built
last. -/
structure Cursor where
  tokens : List Token
  line : Nat
  built : Nat

/-- A reader of tokens. -/
abbrev Reader := StateT Cursor (Except Failure)

namespace Reader

/-- How a template fails whose reader gets to a token that cannot be read. -/
def failure (line : Nat) : Obstacle → Failure
  | .malformed fault => .malformed line fault
  | .fault fault => .fault fault

/-- A cursor whose first token can be read. -/
def settle (cursor : Cursor) : Except Failure Cursor :=
  match cursor.tokens with
  | ⟨line, .unreadable obstacle⟩ :: _ => .error (failure line obstacle)
  | _ => .ok cursor

/-- The line of the next token, or of the last one at the end. -/
def currentLine : Reader Nat := fun c ↦
  match c.tokens with
  | t :: _ => .ok (t.line, c)
  | [] => .ok (c.line, c)

/-- The next token, which stays; none at the end. -/
def peek : Reader (Option Lexeme) := fun c ↦ .ok (c.tokens.head?.map (·.lexeme), c)

/-- The token after the next one. -/
def peekSecond : Reader (Option Lexeme) := fun c ↦
  match c.tokens with
  | _ :: ⟨line, .unreadable obstacle⟩ :: _ => .error (failure line obstacle)
  | _ :: t :: _ => .ok (some t.lexeme, c)
  | _ => .ok (none, c)

/-- Passes over the next token. -/
def advance : Reader Unit := fun c ↦
  match c.tokens with
  | t :: rest => (settle ⟨rest, t.line, c.built⟩).map ((), ·)
  | [] => .ok ((), c)

/-- An expression that has a line. -/
def build (line : Nat) (e : Expr) : Reader Expr := fun c ↦ .ok (e, { c with built := line })

/-- The line of the expression built last. -/
def builtLine : Reader Nat := fun c ↦ .ok (c.built, c)

/-- Fails at a line. -/
def failAt {α : Type} (line : Nat) (fault : SyntaxFault) : Reader α :=
  fun _ ↦ .error (.malformed line fault)

/-- Fails because of what is nested too deep. -/
def failNested {α : Type} : Reader α := fun _ ↦ .error (.fault .recursion)

/-- Fails because of what is left out. -/
def failLeftOut {α : Type} : Reader α := fun _ ↦ .error (.fault .leftOut)

/-- Fails at the next token. -/
def fail {α : Type} (fault : SyntaxFault) : Reader α := do failAt (← currentLine) fault

/-- How the next token is named in a message. -/
def found : Reader String := do
  match ← peek with
  | some lexeme => return lexeme.description
  | none => return "end of template"

/-- Fails because the next token is not the expected one. -/
def failExpecting {α : Type} (expected : String) : Reader α := do
  match ← peek with
  | some lexeme => fail (.wrongToken expected lexeme.description)
  | none => fail (.endsBefore expected)

/-- Whether the next token is a name. -/
def isName (name : String) : Reader Bool := do
  match ← peek with
  | some (.name n) => return n == name
  | _ => return false

/-- Whether the next token is a symbol. -/
def isSymbol (symbol : Symbol) : Reader Bool := do
  match ← peek with
  | some (.symbol s) => return s == symbol
  | _ => return false

/-- Passes over a name if it comes next. -/
def skipName (name : String) : Reader Bool := do
  if ← isName name then
    advance
    return true
  else return false

/-- Passes over a symbol if it comes next. -/
def skipSymbol (symbol : Symbol) : Reader Bool := do
  if ← isSymbol symbol then
    advance
    return true
  else return false

/-- Passes over a keyword, which has to come next. -/
def expectKeyword (name : String) : Reader Unit := do
  if ← skipName name then return () else failExpecting name

/-- Passes over a symbol, which has to come next. -/
def expectSymbol (symbol : Symbol) : Reader Unit := do
  if ← skipSymbol symbol then return () else failExpecting symbol.text

/-- Any name, which has to come next. -/
def expectName : Reader String := do
  match ← peek with
  | some (.name n) =>
    advance
    return n
  | _ => failExpecting "name"

/-- Passes over the end of a print tag, which has to come next. -/
def expectPrintEnd : Reader Unit := do
  match ← peek with
  | some .printEnd => advance
  | _ => failExpecting Lexeme.printEnd.description

/-- Passes over the end of a statement tag, which has to come next. -/
def expectStatementEnd : Reader Unit := do
  match ← peek with
  | some .statementEnd => advance
  | _ => failExpecting Lexeme.statementEnd.description

/-- Whether a sequence of values ends here. -/
def atTupleEnd : Reader Bool := do
  match ← peek with
  | some .printEnd | some .statementEnd | some (.symbol .closeRound) => return true
  | _ => return false

/-- A name of one or more parts with points between them. -/
def dottedName : Nat → Reader String
  | 0 => fail .tooDeep
  | n + 1 => do
    let first ← expectName
    if ← skipSymbol .dot then
      return first ++ "." ++ (← dottedName n)
    else return first

end Reader

open Reader

/-- The relation that a symbol stands for. -/
def Symbol.comparison? : Symbol → Option Comparison
  | eq => some .eq
  | ne => some .ne
  | lt => some .lt
  | le => some .le
  | gt => some .gt
  | ge => some .ge
  | _ => none

/-- The value of a name that is a literal. -/
def literalOfName? (name : String) : Option Item :=
  if name == "true" || name == "True" then some (.bool true)
  else if name == "false" || name == "False" then some (.bool false)
  else if name == "none" || name == "None" then some .none
  else none

/-- Whether a token can begin the operand that a test takes without parentheses. -/
def startsOperand : Option Lexeme → Bool
  | some (.name n) => !(["else", "or", "and"].contains n)
  | some (.text _) | some (.int _) | some (.float _) => true
  | some (.symbol .openSquare) | some (.symbol .openCurly) => true
  | _ => false

/-- Where one or more expressions with commas between them stand: as the value of a tag, in
parentheses, or after the word that begins a branch or a loop. -/
inductive Position where
  | tag
  | parentheses
  | block
  deriving DecidableEq

mutual

/-- A value, or a choice between two by a condition. -/
def readChoice : Nat → Reader Expr
  | 0 => fail .tooDeep
  | n + 1 => do
    let line ← currentLine
    readChoices n line (← readOr n)

/-- The conditions after a value. -/
def readChoices : Nat → Nat → Expr → Reader Expr
  | 0, _, _ => fail .tooDeep
  | n + 1, line, value => do
    if ← skipName "if" then
      let test ← readOr n
      let other ← if ← skipName "else" then readChoice n else pure (.noElse line)
      let choice ← build line (.choose test value other)
      readChoices n (← currentLine) choice
    else return value

/-- A disjunction. -/
def readOr : Nat → Reader Expr
  | 0 => fail .tooDeep
  | n + 1 => do
    let line ← currentLine
    readOrs n line (← readAnd n)

/-- The further members of a disjunction. -/
def readOrs : Nat → Nat → Expr → Reader Expr
  | 0, _, _ => fail .tooDeep
  | n + 1, line, left => do
    if ← skipName "or" then
      let right ← readAnd n
      let both ← build line (.or left right)
      readOrs n (← currentLine) both
    else return left

/-- A conjunction. -/
def readAnd : Nat → Reader Expr
  | 0 => fail .tooDeep
  | n + 1 => do
    let line ← currentLine
    readAnds n line (← readNot n)

/-- The further members of a conjunction. -/
def readAnds : Nat → Nat → Expr → Reader Expr
  | 0, _, _ => fail .tooDeep
  | n + 1, line, left => do
    if ← skipName "and" then
      let right ← readNot n
      let both ← build line (.and left right)
      readAnds n (← currentLine) both
    else return left

/-- A negation. -/
def readNot : Nat → Reader Expr
  | 0 => fail .tooDeep
  | n + 1 => do
    let line ← currentLine
    if ← skipName "not" then
      let operand ← readNot n
      build line (.not operand)
    else readCompare n

/-- A value, or a chain of values related one to the next. -/
def readCompare : Nat → Reader Expr
  | 0 => fail .tooDeep
  | n + 1 => do
    let first ← readSum n
    match ← readCompares n with
    | [] => return first
    | others => build (← currentLine) (.compare first others)

/-- The relations after a value. -/
def readCompares : Nat → Reader (List (Comparison × Expr))
  | 0 => fail .tooDeep
  | n + 1 => do
    let relation : Option (Comparison × Bool) ←
      match ← peek with
      | some (.symbol s) => pure (s.comparison?.map (·, false))
      | some (.name "in") => pure (some (.isIn, false))
      | some (.name "not") => do
        match ← peekSecond with
        | some (.name "in") => pure (some (.notIn, true))
        | _ => pure none
      | _ => pure none
    match relation with
    | none => return []
    | some (relation, double) =>
      advance
      if double then advance
      let operand ← readSum n
      return (relation, operand) :: (← readCompares n)

/-- A sum. -/
def readSum : Nat → Reader Expr
  | 0 => fail .tooDeep
  | n + 1 => do
    let line ← currentLine
    readSums n line (← readConcat n)

/-- The further terms of a sum. -/
def readSums : Nat → Nat → Expr → Reader Expr
  | 0, _, _ => fail .tooDeep
  | n + 1, line, left => do
    let op : Option Operator ←
      match ← peek with
      | some (.symbol .add) => pure (some .add)
      | some (.symbol .sub) => pure (some .sub)
      | _ => pure none
    match op with
    | some op =>
      advance
      let right ← readConcat n
      let sum ← build line (.arith op left right)
      readSums n (← currentLine) sum
    | none => return left

/-- A concatenation. -/
def readConcat : Nat → Reader Expr
  | 0 => fail .tooDeep
  | n + 1 => do
    let line ← currentLine
    let first ← readProduct n
    match ← readConcats n with
    | [] => return first
    | others => build line (.concat (first :: others))

/-- The further parts of a concatenation. -/
def readConcats : Nat → Reader (List Expr)
  | 0 => fail .tooDeep
  | n + 1 => do
    if ← skipSymbol .tilde then
      let part ← readProduct n
      return part :: (← readConcats n)
    else return []

/-- A product. -/
def readProduct : Nat → Reader Expr
  | 0 => fail .tooDeep
  | n + 1 => do
    let line ← currentLine
    readProducts n line (← readPower n)

/-- The further factors of a product. -/
def readProducts : Nat → Nat → Expr → Reader Expr
  | 0, _, _ => fail .tooDeep
  | n + 1, line, left => do
    let op : Option Operator ←
      match ← peek with
      | some (.symbol .mul) => pure (some .mul)
      | some (.symbol .div) => pure (some .div)
      | some (.symbol .floorDiv) => pure (some .floorDiv)
      | some (.symbol .mod) => pure (some .mod)
      | _ => pure none
    match op with
    | some op =>
      advance
      let right ← readPower n
      let product ← build line (.arith op left right)
      readProducts n (← currentLine) product
    | none => return left

/-- A power. -/
def readPower : Nat → Reader Expr
  | 0 => fail .tooDeep
  | n + 1 => do
    let line ← currentLine
    readPowers n line (← readSigned n true)

/-- The further exponents of a power, from the left. -/
def readPowers : Nat → Nat → Expr → Reader Expr
  | 0, _, _ => fail .tooDeep
  | n + 1, line, left => do
    if ← skipSymbol .pow then
      let right ← readSigned n true
      let power ← build line (.arith .pow left right)
      readPowers n (← currentLine) power
    else return left

/-- An operand with its signs and suffixes; filters belong to the outermost sign. -/
def readSigned : Nat → Bool → Reader Expr
  | 0, _ => fail .tooDeep
  | n + 1, filters => do
    let line ← currentLine
    let operand ←
      match ← peek with
      | some (.symbol .sub) => do
        advance
        let inner ← readSigned n false
        build line (.negative inner)
      | some (.symbol .add) => do
        advance
        let inner ← readSigned n false
        build line (.positive inner)
      | _ => readPrimary n
    let value ← readSuffixes n operand
    if filters then readFilters n value else return value

/-- A name, a literal, or an expression in brackets. -/
def readPrimary : Nat → Reader Expr
  | 0 => fail .tooDeep
  | n + 1 => do
    let line ← currentLine
    match ← peek with
    | some (.name name) =>
      advance
      match literalOfName? name with
      | some value => build line (.const value)
      | none => build line (.name line name)
    | some (.text s) =>
      advance
      let others ← readTexts n
      build line (.const (.text (s ++ others)))
    | some (.int i) =>
      advance
      build line (.const (.int i))
    | some (.float f) =>
      advance
      build line (.const (.float f))
    | some (.symbol .openRound) =>
      advance
      let inner ← readTuple n .parentheses
      expectSymbol .closeRound
      return inner
    | some (.symbol .openSquare) =>
      advance
      let items ← readItems n true
      build line (.list items)
    | some (.symbol .openCurly) =>
      advance
      let entries ← readEntries n true
      build line (.dict entries)
    | _ => fail (.noOperand (← found))

/-- The texts right after a text, which continue it. -/
def readTexts : Nat → Reader (List Char)
  | 0 => fail .tooDeep
  | n + 1 => do
    match ← peek with
    | some (.text s) =>
      advance
      return s ++ (← readTexts n)
    | _ => return []

/-- One expression, or several with commas between them. A choice after the word of a block needs
parentheses. -/
def readTuple : Nat → Position → Reader Expr
  | 0, _ => fail .tooDeep
  | n + 1, place => do
    let line ← currentLine
    match ← readTupleItems n place true with
    | (items, some comma) => build comma (.tuple items)
    | ([], none) =>
      if place = .parentheses then build line (.tuple []) else fail (.noExpression (← found))
    | (item :: _, none) => return item

/-- The expressions of a sequence and the line of its last comma, if there is one. -/
def readTupleItems : Nat → Position → Bool → Reader (List Expr × Option Nat)
  | 0, _, _ => fail .tooDeep
  | n + 1, place, isFirst => do
    if !isFirst then expectSymbol .comma
    if ← atTupleEnd then return ([], none)
    let item ← if place = .block then readOr n else readChoice n
    if ← isSymbol .comma then
      let line ← currentLine
      let (others, last) ← readTupleItems n place false
      return (item :: others, some (last.getD line))
    else return ([item], none)

/-- The items of a list, up to its closing bracket. -/
def readItems : Nat → Bool → Reader (List Expr)
  | 0, _ => fail .tooDeep
  | n + 1, isFirst => do
    if ← skipSymbol .closeSquare then return []
    if !isFirst then expectSymbol .comma
    if ← skipSymbol .closeSquare then return []
    let item ← readChoice n
    return item :: (← readItems n false)

/-- The entries of a dictionary, up to its closing bracket. -/
def readEntries : Nat → Bool → Reader (List (Expr × Expr))
  | 0, _ => fail .tooDeep
  | n + 1, isFirst => do
    if ← skipSymbol .closeCurly then return []
    if !isFirst then expectSymbol .comma
    if ← skipSymbol .closeCurly then return []
    let key ← readChoice n
    expectSymbol .colon
    let value ← readChoice n
    return (key, value) :: (← readEntries n false)

/-- The members, elements and calls after an operand. -/
def readSuffixes : Nat → Expr → Reader Expr
  | 0, _ => fail .tooDeep
  | n + 1, operand => do
    let line ← currentLine
    match ← peek with
    | some (.symbol .dot) =>
      advance
      let after ← currentLine
      let lexeme ← peek
      advance
      let value ← match lexeme with
        | some (.name name) => build line (.member operand name)
        | some (.int i) => build line (.element operand (.const (.int i)))
        | _ => failAt after .noNameOrNumber
      readSuffixes n value
    | some (.symbol .openSquare) =>
      advance
      let indexes ← readIndexes n true
      let index := match indexes with
        | [index] => index
        | _ => .tuple indexes
      let value ← build line (.element operand index)
      readSuffixes n value
    | some (.symbol .openRound) =>
      let arguments ← readArguments n
      let value ← build line (.call operand arguments)
      readSuffixes n value
    | _ => return operand

/-- The indexes of an element, up to the closing bracket. -/
def readIndexes : Nat → Bool → Reader (List Expr)
  | 0, _ => fail .tooDeep
  | n + 1, isFirst => do
    if ← skipSymbol .closeSquare then return []
    if !isFirst then expectSymbol .comma
    let index ← readIndex n
    return index :: (← readIndexes n false)

/-- An index: a value, or the bounds of a slice. -/
def readIndex : Nat → Reader Expr
  | 0 => fail .tooDeep
  | n + 1 => do
    if ← skipSymbol .colon then readBounds n (.const .none)
    else
      let start ← readChoice n
      if ← skipSymbol .colon then readBounds n start else return start

/-- The bounds of a slice after where it starts. -/
def readBounds : Nat → Expr → Reader Expr
  | 0, _ => fail .tooDeep
  | n + 1, start => do
    let stop ← readBound n
    let step ← if ← skipSymbol .colon then readBound n else pure (.const .none)
    return .bounds start stop step

/-- A bound of a slice, which may be missing. -/
def readBound : Nat → Reader Expr
  | 0 => fail .tooDeep
  | n + 1 => do
    match ← peek with
    | some (.symbol .colon) | some (.symbol .closeSquare) | some (.symbol .comma) =>
      return .const .none
    | _ => readChoice n

/-- The filters, tests and calls after an operand. -/
def readFilters : Nat → Expr → Reader Expr
  | 0, _ => fail .tooDeep
  | n + 1, operand => do
    let line ← currentLine
    match ← peek with
    | some (.symbol .pipe) =>
      advance
      let value ← readFilter n operand
      readFilters n value
    | some (.name "is") =>
      advance
      let value ← readTest n line operand
      readFilters n value
    | some (.symbol .openRound) =>
      let arguments ← readArguments n
      let value ← build line (.call operand arguments)
      readFilters n value
    | _ => return operand

/-- The name and the arguments of a filter. -/
def readFilter : Nat → Expr → Reader Expr
  | 0, _ => fail .tooDeep
  | n + 1, input => do
    let line ← currentLine
    let name ← dottedName n
    let arguments ← if ← isSymbol .openRound then readArguments n else pure .empty
    build line (.filter line input name arguments)

/-- The name and the arguments of a test; one argument needs no parentheses. -/
def readTest : Nat → Nat → Expr → Reader Expr
  | 0, _, _ => fail .tooDeep
  | n + 1, line, input => do
    let negated ← skipName "not"
    let name ← dottedName n
    let arguments : Arguments ←
      if ← isSymbol .openRound then readArguments n
      else if startsOperand (← peek) then
        if ← isName "is" then fail .chainedTests
        let operand ← readPrimary n
        let argument ← readSuffixes n operand
        pure (.mk [argument] [] none none)
      else pure .empty
    let test := .test line input name arguments
    build line (if negated then .not test else test)

/-- The arguments of a call in their parentheses. -/
def readArguments : Nat → Reader Arguments
  | 0 => fail .tooDeep
  | n + 1 => do
    let line ← currentLine
    expectSymbol .openRound
    readArgumentList n line true .empty

/-- The arguments that are left, after those already read. -/
def readArgumentList : Nat → Nat → Bool → Arguments → Reader Arguments
  | 0, _, _, _ => fail .tooDeep
  | n + 1, line, isFirst, done => do
    if ← skipSymbol .closeRound then return done
    if !isFirst then expectSymbol .comma
    if ← skipSymbol .closeRound then return done
    let more ← readArgument n line done
    readArgumentList n line false more

/-- An argument after others: by position, by name, or a sequence or a dictionary of more arguments.
Nothing follows the dictionary, and only named arguments and the dictionary follow the sequence or a
name. -/
def readArgument : Nat → Nat → Arguments → Reader Arguments
  | 0, _, _ => fail .tooDeep
  | n + 1, line, .mk values named spread spreadNamed => do
    match ← peek with
    | some (.symbol .mul) =>
      if spread.isSome || spreadNamed.isSome then failAt line .badCallArguments
      advance
      let sequence ← readChoice n
      return .mk values named (some sequence) spreadNamed
    | some (.symbol .pow) =>
      if spreadNamed.isSome then failAt line .badCallArguments
      advance
      let dictionary ← readChoice n
      return .mk values named spread (some dictionary)
    | lexeme =>
      let keyword : Option String ←
        match lexeme with
        | some (.name name) => do
          match ← peekSecond with
          | some (.symbol .assign) => pure (some name)
          | _ => pure none
        | _ => pure none
      match keyword with
      | some name =>
        if spreadNamed.isSome then failAt line .badCallArguments
        advance
        advance
        let value ← readChoice n
        return .mk values (named ++ [(name, value)]) spread spreadNamed
      | none =>
        if spread.isSome || spreadNamed.isSome || !named.isEmpty then failAt line .badCallArguments
        let value ← readChoice n
        return .mk (values ++ [value]) named spread spreadNamed

end

/-- The filters of a block, applied to its body one after the other. -/
def readBodyFilters : Nat → Expr → Reader Expr
  | 0, _ => fail .tooDeep
  | n + 1, input => do
    if ← skipSymbol .pipe then
      let value ← readFilter n input
      readBodyFilters n value
    else return input

/-- An expression as a target, or its kind if it is none. -/
def Expr.asTarget (e : Expr) : Except String Target :=
  match e.toTarget? with
  | some target => .ok target
  | none => .error e.kindName

/-- A single target of an assignment, or the kind of the expression that stands for it. A name with
a point after it is a slot where slots can be assigned to. -/
def readTargetItem (n : Nat) (slots : Bool) : Reader (Except String Target) := do
  let inParentheses ← isSymbol .openRound
  match ← readPrimary n with
  | .name line owner =>
    if slots && !inParentheses then
      if ← skipSymbol .dot then
        let name ← expectName
        return .ok (.slot owner name)
    return .ok (.name line owner)
  | e => return e.asTarget

/-- The single targets of an assignment with commas between them, and the line of the last comma, if
there is one. -/
def readTargetItems (slots : Bool) :
    Nat → Bool → Reader (List (Except String Target) × Option Nat)
  | 0, _ => fail .tooDeep
  | n + 1, isFirst => do
    if !isFirst then expectSymbol .comma
    if ← atTupleEnd then return ([], none)
    let item ← readTargetItem n slots
    if ← isSymbol .comma then
      let line ← currentLine
      let (others, last) ← readTargetItems slots n false
      return (item :: others, some (last.getD line))
    else return ([item], none)

/-- What a value is assigned to. -/
def readTarget (n : Nat) (slots : Bool) : Reader Target := do
  match ← readTargetItems slots n true with
  | (items, some comma) =>
    match items.mapM id with
    | .ok targets => return .tuple targets
    | .error _ => failAt comma (.notAssignable "tuple")
  | (.ok target :: _, none) => return target
  | (.error kind :: _, none) => failAt (← builtLine) (.notAssignable kind)
  | ([], none) => fail (.noExpression (← found))

/-- Passes over `with context` or `without context`. -/
def skipContext : Reader Unit := do
  if (← isName "with") || (← isName "without") then
    match ← peekSecond with
    | some (.name "context") =>
      advance
      advance
    | _ => return ()

/-- Passes over `ignore missing`, and says whether it was there. -/
def skipIgnoreMissing : Reader Bool := do
  if ← isName "ignore" then
    match ← peekSecond with
    | some (.name "missing") =>
      advance
      advance
      return true
    | _ => return false
  else return false

/-- The greatest number of blocks that are open at once. -/
def openBlockLimit : Nat := 243

mutual

/-- The statements up to one of the closing tags, whose name comes next, or up to the end of the
template. `awaited` are the closing tags of the blocks that are open, `open'` their names, both
innermost first. -/
def readBody : Nat → List (List String) → List String → List String → Reader (List Statement)
  | 0, _, _, _ => fail .tooDeep
  | n + 1, awaited, open', closers => do
    match ← peek with
    | some (.data text) =>
      advance
      return .text text :: (← readBody n awaited open' closers)
    | some .printBegin =>
      advance
      let value ← readTuple n .tag
      expectPrintEnd
      return .print value :: (← readBody n awaited open' closers)
    | some .statementBegin =>
      advance
      let atCloser ← match ← peek with
        | some (.name name) => pure (closers.contains name)
        | _ => pure false
      if atCloser then return []
      let statement ← readStatement n awaited open'
      expectStatementEnd
      return statement :: (← readBody n awaited open' closers)
    | _ => return []

/-- The rest of a tag that opens a block, and the body up to one of the closing tags. -/
def readBlock : Nat → List (List String) → List String → List String → Reader (List Statement)
  | 0, _, _, _ => fail .tooDeep
  | n + 1, awaited, open', closers => do
    let _ ← skipSymbol .colon
    expectStatementEnd
    let body ← readBody n (closers :: awaited) open' closers
    match ← peek with
    | none => fail (.unclosedTag closers open'.head?)
    | some _ => return body

/-- A statement, from the name of its tag to before the end of its last tag. -/
def readStatement : Nat → List (List String) → List String → Reader Statement
  | 0, _, _ => fail .tooDeep
  | n + 1, awaited, open' => do
    if openBlockLimit ≤ open'.length then failNested
    match ← peek with
    | some (.name "if") =>
      advance
      let (cases, otherwise) ← readCases n awaited ("if" :: open')
      return .branch cases otherwise
    | some (.name "for") =>
      advance
      readLoop n awaited ("for" :: open')
    | some (.name "set") =>
      advance
      let target ← readTarget n true
      if ← skipSymbol .assign then
        return .assign target (← readTuple n .tag)
      let value ← readBodyFilters n .body
      let body ← readBlock n awaited ("set" :: open') ["endset"]
      advance
      return .capture target value body
    | some (.name "filter") =>
      advance
      let value ← readBodyFilters n (← readFilter n .body)
      let body ← readBlock n awaited ("filter" :: open') ["endfilter"]
      advance
      return .filtered value body
    | some (.name "include") =>
      advance
      let template ← readChoice n
      let ignoreMissing ← skipIgnoreMissing
      skipContext
      return .inclusion template ignoreMissing
    | some (.name "extends") =>
      let line ← currentLine
      advance
      return .extension line (← readChoice n)
    | some (.name "import") =>
      advance
      let template ← readChoice n
      expectKeyword "as"
      let name ← expectName
      skipContext
      return .importation template name
    | some (.name name) =>
      if leftOutTags.contains name then failLeftOut
      else fail (.unknownTag name awaited open'.head?)
    | _ => fail .noTagName

/-- The cases of a branch after a word that announces one, and what is rendered otherwise. -/
def readCases : Nat → List (List String) → List String →
    Reader (List (Expr × List Statement) × List Statement)
  | 0, _, _ => fail .tooDeep
  | n + 1, awaited, open' => do
    let test ← readTuple n .block
    let body ← readBlock n awaited open' ["elif", "else", "endif"]
    if ← skipName "elif" then
      let (cases, otherwise) ← readCases n awaited open'
      return ((test, body) :: cases, otherwise)
    else if ← skipName "else" then
      let otherwise ← readBlock n awaited open' ["endif"]
      advance
      return ([(test, body)], otherwise)
    else
      advance
      return ([(test, body)], [])

/-- A loop after its first word. -/
def readLoop : Nat → List (List String) → List String → Reader Statement
  | 0, _, _ => fail .tooDeep
  | n + 1, awaited, open' => do
    let target ← readTarget n false
    expectKeyword "in"
    let items ← readTuple n .block
    let condition : Option Expr ←
      if ← skipName "if" then pure (some (← readChoice n)) else pure none
    let recursive ← skipName "recursive"
    let body ← readBlock n awaited open' ["endfor", "else"]
    if ← skipName "endfor" then
      return .loop target items condition recursive body []
    else
      advance
      let otherwise ← readBlock n awaited open' ["endfor"]
      advance
      return .loop target items condition recursive body otherwise

end

/-- The statements of a template. -/
def readTemplate (text : List Char) : Except Failure (List Statement) := do
  let tokens := Token.scan text
  let start ← Reader.settle ⟨tokens, 1, 1⟩
  let (body, _) ← (readBody (32 * (tokens.length + 2)) [] [] []).run start
  return body

end Scriptorium.Template
