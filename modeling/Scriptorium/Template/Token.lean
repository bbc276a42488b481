import Scriptorium.Template.Fault
import Scriptorium.Template.Literal
import Scriptorium.Template.Opening
import Scriptorium.Text.Identifier
import Scriptorium.Text.Line

/-!
# Tokens of a template

A template is a sequence of tokens: plain text, and between the marks of a tag names, literals and
symbols. `Token.scan` reads them. White space, comments and the marks of raw sections leave no
token, and a place that cannot be read leaves a token that says why and is the last one, so that the
fault counts only for a reader that gets there.
-/

set_option autoImplicit false
set_option relaxedAutoImplicit false

namespace Scriptorium.Template

open Text

/-- The symbols of expressions. -/
inductive Symbol where
  | add | sub | div | floorDiv | mul | mod | pow | tilde
  | openSquare | closeSquare | openRound | closeRound | openCurly | closeCurly
  | eq | ne | gt | ge | lt | le | assign | dot | colon | pipe | comma | semicolon
  deriving DecidableEq, Repr

/-- How a symbol is written. -/
def Symbol.text : Symbol → String
  | add => "+" | sub => "-" | div => "/" | floorDiv => "//" | mul => "*" | mod => "%" | pow => "**"
  | tilde => "~" | openSquare => "[" | closeSquare => "]" | openRound => "(" | closeRound => ")"
  | openCurly => "\x7b" | closeCurly => "\x7d" | eq => "==" | ne => "!=" | gt => ">" | ge => ">="
  | lt => "<" | le => "<=" | assign => "=" | dot => "." | colon => ":" | pipe => "|" | comma => ","
  | semicolon => ";"

/-- The symbol that two characters make. -/
def Symbol.ofPair? (c d : Char) : Option Symbol :=
  match c, d with
  | '/', '/' => some .floorDiv
  | '*', '*' => some .pow
  | '=', '=' => some .eq
  | '!', '=' => some .ne
  | '>', '=' => some .ge
  | '<', '=' => some .le
  | _, _ => none

/-- The symbol that one character makes. -/
def Symbol.ofChar? (c : Char) : Option Symbol :=
  match c with
  | '+' => some .add
  | '-' => some .sub
  | '/' => some .div
  | '*' => some .mul
  | '%' => some .mod
  | '~' => some .tilde
  | '[' => some .openSquare
  | ']' => some .closeSquare
  | '(' => some .openRound
  | ')' => some .closeRound
  | '\x7b' => some .openCurly
  | '\x7d' => some .closeCurly
  | '>' => some .gt
  | '<' => some .lt
  | '=' => some .assign
  | '.' => some .dot
  | ':' => some .colon
  | '|' => some .pipe
  | ',' => some .comma
  | ';' => some .semicolon
  | _ => none

/-- The longest symbol that a text begins with, and the text after it. -/
def readSymbol? : List Char → Option (Symbol × List Char)
  | [] => none
  | [c] => (Symbol.ofChar? c).map (·, [])
  | c :: d :: rest =>
    match Symbol.ofPair? c d with
    | some s => some (s, rest)
    | none => (Symbol.ofChar? c).map (·, d :: rest)

/-- Why a place cannot be read: the template is malformed there, or what is written there has no
value. -/
inductive Obstacle where
  | malformed (fault : SyntaxFault)
  | fault (fault : Fault)

/-- What a token is. -/
inductive Lexeme where
  | data (text : List Char)
  | printBegin
  | printEnd
  | statementBegin
  | statementEnd
  | name (name : String)
  | text (value : List Char)
  | int (value : Nat)
  | float (value : Float)
  | symbol (symbol : Symbol)
  | unreadable (obstacle : Obstacle)

/-- How a token is named in a message. -/
def Lexeme.description : Lexeme → String
  | data _ => "template data / text"
  | printBegin => "begin of print statement"
  | printEnd => "end of print statement"
  | statementBegin => "begin of statement block"
  | statementEnd => "end of statement block"
  | name n => n
  | text _ => "string"
  | int _ => "integer"
  | float _ => "float"
  | symbol s => s.text
  | unreadable (.malformed fault) => fault.message
  | unreadable (.fault _) => ""

/-- A token and the line it begins on. -/
structure Token where
  line : Nat
  lexeme : Lexeme

/-- A floating-point number that is written with some characters; other digits than those of ASCII
give none. -/
def floatLexeme (written : List Char) (value : Float) : Lexeme :=
  if written.all (·.toNat < 128) then .float value else .unreadable (.fault .malformedCode)

/-- A whole number that is written with some characters; in decimal notation it can have too
many. -/
def intLexeme (written : List Char) (value : Nat) : Lexeme :=
  let isDecimal := (written.drop 1).all fun c ↦ c == '_' || isDigit c
  if isDecimal && Decimal.digitLimit < (written.filter (· != '_')).length then
    .unreadable (.fault .badValue)
  else .int value

/-- The start of a text up to what is left of it. -/
def readPart (text after : List Char) : List Char := text.take (text.length - after.length)

/-- A number, a name, a quoted text or a symbol at the start of a text, and the text after it. After
a point digits are a whole number. -/
def readLexeme? (afterDot : Bool) (text : List Char) : Option (Lexeme × List Char) :=
  match (if afterDot then none else readFloat? text) with
  | some (f, after) => some (floatLexeme (readPart text after) f, after)
  | none =>
    match readInteger? text with
    | some (n, after) => some (intLexeme (readPart text after) n, after)
    | none =>
      match text with
      | [] => none
      | c :: rest =>
        if isWord c then
          let word := c :: rest.takeWhile isWord
          let lexeme :=
            if isIdentifier word then .name (String.ofList word)
            else .unreadable (.malformed .notIdentifier)
          some (lexeme, rest.dropWhile isWord)
        else
          match (if c == '\'' || c == '"' then readQuoted? c rest else none) with
          | some (inner, after) =>
            let lexeme :=
              match quotedValue inner with
              | .ok value => .text value
              | .error reason => .unreadable (.malformed (.badEscape reason))
            some (lexeme, after)
          | none => (readSymbol? text).map fun (s, after) ↦ (.symbol s, after)

/-- The bracket that closes what a symbol opens. -/
def Symbol.closer? : Symbol → Option Char
  | openSquare => some ']'
  | openRound => some ')'
  | openCurly => some '\x7d'
  | _ => none

/-- The bracket that a symbol is, if it closes. -/
def Symbol.close? : Symbol → Option Char
  | closeSquare => some ']'
  | closeRound => some ')'
  | closeCurly => some '\x7d'
  | _ => none

/-- The greatest number of brackets in a tag that are open at once. -/
def openBracketLimit : Nat := 69

/-- The brackets that are open after a lexeme. -/
def balance (brackets : List Char) : Lexeme → Except Obstacle (List Char)
  | .symbol s =>
    match s.closer?, s.close? with
    | some c, _ =>
      if brackets.length < openBracketLimit then .ok (c :: brackets) else .error (.fault .recursion)
    | none, some c =>
      match brackets with
      | [] => .error (.malformed (.unopenedBracket c))
      | expected :: others =>
        if expected == c then .ok others else .error (.malformed (.mismatchedBracket c expected))
    | none, none => .ok brackets
  | _ => .ok brackets

/-- Whether what was read from `before` until `after` was left ends in a line feed. -/
def endsLine (before after : List Char) : Bool :=
  (before.take (before.length - after.length)).getLast? == some '\n'

/-- Where a scan is: in plain text, perhaps at the start of a line, or in a tag, with the brackets
that are open there and whether a point came last. -/
inductive ScanState where
  | text (startsLine : Bool)
  | tag (kind : TagKind) (brackets : List Char) (afterDot : Bool)

/-- The end of a tag of a kind. -/
def readTagEnd? : TagKind → List Char → Option (List Char)
  | .print, text => readPrintEnd? text
  | _, text => readStatementEnd? text

/-- The token for the end of a tag of a kind. -/
def TagKind.endLexeme : TagKind → Lexeme
  | .print => .printEnd
  | _ => .statementEnd

/-- The token for the beginning of a tag of a kind. -/
def TagKind.beginLexeme : TagKind → Lexeme
  | .print => .printBegin
  | _ => .statementBegin

/-- The token of a stretch of plain text; there is none for no text. -/
def dataTokens (line : Nat) (text : List Char) : List Token :=
  if text.isEmpty then [] else [⟨line, .data text⟩]

/-! ### Each step leaves less to read -/

theorem length_trimLeft_le (text : List Char) : (trimLeft text).length ≤ text.length :=
  (List.dropWhile_sublist _).length_le

theorem length_dropNewline_le (text : List Char) : (dropNewline text).length ≤ text.length := by
  unfold dropNewline; split <;> simp

theorem length_readSign_le (text : List Char) : (readSign text).2.length ≤ text.length := by
  unfold readSign; split <;> simp

theorem length_readKeyword? {keyword text rest : List Char}
    (h : readKeyword? keyword text = some rest) :
    rest.length ≤ text.length := by
  simp only [readKeyword?] at h
  split at h
  · have h1 := length_trimLeft_le ((trimLeft text).drop keyword.length)
    have h2 := length_trimLeft_le text
    simp only [Option.some.injEq] at h
    rw [← h]
    simp only [List.length_drop] at h1
    omega
  · cases h

theorem length_readPlainEnd? {text rest : List Char} (h : readPlainEnd? text = some rest) :
    rest.length < text.length := by
  unfold readPlainEnd? at h
  split at h
  · rename_i r
    have := length_trimLeft_le r
    simp only [Option.some.injEq] at h
    simp [← h]; omega
  · simp only [Option.some.injEq] at h
    rw [← h]
    simp only [List.length_cons]
    omega
  · cases h

theorem length_readStatementEnd? {text rest : List Char} (h : readStatementEnd? text = some rest) :
    rest.length < text.length := by
  unfold readStatementEnd? at h
  split at h
  · simp only [Option.some.injEq] at h
    rw [← h]
    simp only [List.length_cons]
    omega
  · rename_i r
    have := length_trimLeft_le r
    simp only [Option.some.injEq] at h
    simp [← h]; omega
  · rename_i r
    have := length_dropNewline_le r
    simp only [Option.some.injEq] at h
    simp [← h]; omega
  · cases h

theorem length_readPrintEnd? {text rest : List Char} (h : readPrintEnd? text = some rest) :
    rest.length < text.length := by
  unfold readPrintEnd? at h
  split at h
  · rename_i r
    have := length_trimLeft_le r
    simp only [Option.some.injEq] at h
    simp [← h]; omega
  · simp only [Option.some.injEq] at h
    rw [← h]
    simp only [List.length_cons]
    omega
  · cases h

theorem length_readCommentEnd? {text rest : List Char} (h : readCommentEnd? text = some rest) :
    rest.length < text.length := by
  unfold readCommentEnd? at h
  split at h
  · simp only [Option.some.injEq] at h
    rw [← h]
    simp only [List.length_cons]
    omega
  · rename_i r
    have := length_trimLeft_le r
    simp only [Option.some.injEq] at h
    simp [← h]; omega
  · rename_i r
    have := length_dropNewline_le r
    simp only [Option.some.injEq] at h
    simp [← h]; omega
  · cases h

theorem length_readTagEnd? {kind : TagKind} {text rest : List Char}
    (h : readTagEnd? kind text = some rest) :
    rest.length < text.length := by
  cases kind with
  | print => exact length_readPrintEnd? h
  | raw | comment | statement => exact length_readStatementEnd? h

theorem length_readOpening? {text rest : List Char} {kind : TagKind} {sign : Sign}
    (h : readOpening? text = some (kind, sign, rest)) : rest.length < text.length := by
  unfold readOpening? at h
  split at h
  · rename_i r
    have hs := length_readSign_le r
    dsimp only at h
    split at h
    · rename_i body hb
      obtain ⟨k, hk, hp⟩ := Option.bind_eq_some_iff.1 hb
      have h1 := length_readKeyword? hk
      have h2 := length_readPlainEnd? hp
      cases h
      simp only [List.length_cons]
      omega
    · simp only [Option.some.injEq, Prod.mk.injEq] at h
      obtain ⟨-, -, rfl⟩ := h
      simp only [List.length_cons]
      omega
  · rename_i r
    have hs := length_readSign_le r
    simp only [Option.some.injEq, Prod.mk.injEq] at h
    obtain ⟨-, -, rfl⟩ := h
    simp only [List.length_cons]
    omega
  · rename_i r
    have hs := length_readSign_le r
    simp only [Option.some.injEq, Prod.mk.injEq] at h
    obtain ⟨-, -, rfl⟩ := h
    simp only [List.length_cons]
    omega
  · cases h

theorem length_splitAtOpening {text before rest : List Char} {kind : TagKind} {sign : Sign}
    (h : splitAtOpening text = (before, some (kind, sign, rest))) : rest.length < text.length := by
  induction text generalizing before with
  | nil => simp [splitAtOpening] at h
  | cons c text ih =>
    unfold splitAtOpening at h
    split at h
    · rename_i opening ho
      simp only [Prod.mk.injEq, Option.some.injEq] at h
      rw [h.2] at ho
      exact length_readOpening? ho
    · simp only [Prod.mk.injEq] at h
      have := ih (Prod.ext rfl h.2)
      simp; omega

theorem length_splitAtCommentEnd? {text before rest : List Char}
    (h : splitAtCommentEnd? text = some (before, rest)) : rest.length < text.length := by
  induction text generalizing before with
  | nil => simp [splitAtCommentEnd?] at h
  | cons c text ih =>
    unfold splitAtCommentEnd? at h
    split at h
    · rename_i after ha
      simp only [Option.some.injEq, Prod.mk.injEq] at h
      exact h.2 ▸ length_readCommentEnd? ha
    · simp only [Option.map_eq_some_iff, Prod.mk.injEq, Prod.exists] at h
      obtain ⟨b, r, hr, -, rfl⟩ := h
      have := ih hr
      simp; omega

theorem length_readRawEnd? {text rest : List Char} {sign : Sign}
    (h : readRawEnd? text = some (sign, rest)) :
    rest.length < text.length := by
  unfold readRawEnd? at h
  split at h
  · rename_i r
    have hs := length_readSign_le r
    simp only [Option.map_eq_some_iff, Prod.mk.injEq] at h
    obtain ⟨a, ha, -, rfl⟩ := h
    obtain ⟨k, hk, hp⟩ := Option.bind_eq_some_iff.1 ha
    have h1 := length_readKeyword? hk
    have h2 := length_readStatementEnd? hp
    simp; omega
  · cases h

theorem length_splitAtRawEnd? {text before rest : List Char} {sign : Sign}
    (h : splitAtRawEnd? text = some (before, sign, rest)) : rest.length < text.length := by
  induction text generalizing before with
  | nil => simp [splitAtRawEnd?] at h
  | cons c text ih =>
    unfold splitAtRawEnd? at h
    split at h
    · rename_i s after ha
      simp only [Option.some.injEq, Prod.mk.injEq] at h
      exact h.2.2 ▸ length_readRawEnd? ha
    · simp only [Option.map_eq_some_iff, Prod.mk.injEq, Prod.exists] at h
      obtain ⟨b, s, r, hr, -, rfl, rfl⟩ := h
      have := ih hr
      simp; omega

theorem length_readSymbol? {text rest : List Char} {s : Symbol}
    (h : readSymbol? text = some (s, rest)) :
    rest.length < text.length := by
  unfold readSymbol? at h
  split at h
  · cases h
  · simp only [Option.map_eq_some_iff, Prod.mk.injEq] at h
    obtain ⟨_, _, -, rfl⟩ := h
    simp
  · split at h
    · simp only [Option.some.injEq, Prod.mk.injEq] at h
      rw [← h.2]
      simp only [List.length_cons]
      omega
    · simp only [Option.map_eq_some_iff, Prod.mk.injEq] at h
      obtain ⟨_, _, -, rfl⟩ := h
      simp

theorem length_readLexeme? {afterDot : Bool} {text rest : List Char} {lexeme : Lexeme}
    (h : readLexeme? afterDot text = some (lexeme, rest)) : rest.length < text.length := by
  unfold readLexeme? at h
  split at h
  · rename_i f after hf
    split at hf
    · cases hf
    · simp only [Option.some.injEq, Prod.mk.injEq] at h
      exact h.2 ▸ length_readFloat? hf
  · split at h
    · rename_i n after hn
      simp only [Option.some.injEq, Prod.mk.injEq] at h
      exact h.2 ▸ length_readInteger? hn
    · split at h
      · cases h
      · rename_i c tail _ _
        split at h
        · have := (List.dropWhile_sublist isWord (l := tail)).length_le
          simp only [Option.some.injEq, Prod.mk.injEq] at h
          simp [← h.2]; omega
        · split at h
          · rename_i inner after hq
            split at hq
            · have := length_readQuoted? hq
              simp only [Option.some.injEq, Prod.mk.injEq] at h
              simp [← h.2]; omega
            · cases hq
          · simp only [Option.map_eq_some_iff, Prod.mk.injEq, Prod.exists] at h
            obtain ⟨s, r, hr, -, rfl⟩ := h
            exact length_readSymbol? hr

/-! ### Scanning -/

/-- The tokens of what is left of a template of `size` characters and `newlines` line feeds. The
line and the offset of a place follow from what is left there. -/
def Token.scanFrom (size newlines : Nat) (state : ScanState) (text : List Char) : List Token :=
  let lineOf (rest : List Char) : Nat := newlines - newlineCount rest + 1
  match state with
  | .text startsLine =>
    match opening : splitAtOpening text with
    | (before, none) => dataTokens (lineOf text) before
    | (before, some (kind, sign, rest)) =>
      let tagText := text.drop before.length
      dataTokens (lineOf text) (textBefore startsLine kind sign before) ++
        match kind with
        | .raw =>
          match _raw : splitAtRawEnd? rest with
          | some (body, endSign, after) =>
            dataTokens (lineOf rest) (textBefore (endsLine text rest) .raw endSign body)
              ++ scanFrom size newlines (.text (endsLine rest after)) after
          | none =>
            if rest.isEmpty then []
            else [⟨lineOf rest, .unreadable (.malformed .unclosedRaw)⟩]
        | .comment =>
          match _comment : splitAtCommentEnd? rest with
          | some (_, after) => scanFrom size newlines (.text (endsLine rest after)) after
          | none =>
            if rest.isEmpty then []
            else [⟨lineOf rest, .unreadable (.malformed .unclosedComment)⟩]
        | kind =>
          ⟨lineOf tagText, kind.beginLexeme⟩ :: scanFrom size newlines (.tag kind [] false) rest
  | .tag kind brackets afterDot =>
    match _closing : (if brackets.isEmpty then readTagEnd? kind text else none) with
    | some after =>
      ⟨lineOf text, kind.endLexeme⟩ :: scanFrom size newlines (.text (endsLine text after)) after
    | none =>
      match text with
      | [] => []
      | c :: rest =>
        if isBlank c then scanFrom size newlines (.tag kind brackets false) rest
        else
          match step : readLexeme? afterDot (c :: rest) with
          | none =>
            [⟨lineOf (c :: rest),
              .unreadable (.malformed (.unexpectedChar c (size - (rest.length + 1))))⟩]
          | some (.unreadable obstacle, _) => [⟨lineOf (c :: rest), .unreadable obstacle⟩]
          | some (lexeme, after) =>
            match balance brackets lexeme with
            | .error obstacle => [⟨lineOf (c :: rest), .unreadable obstacle⟩]
            | .ok open' =>
              ⟨lineOf (c :: rest), lexeme⟩
                :: scanFrom size newlines (.tag kind open' (c == '.')) after
termination_by text.length
decreasing_by
  · have h1 := length_splitAtOpening opening
    have h2 := length_splitAtRawEnd? _raw
    omega
  · have h1 := length_splitAtOpening opening
    have h2 := length_splitAtCommentEnd? _comment
    omega
  · exact length_splitAtOpening opening
  · split at _closing
    · exact length_readTagEnd? _closing
    · cases _closing
  · simp
  · exact length_readLexeme? step

/-- The tokens of a template. -/
def Token.scan (text : List Char) : List Token :=
  Token.scanFrom text.length (newlineCount text) (.text true) text

end Scriptorium.Template
