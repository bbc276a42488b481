import Scriptorium.Yaml.Cursor

/-!
# Quoted scalars

Scalars between quotes. Gaps around the end of a line go, and the ends of lines are folded. Between
single quotes a single quote is written twice; between double quotes a backslash begins an escape.
-/

set_option autoImplicit false
set_option relaxedAutoImplicit false

namespace Scriptorium.Yaml

/-- The ends of lines that follow the end of a line, with the gaps between them. A mark between
documents must not follow. -/
def quotedBreaks : Nat → Cursor → Outcome (List Char × Cursor)
  | 0, _ => malformed
  | bound + 1, p =>
    if atMark p.rest then malformed
    else
      let p := p.skip isGap
      match p.lineBreak? with
      | some (b, p) => do
        let (others, p) ← quotedBreaks bound p
        return (b :: others, p)
      | none => .ok ([], p)

/-- What a gap in a quoted scalar stands for. -/
def quotedGap (p : Cursor) : Outcome (List Char × Cursor) :=
  let (gap, p) := p.span isGap
  match p.lineBreak? with
  | some (b, p) => do
    let (others, p) ← quotedBreaks p.bound p
    return (folded b others, p)
  | none => if p.rest.isEmpty then malformed else .ok (gap, p)

/-- The rest of a scalar between single quotes. -/
def singleQuoted : Nat → Cursor → Outcome (List Char × Cursor)
  | 0, _ => malformed
  | bound + 1, p =>
    match p.rest with
    | [] => malformed
    | '\'' :: '\'' :: _ => do
      let (text, p) ← singleQuoted bound (p.advance 2)
      return ('\'' :: text, p)
    | '\'' :: _ => .ok ([], p.next)
    | c :: _ => do
      let (piece, p) ← if isGap c || isBreak c then quotedGap p else .ok ([c], p.next)
      let (text, p) ← singleQuoted bound p
      return (piece ++ text, p)

/-- The character that a backslash and a character stand for. -/
def escaped? : Char → Option Char
  | '0' => some '\x00'
  | 'a' => some '\x07'
  | 'b' => some '\x08'
  | 't' | '\t' => some '\t'
  | 'n' => some '\n'
  | 'v' => some '\x0b'
  | 'f' => some '\x0c'
  | 'r' => some '\r'
  | 'e' => some '\x1b'
  | ' ' => some ' '
  | '"' => some '"'
  | '\\' => some '\\'
  | '/' => some '/'
  | 'N' => some '\x85'
  | '_' => some '\xa0'
  | 'L' => some '\u2028'
  | 'P' => some '\u2029'
  | _ => none

/-- How many hexadecimal digits follow a backslash and a letter. -/
def escapeLength? : Char → Option Nat
  | 'x' => some 2
  | 'u' => some 4
  | 'U' => some 8
  | _ => none

/-- What holds a code point. A number that is none is a fault. -/
def textOfCode (n : Nat) : Outcome (List Char) :=
  if n < 0x110000 then .ok (Text.ofCode n)
  else if n < Nat.pow 2 31 then .error (.fault .badValue)
  else .error (.fault .overflow)

/-- What an escape stands for, from the place after its backslash. -/
def escape (p : Cursor) : Outcome (List Char × Cursor) :=
  match p.rest with
  | [] => malformed
  | c :: rest =>
    match escaped? c, escapeLength? c, p.lineBreak? with
    | some d, _, _ => .ok ([d], p.next)
    | none, some n, _ =>
      if rest.length < n then malformed
      else
        match hexNumber? (rest.take n) with
        | some code => do return (← textOfCode code, p.advance (n + 1))
        | none => malformed
    | none, none, some (_, p) => quotedBreaks p.bound p
    | none, none, none => malformed

/-- The rest of a scalar between double quotes. -/
def doubleQuoted : Nat → Cursor → Outcome (List Char × Cursor)
  | 0, _ => malformed
  | bound + 1, p =>
    match p.rest with
    | [] => malformed
    | '"' :: _ => .ok ([], p.next)
    | c :: _ => do
      let (piece, p) ←
        if c == '\\' then escape p.next
        else if isGap c || isBreak c then quotedGap p
        else .ok ([c], p.next)
      let (text, p) ← doubleQuoted bound p
      return (piece ++ text, p)

end Scriptorium.Yaml
