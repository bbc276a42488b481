import Scriptorium.Yaml.Cursor

/-!
# Block scalars

Scalars of indented lines, literal or folded. A header says what becomes of the ends of lines after
the last line that is not empty, and may say how far the lines are indented; if it does not, the
first of them shows.
-/

set_option autoImplicit false
set_option relaxedAutoImplicit false

namespace Scriptorium.Yaml

/-- What becomes of the ends of lines at the end of a scalar: the first is kept, none, or all. -/
inductive Chomping where
  | clip
  | strip
  | keep
  deriving DecidableEq, Repr

/-- The chomping that a character asks for. -/
def Chomping.ofChar? : Char → Option Chomping
  | '+' => some keep
  | '-' => some strip
  | _ => none

/-- What the header of a block scalar says. -/
structure BlockHeader where
  chomping : Chomping
  increment : Option Nat
  deriving DecidableEq, Repr

/-- The indentation that a digit asks for, which must not be zero; without a digit, none. -/
def increment? (p : Cursor) : Outcome (Option Nat × Cursor) :=
  match p.rest with
  | c :: _ =>
    if c == '0' then malformed
    else if c.isDigit then .ok (some (c.toNat - 48), p.next)
    else .ok (none, p)
  | [] => .ok (none, p)

/-- The chomping that comes next, if one does. -/
def chomping? (p : Cursor) : Option Chomping × Cursor :=
  match p.rest with
  | c :: _ =>
    match Chomping.ofChar? c with
    | some k => (some k, p.next)
    | none => (none, p)
  | [] => (none, p)

/-- The header of a block scalar: chomping and indentation in either order. -/
def blockHeader (p : Cursor) : Outcome (BlockHeader × Cursor) := do
  let (first, p) := chomping? p
  let (increment, p) ← increment? p
  let (second, p) := if first.isNone && increment.isSome then chomping? p else (none, p)
  if !atSpace p.rest then malformed
  else
    let p ← p.endLine?
    return (⟨(first.or second).getD .clip, increment⟩, p)

/-- Goes through spaces up to a column. -/
def skipIndent (indent : Nat) (p : Cursor) : Cursor :=
  p.advance ((p.rest.take (indent - p.column)).takeWhile (· == ' ')).length

/-- The ends of empty lines, and the indentation of the line after them. -/
def blockBreaks (indent : Nat) : Nat → Cursor → List Char × Cursor
  | 0, p => ([], p)
  | bound + 1, p =>
    let p := skipIndent indent p
    match p.lineBreak? with
    | some (b, p) =>
      let (others, p) := blockBreaks indent bound p
      (b :: others, p)
    | none => ([], p)

/-- The ends of empty lines at the start of a block scalar, the furthest column that spaces reach on
those lines and the next, and the place after them. -/
def blockStart : Nat → Cursor → List Char × Nat × Cursor
  | 0, p => ([], 0, p)
  | bound + 1, p =>
    let p := p.skip (· == ' ')
    match p.lineBreak? with
    | some (b, after) =>
      let (others, furthest, last) := blockStart bound after
      (b :: others, max p.column furthest, last)
    | none => ([], p.column, p)

/-- Whether a text begins with a space or a tab. -/
def startsWithGap : List Char → Bool
  | [] => false
  | c :: _ => isGap c

/-- Whether another line of a block scalar comes. -/
def atBlockLine (indent : Nat) (p : Cursor) : Bool := p.column == indent && !p.rest.isEmpty

/-- The lines of a block scalar from the first character of one. -/
def blockLines (fold : Bool) (chomping : Chomping) (indent : Nat) :
    Nat → Cursor → List Char × Cursor
  | 0, p => ([], p)
  | bound + 1, p =>
    let (line, after) := p.span fun c ↦ !isBreak c
    let (lineEnd, after) := match after.lineBreak? with
      | some (b, after) => ([b], after)
      | none => ([], after)
    let (breaks, after) := blockBreaks indent after.bound after
    if atBlockLine indent after then
      let joint :=
        if fold && lineEnd == ['\n'] && !startsWithGap p.rest && !startsWithGap after.rest then
          if breaks.isEmpty then [' '] else []
        else lineEnd
      let (others, last) := blockLines fold chomping indent bound after
      (line ++ joint ++ breaks ++ others, last)
    else
      let tail := match chomping with
        | .clip => lineEnd
        | .strip => []
        | .keep => lineEnd ++ breaks
      (line ++ tail, after)

/-- A block scalar from the place after its mark, inside a collection that is indented by a
column. -/
def blockScalar (fold : Bool) (around : Int) (p : Cursor) : Outcome (List Char × Cursor) := do
  let (header, p) ← blockHeader p
  let least := (max (around + 1) 1).toNat
  let (breaks, indent, p) := match header.increment with
    | some n =>
      let indent := least + n - 1
      let (breaks, p) := blockBreaks indent p.bound p
      (breaks, indent, p)
    | none =>
      let (breaks, furthest, p) := blockStart p.bound p
      (breaks, max least furthest, p)
  if atBlockLine indent p then
    let (text, p) := blockLines fold header.chomping indent p.bound p
    return (breaks ++ text, p)
  else return (if header.chomping == .keep then breaks else [], p)

end Scriptorium.Yaml
