import Scriptorium.Yaml.Cursor

/-!
# Plain scalars

Scalars without quotes. They end before a comment, before a colon with a gap after it, and inside
brackets before any mark of a collection. They go on over the ends of lines as long as the lines are
indented.
-/

set_option autoImplicit false
set_option relaxedAutoImplicit false

namespace Scriptorium.Yaml

/-- Whether a character stands for part of a collection inside brackets. -/
def isFlowMark (c : Char) : Bool :=
  c == ',' || c == '[' || c == ']' || c == '\x7b' || c == '\x7d'

/-- Whether a text begins with a mark of a collection. -/
def atFlowMark : List Char → Bool
  | [] => false
  | c :: _ => isFlowMark c

/-- The characters of a plain scalar up to a gap or its end. -/
def plainRun (inFlow : Bool) : List Char → List Char
  | [] => []
  | c :: rest =>
    if isGap c || isBreak c then []
    else if c == ':' && (atGap rest || (inFlow && atFlowMark rest)) then []
    else if inFlow && (isFlowMark c || c == '?') then []
    else c :: plainRun inFlow rest

/-- The ends of lines and the spaces after the end of a line; nothing if a mark between documents
comes. -/
def plainBreaks : Nat → Cursor → Option (List Char) × Cursor
  | 0, p => (some [], p)
  | bound + 1, p =>
    if atMark p.rest then (none, p)
    else
      let p := p.skip (· == ' ')
      match p.lineBreak? with
      | some (b, p) =>
        let (others, p) := plainBreaks bound p
        (others.map (b :: ·), p)
      | none => (some [], p)

/-- What the gap after a piece of a plain scalar stands for if the scalar goes on. -/
structure PlainGap where
  text : List Char
  place : Cursor
  crossesLine : Bool

/-- The gap that comes next. Without a text the scalar does not go on. -/
def plainGap (p : Cursor) : PlainGap :=
  let (spaces, p) := p.span (· == ' ')
  match p.lineBreak? with
  | none => ⟨spaces, p, false⟩
  | some (b, p) =>
    let (others, p) := plainBreaks p.bound p
    ⟨(others.map (folded b)).getD [], p, true⟩

/-- A plain scalar, and whether a line has ended where it ends. -/
structure PlainScalar where
  text : List Char
  place : Cursor
  endsLine : Bool

/-- The plain scalar that comes next, on lines indented by at least a column. -/
def plainScalar (inFlow : Bool) (indent : Int) : Nat → Cursor → PlainScalar
  | 0, p => ⟨[], p, false⟩
  | bound + 1, p =>
    let run := plainRun inFlow p.rest
    let gap := plainGap (p.advance run.length)
    let stops := gap.text.isEmpty || gap.place.rest.head? == some '#'
      || (!inFlow && gap.place.column < indent) || (plainRun inFlow gap.place.rest).isEmpty
    if stops then ⟨run, gap.place, gap.crossesLine⟩
    else
      let others := plainScalar inFlow indent bound gap.place
      ⟨run ++ gap.text ++ others.text, others.place, others.endsLine⟩

end Scriptorium.Yaml
