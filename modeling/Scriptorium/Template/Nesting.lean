import Scriptorium.Template.Frame

/-!
# Nesting of expressions

How deep an expression is nested, measured in two ways. Its height is the number of parts on the
longest way from the whole to a part that has no parts. Its brackets are those that are open at once
when it is written out with brackets around every operation; a name that may have no value is
written with a question about it in brackets of its own. Both measures have a limit.
-/

set_option autoImplicit false
set_option relaxedAutoImplicit false

namespace Scriptorium.Template

/-- The greatest height of an expression. -/
def heightLimit : Nat := 327

/-- The greatest number of brackets that are open at once. -/
def bracketLimit : Nat := 200

/-! ### Height -/

mutual

/-- The height of an expression. -/
def Expr.height : Expr → Nat
  | .const _ | .name _ _ | .body | .noElse _ => 1
  | .list items | .tuple items | .concat items => heightOfAll items + 1
  | .dict entries => heightOfEntries entries + 1
  | .not e | .negative e | .positive e | .member e _ => e.height + 1
  | .arith _ l r | .and l r | .or l r | .element l r => max l.height r.height + 1
  | .compare first others => max first.height (heightOfRelations others) + 1
  | .choose test yes no => max test.height (max yes.height no.height) + 1
  | .bounds start stop step => max start.height (max stop.height step.height) + 1
  | .call f arguments | .filter _ f _ arguments | .test _ f _ arguments =>
    max f.height arguments.height + 1

/-- The height of the highest argument. -/
def Arguments.height : Arguments → Nat
  | .mk values named spread spreadNamed =>
    max (max (heightOfAll values) (heightOfNamed named))
      (max (heightOfOption spread) (heightOfOption spreadNamed))

/-- The height of the highest expression. -/
def heightOfAll : List Expr → Nat
  | [] => 0
  | e :: rest => max e.height (heightOfAll rest)

/-- The height of the highest entry of a dictionary. -/
def heightOfEntries : List (Expr × Expr) → Nat
  | [] => 0
  | (key, value) :: rest => max (max key.height value.height + 1) (heightOfEntries rest)

/-- The height of the highest relation. -/
def heightOfRelations : List (Comparison × Expr) → Nat
  | [] => 0
  | (_, e) :: rest => max (e.height + 1) (heightOfRelations rest)

/-- The height of the highest named argument. -/
def heightOfNamed : List (String × Expr) → Nat
  | [] => 0
  | (_, e) :: rest => max (e.height + 1) (heightOfNamed rest)

/-- The height of an expression, if there is one. -/
def heightOfOption : Option Expr → Nat
  | none => 0
  | some e => e.height

end

/-! ### Brackets -/

mutual

/-- The brackets that are open at once in a value. -/
def Item.brackets : Item → Nat
  | .list _ items | .tuple items => bracketsOfItems items + 1
  | .dict _ entries => bracketsOfItemEntries entries + 1
  | _ => 0

/-- The brackets that are open at once in several values. -/
def bracketsOfItems : List Item → Nat
  | [] => 0
  | item :: rest => max item.brackets (bracketsOfItems rest)

/-- The brackets that are open at once in keys and values. -/
def bracketsOfItemEntries : List (Item × Item) → Nat
  | [] => 0
  | (key, value) :: rest => max (max key.brackets value.brackets) (bracketsOfItemEntries rest)

end

/-- Whether a name is a parameter of the innermost frame that has it, and so has a value. -/
def Frame.isParameter (name : String) : List Frame → Bool
  | [] => false
  | f :: outer =>
    match f.sources.lookup name with
    | some source => source == .parameter
    | none => isParameter name outer

mutual

/-- The brackets that are open at once in an expression in some frames. -/
def Expr.brackets (frames : List Frame) : Expr → Nat
  | .const v => v.brackets
  | .name _ n => if Frame.isParameter n frames then 0 else 2
  | .body | .noElse _ => 1
  | .list items | .tuple items => bracketsOfAll frames items + 1
  | .dict entries => bracketsOfEntries frames entries + 1
  | .concat parts => bracketsOfAll frames parts + 2
  | .not e | .negative e | .positive e | .member e _ => e.brackets frames + 1
  | .arith _ l r | .and l r | .or l r => max (l.brackets frames) (r.brackets frames) + 1
  | .compare first others => max (first.brackets frames) (bracketsOfRelations frames others) + 1
  | .choose test yes no =>
    max (test.brackets frames) (max (yes.brackets frames) (no.brackets frames)) + 1
  | .element owner (.bounds start stop step) =>
    max (owner.brackets frames)
      (max (start.brackets frames) (max (stop.brackets frames) (step.brackets frames)) + 1)
  | .element owner index => max (owner.brackets frames) (index.brackets frames) + 1
  | .bounds start stop step =>
    max (start.brackets frames) (max (stop.brackets frames) (step.brackets frames))
  | .call f arguments | .filter _ f _ arguments | .test _ f _ arguments =>
    max (f.brackets frames) (arguments.brackets frames) + 1

/-- The brackets that are open at once in arguments. -/
def Arguments.brackets (frames : List Frame) : Arguments → Nat
  | .mk values named spread spreadNamed =>
    max (max (bracketsOfAll frames values) (bracketsOfNamed frames named))
      (max (bracketsOfOption frames spread) (bracketsOfOption frames spreadNamed))

/-- The brackets that are open at once in several expressions. -/
def bracketsOfAll (frames : List Frame) : List Expr → Nat
  | [] => 0
  | e :: rest => max (e.brackets frames) (bracketsOfAll frames rest)

/-- The brackets that are open at once in the entries of a dictionary. -/
def bracketsOfEntries (frames : List Frame) : List (Expr × Expr) → Nat
  | [] => 0
  | (key, value) :: rest =>
    max (max (key.brackets frames) (value.brackets frames)) (bracketsOfEntries frames rest)

/-- The brackets that are open at once in relations. -/
def bracketsOfRelations (frames : List Frame) : List (Comparison × Expr) → Nat
  | [] => 0
  | (_, e) :: rest => max (e.brackets frames) (bracketsOfRelations frames rest)

/-- The brackets that are open at once in named arguments. -/
def bracketsOfNamed (frames : List Frame) : List (String × Expr) → Nat
  | [] => 0
  | (_, e) :: rest => max (e.brackets frames) (bracketsOfNamed frames rest)

/-- The brackets that are open at once in an expression, if there is one. -/
def bracketsOfOption (frames : List Frame) : Option Expr → Nat
  | none => 0
  | some e => e.brackets frames

end

end Scriptorium.Template
