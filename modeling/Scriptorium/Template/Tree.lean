import Scriptorium.Template.Arithmetic

/-!
# The tree of a template

Expressions, the targets that values are assigned to, and the statements that a template is made of.
-/

set_option autoImplicit false
set_option relaxedAutoImplicit false

namespace Scriptorium.Template

mutual

/-- An expression. `body` is the text that the enclosing block has rendered, `noElse` what a choice
without an alternative is worth when its condition fails, and `bounds` what a slice is cut at, which
is an index only. -/
inductive Expr where
  | const (value : Item)
  | name (line : Nat) (name : String)
  | body
  | noElse (line : Nat)
  | list (items : List Expr)
  | tuple (items : List Expr)
  | dict (entries : List (Expr × Expr))
  | not (operand : Expr)
  | negative (operand : Expr)
  | positive (operand : Expr)
  | arith (op : Operator) (left right : Expr)
  | and (left right : Expr)
  | or (left right : Expr)
  | concat (parts : List Expr)
  | compare (first : Expr) (others : List (Comparison × Expr))
  | choose (test yes no : Expr)
  | member (owner : Expr) (name : String)
  | element (owner index : Expr)
  | bounds (start stop step : Expr)
  | call (function : Expr) (arguments : Arguments)
  | filter (line : Nat) (input : Expr) (name : String) (arguments : Arguments)
  | test (line : Nat) (input : Expr) (name : String) (arguments : Arguments)

/-- The arguments of a call: by position and by name, and a sequence and a dictionary of more of
them. -/
inductive Arguments where
  | mk (values : List Expr) (named : List (String × Expr)) (spread spreadNamed : Option Expr)

end

/-- No arguments. -/
def Arguments.empty : Arguments := .mk [] [] none none

/-- How an expression is named in a message. -/
def Expr.kindName : Expr → String
  | const _ => "const"
  | name _ _ | body | noElse _ => "name"
  | list _ => "list"
  | tuple _ => "tuple"
  | dict _ => "dict"
  | not _ => "not"
  | negative _ => "neg"
  | positive _ => "pos"
  | arith .add _ _ => "add"
  | arith .sub _ _ => "sub"
  | arith .mul _ _ => "mul"
  | arith .div _ _ => "div"
  | arith .floorDiv _ _ => "floordiv"
  | arith .mod _ _ => "mod"
  | arith .pow _ _ => "pow"
  | and _ _ => "and"
  | or _ _ => "or"
  | concat _ => "concat"
  | compare _ _ => "compare"
  | choose _ _ _ => "condexpr"
  | member _ _ => "getattr"
  | element _ _ => "getitem"
  | bounds _ _ _ => "slice"
  | call _ _ => "call"
  | filter _ _ _ _ => "filter"
  | test _ _ _ _ => "test"

/-- What a value is assigned to: a name, the items of the value in turn, or a slot of what a name
stands for. -/
inductive Target where
  | name (line : Nat) (name : String)
  | tuple (items : List Target)
  | slot (owner name : String)

mutual

/-- The target that an expression is, if it is one. -/
def Expr.toTarget? : Expr → Option Target
  | .name line n => some (.name line n)
  | .tuple items => (targets? items).map .tuple
  | _ => none

/-- The targets that expressions are, if they all are. -/
def targets? : List Expr → Option (List Target)
  | [] => some []
  | e :: rest => do
    let t ← e.toTarget?
    let ts ← targets? rest
    return t :: ts

end

/-- A part of a template. A branch renders the body of its first case whose test holds. -/
inductive Statement where
  | text (text : List Char)
  | print (value : Expr)
  | branch (cases : List (Expr × List Statement)) (otherwise : List Statement)
  | loop (target : Target) (items : Expr) (condition : Option Expr) (recursive : Bool)
      (body otherwise : List Statement)
  | assign (target : Target) (value : Expr)
  | capture (target : Target) (value : Expr) (body : List Statement)
  | filtered (value : Expr) (body : List Statement)
  | inclusion (template : Expr) (ignoreMissing : Bool)
  | extension (line : Nat) (template : Expr)
  | importation (template : Expr) (name : String)

/-- Whether a statement extends another template. -/
def Statement.isExtension : Statement → Bool
  | .extension _ _ => true
  | _ => false

end Scriptorium.Template
