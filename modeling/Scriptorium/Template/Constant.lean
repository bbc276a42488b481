import Scriptorium.Template.Filter
import Scriptorium.Template.Member
import Scriptorium.Template.Operation
import Scriptorium.Template.Tree

/-!
# Constant expressions

What an expression is worth whatever the names in it stand for. `Expr.constant` is that value, if
there is one: an operation on constants that fails has none, but to join an absent value to a text,
or to use what cannot be a key as one, is a failure in itself. `Expr.fold` replaces each part of an
expression that is constant by its value, the inner parts first, so that what fails there fails even
where nothing would be rendered.
-/

set_option autoImplicit false
set_option relaxedAutoImplicit false

namespace Scriptorium.Template

/-- A value that may not be constant. -/
abbrev Folding := OptionT Outcome

/-- What is not constant. -/
def notConstant {α : Type} : Folding α := OptionT.mk (.ok none)

/-- A value whose failure means that it is not constant. -/
def attempt {α : Type} (f : Folding α) : Folding α :=
  OptionT.mk
    (match f.run with
    | .ok found => .ok found
    | .error _ => .ok none)

/-- What is absent where a value cannot be cut at some bounds. -/
def withoutSlice (owner start stop step : Item) : Item :=
  .absent true (.element owner.objectName
    (match (Item.tuple [start, stop, step]).shown with
      | .ok bounds => "slice" ++ String.ofList bounds
      | .error _ => "slice"))

/-- The part of a constant between two bounds. Where it cannot be cut its part is absent, as any
element is that a value does not have. -/
def constantSlice (owner start stop step : Item) : Outcome Item :=
  match owner.slice 0 start stop step with
  | .error (.fault .typeMismatch) => .ok (withoutSlice owner start stop step)
  | found => found

mutual

/-- The value of a constant expression. -/
def Expr.constant : Expr → Folding Item
  | .const v => pure v
  | .name _ _ | .body | .noElse _ | .call _ _ | .bounds _ _ _ => notConstant
  | .list items => .list 0 <$> constants items
  | .tuple items => .tuple <$> constants items
  | .dict entries => .dict 0 <$> constantEntries entries []
  | .not e => attempt do return .bool !(← e.constant).isTrue
  | .negative e => attempt do liftM ((← e.constant).signed true)
  | .positive e => attempt do liftM ((← e.constant).signed false)
  | .arith op left right => attempt do
    let l ← left.constant
    let r ← right.constant
    liftM (l.arith op r)
  | .and left right => do
    let l ← left.constant
    if l.isTrue then right.constant else return l
  | .or left right => do
    let l ← left.constant
    if l.isTrue then return l else right.constant
  | .concat parts => .text <$> constantTexts parts
  | .compare first others => do
    let left ← first.constant
    .bool <$> attempt (constantRelations left others)
  | .choose test yes no => do
    if (← test.constant).isTrue then yes.constant else no.constant
  | .member owner name => attempt do liftM ((← owner.constant).member name)
  | .element owner (.bounds start stop step) => attempt do
    let o ← owner.constant
    let first ← start.constant
    let last ← stop.constant
    let by' ← step.constant
    liftM (constantSlice o first last by')
  | .element owner index => attempt do
    let o ← owner.constant
    let i ← index.constant
    liftM (o.element i)
  | .filter _ input name arguments =>
    if (Filter.ofName? name).isNone then notConstant
    else do
      let (values, named) ← arguments.constant
      let i ← input.constant
      attempt (liftM (applyFilter name i values named))
  | .test _ input name arguments =>
    if (Test.ofName? name).isNone then notConstant
    else do
      let (values, named) ← arguments.constant
      let i ← input.constant
      attempt (liftM (applyTest name i values named))

/-- The values of constant arguments. Of two with one name the later counts. -/
def Arguments.constant : Arguments → Folding (List Item × List (String × Item))
  | .mk values named spread spreadNamed => do
    let vs ← constants values
    let ns ← constantNamed named []
    let more ← attempt do
      match ← constantOption spread with
      | some item => liftM item.items
      | none => pure []
    let moreNamed ← attempt do
      match ← constantOption spreadNamed with
      | some (.dict _ entries) =>
        entries.mapM fun (key, value) ↦
          match key with
          | .text name => pure (String.ofList name, value)
          | _ => notConstant
      | some _ => notConstant
      | none => pure []
    return (vs ++ more, moreNamed.foldl (fun done (n, v) ↦ namedSet n v done) ns)

/-- The values of constant expressions. -/
def constants : List Expr → Folding (List Item)
  | [] => pure []
  | e :: rest => do
    let v ← e.constant
    return v :: (← constants rest)

/-- The entries of a constant dictionary after those already there. -/
def constantEntries : List (Expr × Expr) → List (Item × Item) → Folding (List (Item × Item))
  | [], done => pure done
  | (key, value) :: rest, done => do
    let k ← key.constant
    let v ← value.constant
    liftM k.asKey
    let entries ← liftM (Item.put k v done)
    constantEntries rest entries

/-- The texts of constant expressions one after the other. -/
def constantTexts : List Expr → Folding (List Char)
  | [] => pure []
  | e :: rest => do
    let text ← liftM (← e.constant).textOf
    return text ++ (← constantTexts rest)

/-- Whether constant relations hold after a value; those behind one that does not hold need not be
constant. -/
def constantRelations (left : Item) : List (Comparison × Expr) → Folding Bool
  | [] => pure true
  | (relation, e) :: rest => do
    let right ← e.constant
    if ← liftM (Item.related relation left right) then constantRelations right rest
    else return false

/-- The values of constant named arguments after those already there. -/
def constantNamed : List (String × Expr) → List (String × Item) → Folding (List (String × Item))
  | [], done => pure done
  | (name, e) :: rest, done => do
    let v ← e.constant
    constantNamed rest (namedSet name v done)

/-- The value of a constant expression, if there is an expression. -/
def constantOption : Option Expr → Folding (Option Item)
  | none => pure none
  | some e => some <$> e.constant

end

mutual

/-- Whether a value can be written down as an expression. -/
def Item.isPlain : Item → Bool
  | .none | .bool _ | .int _ | .float _ | .text _ => true
  | .list _ items | .tuple items => allPlain items
  | .dict _ entries => allEntriesPlain entries
  | _ => false

/-- Whether all values can be written down. -/
def allPlain : List Item → Bool
  | [] => true
  | item :: rest => item.isPlain && allPlain rest

/-- Whether all keys and values can be written down. -/
def allEntriesPlain : List (Item × Item) → Bool
  | [] => true
  | (key, value) :: rest => key.isPlain && value.isPlain && allEntriesPlain rest

end

mutual

/-- Whether all floating-point numbers in a value are finite. -/
def Item.isFinite : Item → Bool
  | .float f => !f.isNaN && !f.isInf
  | .list _ items | .tuple items => allFinite items
  | .dict _ entries => allEntriesFinite entries
  | _ => true

/-- Whether all floating-point numbers in values are finite. -/
def allFinite : List Item → Bool
  | [] => true
  | item :: rest => item.isFinite && allFinite rest

/-- Whether all floating-point numbers in keys and values are finite. -/
def allEntriesFinite : List (Item × Item) → Bool
  | [] => true
  | (key, value) :: rest => key.isFinite && value.isFinite && allEntriesFinite rest

end

/-- The failure of a constant, which is one of the operation and not of the arguments. -/
def constantFailure : Failure → Failure
  | .absent _ => .fault .absentValue
  | failure => failure

/-- An expression, or its value if it is constant. -/
def Expr.settled (e : Expr) : Outcome Expr :=
  match e.constant.run with
  | .ok (some v) => .ok (if v.isPlain then .const v else e)
  | .ok none => .ok e
  | .error failure => .error (constantFailure failure)

mutual

/-- An expression with its constant parts replaced by their values, inner parts first. -/
def Expr.fold : Expr → Outcome Expr
  | .list items => do (Expr.list (← foldAll items)).settled
  | .tuple items => do (Expr.tuple (← foldAll items)).settled
  | .dict entries => do (Expr.dict (← foldEntries entries)).settled
  | .not e => do (Expr.not (← e.fold)).settled
  | .negative e => do (Expr.negative (← e.fold)).settled
  | .positive e => do (Expr.positive (← e.fold)).settled
  | .arith op left right => do
    let l ← left.fold
    (Expr.arith op l (← right.fold)).settled
  | .and left right => do
    let l ← left.fold
    (Expr.and l (← right.fold)).settled
  | .or left right => do
    let l ← left.fold
    (Expr.or l (← right.fold)).settled
  | .concat parts => do (Expr.concat (← foldAll parts)).settled
  | .compare first others => do
    let f ← first.fold
    (Expr.compare f (← foldRelations others)).settled
  | .choose test yes no => do
    let t ← test.fold
    let y ← yes.fold
    (Expr.choose t y (← no.fold)).settled
  | .member owner name => do (Expr.member (← owner.fold) name).settled
  | .element owner index => do
    let o ← owner.fold
    (Expr.element o (← index.fold)).settled
  | .bounds start stop step => do
    let first ← start.fold
    let last ← stop.fold
    return .bounds first last (← step.fold)
  | .call function arguments => do
    let f ← function.fold
    return .call f (← arguments.fold)
  | .filter line input name arguments => do
    let i ← input.fold
    (Expr.filter line i name (← arguments.fold)).settled
  | .test line input name arguments => do
    let i ← input.fold
    (Expr.test line i name (← arguments.fold)).settled
  | e => .ok e

/-- Arguments with their constant parts replaced. -/
def Arguments.fold : Arguments → Outcome Arguments
  | .mk values named spread spreadNamed => do
    let vs ← foldAll values
    let ns ← foldNamed named
    let s ← foldOption spread
    return .mk vs ns s (← foldOption spreadNamed)

/-- Expressions with their constant parts replaced. -/
def foldAll : List Expr → Outcome (List Expr)
  | [] => .ok []
  | e :: rest => do
    let first ← e.fold
    return first :: (← foldAll rest)

/-- The keys and values of a dictionary with their constant parts replaced. -/
def foldEntries : List (Expr × Expr) → Outcome (List (Expr × Expr))
  | [] => .ok []
  | (key, value) :: rest => do
    let k ← key.fold
    let v ← value.fold
    return (k, v) :: (← foldEntries rest)

/-- The operands of relations with their constant parts replaced. -/
def foldRelations : List (Comparison × Expr) → Outcome (List (Comparison × Expr))
  | [] => .ok []
  | (relation, e) :: rest => do
    let first ← e.fold
    return (relation, first) :: (← foldRelations rest)

/-- Named arguments with their constant parts replaced. -/
def foldNamed : List (String × Expr) → Outcome (List (String × Expr))
  | [] => .ok []
  | (name, e) :: rest => do
    let first ← e.fold
    return (name, first) :: (← foldNamed rest)

/-- An expression with its constant parts replaced, if there is one. -/
def foldOption : Option Expr → Outcome (Option Expr)
  | none => .ok none
  | some e => some <$> e.fold

end

/-- The text of an expression that is constant and has one. -/
def Expr.constantText? (e : Expr) : Option (List Char) :=
  match e.constant.run with
  | .ok (some v) => v.textOf.toOption
  | _ => none

end Scriptorium.Template
