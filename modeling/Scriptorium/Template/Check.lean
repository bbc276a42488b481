import Scriptorium.Template.Constant
import Scriptorium.Template.Nesting
import Scriptorium.Text.Compatibility

/-!
# What a template has to be before it is rendered

A template that can be read may still be refused: a filter or a test has to exist, unless a
condition decides whether it is reached, and must not be left out here; a loop must not assign to
the name `loop`; a template can extend another only outside loops and captured blocks; and what
fails as a constant fails here. The checks stop at the first thing that is refused. Flaws of form,
such as an argument given twice or too many loops in one another, are noted and count only if
nothing is refused. What is checked is also made ready: constant parts are replaced by their values.
-/

set_option autoImplicit false
set_option relaxedAutoImplicit false

namespace Scriptorium.Template

/-! ### Where a part of a template stands -/

/-- Where a part of a template stands: its frames, whether a condition decides if it is reached,
whether it is outside all loops and blocks, and outside conditions too, whether it is the body of a
loop, whether what it prints depends on an extension, and how deep it is indented and in how many
loops. -/
structure Place where
  frames : List Frame
  soft : Bool
  top : Bool
  root : Bool
  inLoop : Bool
  guarded : Bool
  indent : Nat
  loops : Nat

/-- What is noted on the way: whether the template is sure to be extended by now, and a flaw of its
form. -/
structure Notes where
  extended : Bool
  flaw : Option Fault

/-- A check that notes what it meets. -/
abbrev Checking := StateT Notes Outcome

/-- The greatest number of loops in one another. -/
def loopLimit : Nat := 20

/-- The number of levels of indentation, of which one is never reached. -/
def indentLimit : Nat := 100

/-- Notes a flaw. Indentation that is too deep comes before all others. -/
def noteFlaw (fault : Fault) : Checking Unit :=
  modify fun notes ↦
    if notes.flaw.isNone || fault == .deepIndentation then { notes with flaw := some fault }
    else notes

/-- Notes indentation that is too deep, so many levels below a place. -/
def Place.checkIndent (place : Place) (levels : Nat) : Checking Unit :=
  if indentLimit ≤ place.indent + levels then noteFlaw .deepIndentation else pure ()

/-- The place in a frame of its own. -/
def Place.enter (place : Place) (frame : Frame) : Place :=
  { place with
    frames := frame :: place.frames, soft := false, top := false, root := false, inLoop := false }

/-- Refuses what does not exist, unless a condition decides whether it is reached, and what is left
out. -/
def Place.refuse (place : Place) (isLeftOut : Bool) (line : Nat) (fault : SyntaxFault) :
    Checking Unit :=
  if isLeftOut then throw (.fault .leftOut)
  else if place.soft then pure ()
  else throw (.malformed line fault)

/-! ### Expressions -/

/-- Words that cannot be written as the name of an argument. -/
def reservedWords : List String :=
  ["False", "None", "True", "and", "as", "assert", "async", "await", "break", "class", "continue",
   "def", "del", "elif", "else", "except", "finally", "for", "from", "global", "if", "import", "in",
   "is", "lambda", "nonlocal", "not", "or", "pass", "raise", "return", "try", "while", "with",
   "yield"]

/-- The name that an argument is given by. -/
def argumentName (name : String) : String := String.ofList (Text.compatible name.toList)

/-- Whether a name occurs twice among names. -/
def hasRepeated : List String → Bool
  | [] => false
  | n :: rest => rest.contains n || hasRepeated rest

/-- A number that is written with a minus sign, without it. -/
def withoutMinus? : Item → Option Item
  | .int i => if i < 0 then some (.int (-i)) else none
  | .float f => if !f.isNaN && Decimal.hasMinus f then some (.float (-f)) else none
  | _ => none

/-- A power. A minus sign that a constant base is written with applies to all of it. -/
def powerExpr (base exponent : Expr) : Expr :=
  match base with
  | .const v =>
    match withoutMinus? v with
    | some size => .negative (.arith .pow (.const size) exponent)
    | none => .arith .pow base exponent
  | _ => .arith .pow base exponent

mutual

/-- Whether an expression is accepted where it stands, after its constant parts are replaced. -/
def Expr.check (place : Place) : Expr → Checking Expr
  | .const v => do
    let _ ← liftM v.shown
    return .const v
  | .name line n => do
    if (Frame.levelOf? n place.frames).isNone then throw (.fault .unboundName)
    return .name line n
  | .body => return .body
  | .noElse line => return .noElse line
  | .list items => .list <$> checkAll place items
  | .tuple items => .tuple <$> checkAll place items
  | .dict entries => .dict <$> checkEntries place entries
  | .not e => .not <$> e.check place
  | .negative e => .negative <$> e.check place
  | .positive e => .positive <$> e.check place
  | .arith op left right => do
    let l ← left.check place
    let r ← right.check place
    return if op == .pow then powerExpr l r else .arith op l r
  | .and left right => do
    let l ← left.check place
    return .and l (← right.check place)
  | .or left right => do
    let l ← left.check place
    return .or l (← right.check place)
  | .concat parts => .concat <$> checkAll place parts
  | .compare first others => do
    let f ← first.check place
    return .compare f (← checkRelations place others)
  | .choose test yes no => do
    let soft := { place with soft := true }
    let y ← yes.check soft
    let t ← test.check soft
    return .choose t y (← no.check soft)
  | .member owner name => do return .member (← owner.check place) name
  | .element owner (.bounds start stop step) => do
    let o ← owner.check place
    let first ← start.check place
    let last ← stop.check place
    return .element o (.bounds first last (← step.check place))
  | .element owner index => do
    let o ← owner.check place
    return .element o (← index.check place)
  | .bounds start stop step => do
    noteFlaw .malformedCode
    let first ← start.check place
    let last ← stop.check place
    return .bounds first last (← step.check place)
  | .call function arguments => do
    let f ← function.check place
    return .call f (← arguments.check place (if place.inLoop then ["_loop_vars"] else []))
  | .filter line input name arguments => do
    if (Filter.ofName? name).isNone then
      place.refuse (leftOutFilters.contains name) line (.unknownFilter name)
    let i ← input.check place
    return .filter line i name (← arguments.check place [])
  | .test line input name arguments => do
    if (Test.ofName? name).isNone then
      place.refuse (leftOutTests.contains name) line (.unknownTest name)
    let i ← input.check place
    return .test line i name (← arguments.check place [])

/-- Whether arguments are accepted beside some that are given anyway. Each name can be given once,
unless one of them is a reserved word. -/
def Arguments.check (place : Place) (given : List String) : Arguments → Checking Arguments
  | .mk values named spread spreadNamed => do
    let vs ← checkAll place values
    let plain := !named.any fun n ↦ reservedWords.contains n.1
    let names := named.map fun n ↦ if plain then argumentName n.1 else n.1
    if plain && (hasRepeated (names ++ given) || names.contains "__debug__") then
      noteFlaw .malformedCode
    let ns ← checkNamed place named
    let s ← checkOption place spread
    return .mk vs (names.zip (ns.map (·.2))) s (← checkOption place spreadNamed)

/-- Whether expressions are accepted. -/
def checkAll (place : Place) : List Expr → Checking (List Expr)
  | [] => pure []
  | e :: rest => do
    let first ← e.check place
    return first :: (← checkAll place rest)

/-- Whether the keys and values of a dictionary are accepted. -/
def checkEntries (place : Place) : List (Expr × Expr) → Checking (List (Expr × Expr))
  | [] => pure []
  | (key, value) :: rest => do
    let k ← key.check place
    let v ← value.check place
    return (k, v) :: (← checkEntries place rest)

/-- Whether the operands of relations are accepted. -/
def checkRelations (place : Place) : List (Comparison × Expr) → Checking (List (Comparison × Expr))
  | [] => pure []
  | (relation, e) :: rest => do
    let first ← e.check place
    return (relation, first) :: (← checkRelations place rest)

/-- Whether named arguments are accepted. -/
def checkNamed (place : Place) : List (String × Expr) → Checking (List (String × Expr))
  | [] => pure []
  | (name, e) :: rest => do
    let first ← e.check place
    return (name, first) :: (← checkNamed place rest)

/-- Whether an expression is accepted, if there is one. -/
def checkOption (place : Place) : Option Expr → Checking (Option Expr)
  | none => pure none
  | some e => some <$> e.check place

end

mutual

/-- An expression made ready where it stands. The items of a list that is not itself part of
something else are made ready one after the other. -/
def Expr.prepare (place : Place) : Expr → Checking Expr
  | .list items => .list <$> prepareAll place items
  | .tuple items => .tuple <$> prepareAll place items
  | .dict entries => .dict <$> prepareEntries place entries
  | e => do
    if heightLimit < e.height then throw (.fault .recursion)
    (← liftM e.fold).check place

/-- Expressions made ready one after the other. -/
def prepareAll (place : Place) : List Expr → Checking (List Expr)
  | [] => pure []
  | e :: rest => do
    let first ← e.prepare place
    return first :: (← prepareAll place rest)

/-- Keys and values made ready one after the other. -/
def prepareEntries (place : Place) : List (Expr × Expr) → Checking (List (Expr × Expr))
  | [] => pure []
  | (key, value) :: rest => do
    let k ← key.prepare place
    let v ← value.prepare place
    return (k, v) :: (← prepareEntries place rest)

end

/-- An expression made ready where it stands, inside some brackets more. -/
def Expr.ready (place : Place) (around : Nat) (e : Expr) : Checking Expr := do
  let prepared ← e.prepare place
  if bracketLimit < around + prepared.brackets place.frames then noteFlaw .malformedCode
  return prepared

/-! ### Statements -/

mutual

/-- The line on which a target is the name `loop`. -/
def Target.loopLine? : Target → Option Nat
  | .name line n => if n == "loop" then some line else none
  | .tuple items => loopLineOfTargets? items
  | .slot _ _ => none

/-- The first such line among several targets. -/
def loopLineOfTargets? : List Target → Option Nat
  | [] => none
  | t :: rest => t.loopLine?.or (loopLineOfTargets? rest)

end

mutual

/-- The line on which a statement assigns to the name `loop`. -/
def Statement.loopLine? : Statement → Option Nat
  | .branch cases otherwise => (loopLineOfCases? cases).or (loopLineOfBody? otherwise)
  | .loop target _ _ _ body otherwise =>
    target.loopLine?.or ((loopLineOfBody? body).or (loopLineOfBody? otherwise))
  | .assign target _ => target.loopLine?
  | .capture target _ body => target.loopLine?.or (loopLineOfBody? body)
  | .filtered _ body => loopLineOfBody? body
  | _ => none

/-- The first such line among several statements. -/
def loopLineOfBody? : List Statement → Option Nat
  | [] => none
  | s :: rest => s.loopLine?.or (loopLineOfBody? rest)

/-- The first such line among the cases of a branch. -/
def loopLineOfCases? : List (Expr × List Statement) → Option Nat
  | [] => none
  | (_, body) :: rest => (loopLineOfBody? body).or (loopLineOfCases? rest)

end

mutual

/-- Whether a statement extends another template, or one within it does. -/
def Statement.extends : Statement → Bool
  | .extension _ _ => true
  | .branch cases otherwise => caseExtends cases || bodyExtends otherwise
  | .loop _ _ _ _ body otherwise => bodyExtends body || bodyExtends otherwise
  | .capture _ _ body | .filtered _ body => bodyExtends body
  | _ => false

/-- Whether one of several statements does. -/
def bodyExtends : List Statement → Bool
  | [] => false
  | s :: rest => s.extends || bodyExtends rest

/-- Whether one of the cases of a branch does. -/
def caseExtends : List (Expr × List Statement) → Bool
  | [] => false
  | (_, body) :: rest => bodyExtends body || caseExtends rest

end

/-- A value that is printed: constant text, or an expression made ready. -/
def checkPrinted (place : Place) (value : Expr) : Checking Statement :=
  match value.constantText? with
  | some text => pure (.text text)
  | none => .print <$> value.ready place 1

/-- The place of the condition of a loop. -/
def Place.ofCondition (place : Place) (target : Target) (condition : Expr) : Place :=
  place.enter (.ofCondition place.frames target condition)

/-- The place of the body of a loop. -/
def Place.ofLoop (place : Place) (target : Target) (withLoop : Bool) (body : List Statement) :
    Place :=
  { place.enter (.ofLoop place.frames target withLoop body) with
    inLoop := true
    indent := place.indent + 1
    loops := place.loops + 1 }

/-- The place of what is rendered if a loop has no rounds. -/
def Place.ofOtherwise (place : Place) (otherwise : List Statement) : Place :=
  { place.enter (.ofBody place.frames otherwise) with indent := place.indent + 1 }

/-- The place of a body under a condition. -/
def Place.ofCase (place : Place) : Place :=
  { place with soft := true, root := false, indent := place.indent + 1 }

mutual

/-- Whether a statement is accepted; none is left of one that cannot be reached. A recursive loop is
written down before what it goes through is known, so its items are checked after its bodies. -/
def Statement.check (place : Place) : Statement → Checking (List Statement)
  | .text text => do
    if place.guarded && !(← get).extended then place.checkIndent 1
    return [.text text]
  | .print value => do
    if place.guarded && (← get).extended then return []
    if place.guarded then place.checkIndent 1
    return [← checkPrinted place value]
  | .assign target value => do
    if !target.owners.isEmpty then place.checkIndent 1
    return [.assign target (← value.ready place 0)]
  | .inclusion value ignoreMissing => do
    place.checkIndent (if ignoreMissing then 2 else 1)
    if loopLimit ≤ place.loops then noteFlaw .malformedCode
    return [.inclusion (← value.ready place 0) ignoreMissing]
  | .importation value name => do return [.importation (← value.ready place 0) name]
  | .extension line value => do
    if !place.top then throw (.malformed line .nestedExtends)
    if (← get).extended then return []
    let ready ← value.ready place 0
    modify fun notes ↦ { notes with extended := place.root }
    return [.extension line ready]
  | .branch cases otherwise => do
    place.checkIndent 1
    let ready ← checkCases place cases
    return [.branch ready (← checkBody place.ofCase otherwise)]
  | .loop target items condition recursive body otherwise => do
    let withLoop := Frame.usesLoop recursive body
    let test ← match condition with
      | some e => do
        place.checkIndent 3
        some <$> e.ready (place.ofCondition target e) 0
      | none => pure none
    match (Statement.loop target items condition recursive body otherwise).loopLine? with
    | some line => throw (.malformed line .loopAssigned)
    | none => pure ()
    let inner := if recursive then { place with indent := place.indent + 1, loops := 0 } else place
    let early ← if recursive then pure items else items.ready place 0
    inner.checkIndent 1
    if loopLimit ≤ inner.loops then noteFlaw .malformedCode
    let rounds ← checkBody (inner.ofLoop target withLoop body) body
    let rest ← checkBody (inner.ofOtherwise otherwise) otherwise
    let ready ← if recursive then items.ready place 0 else pure early
    return [.loop target ready test recursive rounds rest]
  | .capture target value body => do
    let inner := { place.enter (.ofBody place.frames body) with guarded := false }
    let ready ← checkBody inner body
    return [.capture target (← value.ready inner 0) ready]
  | .filtered value body => do
    let inner := place.enter (.ofFiltered place.frames value body)
    let ready ← checkBody inner body
    return [.filtered (← value.ready inner 0) ready]

/-- Whether the statements of a body are accepted. Nothing after an extension that comes too late
counts. -/
def checkBody (place : Place) : List Statement → Checking (List Statement)
  | [] => pure []
  | s :: rest => do
    let isExtended := (← get).extended
    let first ← s.check place
    if isExtended && s.isExtension then return first
    return first ++ (← checkBody place rest)

/-- Whether the cases of a branch are accepted. -/
def checkCases (place : Place) :
    List (Expr × List Statement) → Checking (List (Expr × List Statement))
  | [] => pure []
  | (test, body) :: rest => do
    let ready ← test.ready { place with soft := true, root := false } 0
    let inner ← checkBody place.ofCase body
    return (ready, inner) :: (← checkCases place rest)

end

/-- A template made ready for rendering. -/
def checkTemplate (body : List Statement) : Outcome (List Statement) := do
  let place : Place :=
    { frames := [.ofTemplate body], soft := false, top := true, root := true, inLoop := false
      guarded := bodyExtends body, indent := 1, loops := 0 }
  let (ready, notes) ← (checkBody place body).run ⟨false, none⟩
  match notes.flaw with
  | some fault => throw (.fault fault)
  | none => return ready

end Scriptorium.Template
