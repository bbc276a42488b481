import Scriptorium.Template.Check
import Scriptorium.Template.Grammar
import Scriptorium.Template.Method

/-!
# Rendering

What a template says with given arguments. When a frame is entered its names get their values in the
order in which they are first used, and what is assigned in it is gone when it is left. A loop looks
no further ahead than it has to: a condition that fails on a later item fails only when the loop
comes to it, or is asked what is ahead. `renderTemplate` reads, checks and renders.
-/

set_option autoImplicit false
set_option relaxedAutoImplicit false

namespace Scriptorium.Template

/-! ### Names -/

/-- What rendering is given: the arguments, and the frames, the innermost first. -/
structure Scope where
  arguments : List (String × String)
  frames : List Frame

/-- The value of an argument, if it is given. -/
def Scope.argument? (scope : Scope) (name : String) : Option Item :=
  (scope.arguments.lookup name).map fun value ↦ .text value.toList

/-- The cell of a name. -/
def Scope.cell (scope : Scope) (name : String) : Cell :=
  Cell.ofName ((Frame.levelOf? name scope.frames).getD 0) name

/-- The value of a name; absent if it has none. -/
def Scope.value (scope : Scope) (name : String) : Evaluation Item := do
  return ((← get).load? (scope.cell name)).getD (.absent true (.argument name))

/-- The memory after the names of a frame at a level get their values. -/
def Scope.fill (scope : Scope) (level : Nat) (memory : Memory) : List (String × Source) → Memory
  | [] => memory
  | (name, source) :: rest =>
    let cell := Cell.ofName level name
    match source with
    | .parameter => scope.fill level memory rest
    | .argument => scope.fill level (memory.store cell (scope.argument? name)) rest
    | .outer other =>
      scope.fill level (memory.store cell (memory.load? (Cell.ofName other name))) rest
    | .unset => (scope.fill level memory rest).store cell none

/-- Enters a frame: the scope in it, with the values of its names. -/
def Scope.enter (scope : Scope) (frame : Frame) : Evaluation Scope := do
  modify fun memory ↦ scope.fill scope.frames.length memory frame.sources
  return { scope with frames := frame :: scope.frames }

/-! ### Expressions -/

/-- Puts named values behind others; none may be there already. -/
def addNamed (named : List (String × Item)) : List (Item × Item) → Outcome (List (String × Item))
  | [] => .ok named
  | (.text name, value) :: rest =>
    if named.any (·.1 == String.ofList name) then typeMismatch
    else addNamed (named ++ [(String.ofList name, value)]) rest
  | _ => typeMismatch

/-- The value of a literal, which has to be finite throughout. -/
def literalValue (value : Item) : Evaluation Item :=
  if value.isFinite then adopt value else throw (.fault .unknownName)

mutual

/-- The value of an expression in a scope, inside a block that has rendered `body`. -/
def Expr.eval (scope : Scope) (body : List Char) : Expr → Evaluation Item
  | .const v => literalValue v
  | .name _ n => scope.value n
  | .body => return .text body
  | .noElse line => return .absent false (.noElse line)
  | .list items => do adopt (.list 0 (← evalAll scope body items))
  | .tuple items => do return .tuple (← evalAll scope body items)
  | .dict entries => do
    let pairs ← evalPairs scope body entries
    adopt (.dict 0 (← liftM (DictMethod.updated [] pairs)))
  | .not e => do return .bool !(← e.eval scope body).isTrue
  | .negative e => do liftM ((← e.eval scope body).signed true)
  | .positive e => do liftM ((← e.eval scope body).signed false)
  | .arith op left right => do
    let l ← left.eval scope body
    let r ← right.eval scope body
    adopt (← liftM (l.arith op r))
  | .and left right => do
    let l ← left.eval scope body
    if l.isTrue then right.eval scope body else return l
  | .or left right => do
    let l ← left.eval scope body
    if l.isTrue then return l else right.eval scope body
  | .concat parts => do
    let items ← evalAll scope body parts
    return .text (← liftM (items.mapM Item.textOf)).flatten
  | .compare first others => do
    let left ← first.eval scope body
    return .bool (← evalRelations scope body left others)
  | .choose test yes no => do
    if (← test.eval scope body).isTrue then yes.eval scope body else no.eval scope body
  | .member owner name => do liftM ((← owner.eval scope body).member name)
  | .element owner (.bounds start stop step) => do
    let o ← owner.eval scope body
    let first ← start.eval scope body
    let last ← stop.eval scope body
    let by' ← step.eval scope body
    adopt (← liftM (o.slice 0 first last by'))
  | .element owner index => do
    let o ← owner.eval scope body
    let i ← index.eval scope body
    liftM (o.element i)
  | .bounds _ _ _ => liftM (typeMismatch : Outcome Item)
  | .call function arguments => do
    let f ← function.eval scope body
    let (values, named) ← arguments.eval scope body
    adopt (← callItem f values named)
  | .filter _ input name arguments => do
    let i ← input.eval scope body
    let (values, named) ← arguments.eval scope body
    liftM (applyFilter name i values named)
  | .test _ input name arguments => do
    let i ← input.eval scope body
    let (values, named) ← arguments.eval scope body
    liftM (applyTest name i values named)

/-- The values of arguments: those by position, then those by name. -/
def Arguments.eval (scope : Scope) (body : List Char) :
    Arguments → Evaluation (List Item × List (String × Item))
  | .mk values named spread spreadNamed => do
    let vs ← evalAll scope body values
    let more ← match ← evalOption scope body spread with
      | some item => liftM item.items
      | none => pure []
    let ns ← evalNamed scope body named
    let all ← match ← evalOption scope body spreadNamed with
      | some (.dict _ entries) => liftM (addNamed ns entries)
      | some (.absent _ cause) => throw (.absent cause)
      | some _ => liftM (typeMismatch : Outcome (List (String × Item)))
      | none => pure ns
    return (vs ++ more, all)

/-- The values of several expressions, in order. -/
def evalAll (scope : Scope) (body : List Char) : List Expr → Evaluation (List Item)
  | [] => return []
  | e :: rest => do
    let v ← e.eval scope body
    let vs ← evalAll scope body rest
    return v :: vs

/-- The keys and values of a dictionary, before it is known whether they can be keys. -/
def evalPairs (scope : Scope) (body : List Char) :
    List (Expr × Expr) → Evaluation (List (Item × Item))
  | [] => return []
  | (key, value) :: rest => do
    let k ← key.eval scope body
    let v ← value.eval scope body
    return (k, v) :: (← evalPairs scope body rest)

/-- Whether a chain of relations holds after a value; it stops at the first that does not. -/
def evalRelations (scope : Scope) (body : List Char) (left : Item) :
    List (Comparison × Expr) → Evaluation Bool
  | [] => return true
  | (relation, e) :: rest => do
    let right ← e.eval scope body
    if ← liftM (Item.related relation left right) then evalRelations scope body right rest
    else return false

/-- The values of named arguments. Of two with one name the later counts. -/
def evalNamed (scope : Scope) (body : List Char) :
    List (String × Expr) → Evaluation (List (String × Item))
  | [] => return []
  | (name, e) :: rest => do
    let v ← e.eval scope body
    let vs ← evalNamed scope body rest
    return if vs.any (·.1 == name) then vs else (name, v) :: vs

/-- The value of an expression, if there is one. -/
def evalOption (scope : Scope) (body : List Char) : Option Expr → Evaluation (Option Item)
  | none => return none
  | some e => some <$> e.eval scope body

end

/-! ### Targets -/

/-- Sets a slot of the value of a name, which has to be a dictionary. -/
def Scope.setSlot (scope : Scope) (owner name : String) (value : Item) : Evaluation Unit := do
  match (← get).load? (scope.cell owner) with
  | some (.dict n entries) =>
    let contents ← liftM (Item.put (.text name.toList) value entries)
    modify fun memory ↦ { memory with dicts := assocSet n contents memory.dicts }
  | _ => liftM (typeMismatch : Outcome Unit)

mutual

/-- Assigns a value to a target. -/
def Target.assign (scope : Scope) (value : Item) : Target → Evaluation Unit
  | .name _ n => modify fun memory ↦ memory.store (scope.cell n) (some value)
  | .tuple targets => do
    let items ← liftM value.items
    if items.length == targets.length then assignAll scope items targets
    else liftM (badValue : Outcome Unit)
  | .slot owner name => scope.setSlot owner name value

/-- Assigns values to targets in turn. -/
def assignAll (scope : Scope) (values : List Item) : List Target → Evaluation Unit
  | [] => return ()
  | t :: targets =>
    match values with
    | [] => return ()
    | v :: vs => do
      t.assign scope v
      assignAll scope vs targets

end

/-! ### Statements -/

/-- What a body has rendered: text, unless some part of it is none. -/
abbrev Rendering := Option (List Char)

/-- What two bodies render one after the other. -/
def Rendering.append (first second : Rendering) : Rendering := do
  return (← first) ++ (← second)

/-- The text that a body has rendered. -/
def Rendering.text (r : Rendering) : Outcome (List Char) :=
  match r with
  | some text => .ok text
  | none => typeMismatch

/-- Whether a loop keeps an item. -/
def Scope.keeps (scope : Scope) (target : Target) (condition : Option Expr) (item : Item) :
    Evaluation Bool :=
  match condition with
  | none => return true
  | some e => do
    let memory ← get
    let inner ← scope.enter (.ofCondition scope.frames target e)
    target.assign inner item
    let kept := (← e.eval inner []).isTrue
    modify fun after ↦ { after with cells := memory.cells }
    return kept

/-- The items that are kept of those ahead, up to one on which the condition fails, and that
failure. -/
def itemsAhead (keeps : Item → Evaluation Bool) (memory : Memory) :
    List Item → List Item × Option Failure
  | [] => ([], none)
  | item :: rest =>
    match (keeps item).run memory with
    | .error failure => ([], some failure)
    | .ok (kept, after) =>
      let (others, trouble) := itemsAhead keeps after rest
      (if kept then item :: others else others, trouble)

/-- What the rounds of a loop render after those it has passed, and whether there was one. A loop
whose body asks about it looks ahead. -/
def loopRounds (looks : Bool) (keeps : Item → Evaluation Bool)
    (round : List Item → Item → List Item × Option Failure → Evaluation Rendering) :
    List Item → List Item → Evaluation (Bool × Rendering)
  | [], passed => return (!passed.isEmpty, some [])
  | item :: rest, passed => do
    if ← keeps item then
      let memory ← get
      let ahead := if looks then itemsAhead keeps memory rest else ([], none)
      let text ← round passed item ahead
      let (_, others) ← loopRounds looks keeps round rest (item :: passed)
      return (true, text.append others)
    else loopRounds looks keeps round rest passed

/-- The outcome of looking for another template by its name, which fails even if the name is absent,
or by a choice of names, of which there has to be one. -/
def includeOutcome (name : Item) (ignoreMissing : Bool) : Outcome Unit :=
  match name with
  | .absent _ _ | .text _ => typeMismatch
  | .template => .error (.fault .unknownKey)
  | item =>
    if item.isTrue then typeMismatch
    else if ignoreMissing then .ok () else .error (.fault .noTemplates)

mutual

/-- What a statement renders. -/
def Statement.render (scope : Scope) : Statement → Evaluation Rendering
  | .text text => return some text
  | .print value => do return some (← liftM (← value.eval scope []).textOf)
  | .branch cases otherwise => do
    match ← renderCases scope cases with
    | some rendering => return rendering
    | none => renderBody scope otherwise
  | .loop target items condition recursive body otherwise => do
    let withLoop := Frame.usesLoop recursive body
    let candidates ← liftM (← items.eval scope []).items
    let number := (← get).next
    modify fun memory ↦ { memory with next := number + 1 }
    let frame := Frame.ofLoop scope.frames target withLoop body
    let inner := { scope with frames := frame :: scope.frames }
    let (ran, text) ← loopRounds withLoop (scope.keeps target condition)
      (fun passed item (ahead, trouble) ↦ do
        target.assign inner item
        if withLoop then
          modify fun memory ↦
            memory.store (inner.cell "loop") (some (.loop number passed item ahead trouble))
        let within ← scope.enter frame
        renderBody within body)
      candidates []
    if ran then return text
    else
      let within ← scope.enter (.ofBody scope.frames otherwise)
      renderBody within otherwise
  | .assign target value => do
    if !target.owners.isEmpty then throw (.fault .notRenderable)
    target.assign scope (← value.eval scope [])
    return some []
  | .capture target value body => do
    let inner ← scope.enter (.ofBody scope.frames body)
    let text ← liftM (← renderBody inner body).text
    target.assign scope (← value.eval inner text)
    return some []
  | .filtered value body => do
    let inner ← scope.enter (.ofFiltered scope.frames value body)
    let text ← liftM (← renderBody inner body).text
    match ← value.eval inner text with
    | .text filtered => return some filtered
    | _ => return none
  | .inclusion template ignoreMissing => do
    liftM (includeOutcome (← template.eval scope []) ignoreMissing)
    return some []
  | .extension _ template | .importation template _ => do
    let _ ← template.eval scope []
    liftM (typeMismatch : Outcome Rendering)

/-- What the statements of a body render. -/
def renderBody (scope : Scope) : List Statement → Evaluation Rendering
  | [] => return some []
  | s :: rest => do
    let first ← s.render scope
    let others ← renderBody scope rest
    return first.append others

/-- What the first case whose test holds renders; none if there is no such case. -/
def renderCases (scope : Scope) : List (Expr × List Statement) → Evaluation (Option Rendering)
  | [] => return none
  | (test, body) :: rest => do
    if (← test.eval scope []).isTrue then some <$> renderBody scope body else renderCases scope rest

end

/-- What a template renders with arguments. Its own name is a cell from the start. -/
def renderChecked (arguments : List (String × String)) (body : List Statement) :
    Evaluation Rendering := do
  modify fun memory ↦ memory.store (Cell.ofName 0 "self") (some .template)
  let scope ← Scope.enter ⟨arguments, []⟩ (.ofTemplate body)
  renderBody scope body

/-- The text of a template with arguments. -/
def renderTemplate (template : List Char) (arguments : List (String × String)) :
    Outcome (List Char) := do
  let body ← readTemplate (Text.unifyNewlines template)
  let ready ← checkTemplate body
  let (rendering, _) ← (renderChecked arguments ready).run .empty
  rendering.text

end Scriptorium.Template
