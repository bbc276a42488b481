import Scriptorium.Template.Tree

/-!
# Frames

A template, the body of a loop, its alternative, its condition, and a block whose text is captured
each have a frame of names. A frame knows all names that are used in it before anything in it is
rendered: a name that is read first is looked up outside, a name that is only assigned begins
without a value unless an outer frame has it, and branches count as if each of them could be taken.
Frames are listed with the innermost first.
-/

set_option autoImplicit false
set_option relaxedAutoImplicit false

namespace Scriptorium.Template

/-! ### Names that are used -/

/-- A use of a name. -/
inductive NameUse where
  | read (name : String)
  | write (name : String)
  deriving DecidableEq, Repr

mutual

/-- The names that an expression reads, in order. -/
def Expr.names : Expr → List String
  | .name _ n => [n]
  | .const _ | .body | .noElse _ => []
  | .list items | .tuple items | .concat items => namesOfAll items
  | .dict entries => namesOfEntries entries
  | .not e | .negative e | .positive e | .member e _ => e.names
  | .arith _ l r | .and l r | .or l r | .element l r => l.names ++ r.names
  | .compare first others => first.names ++ namesOfRelations others
  | .choose test yes no => test.names ++ yes.names ++ no.names
  | .bounds start stop step => start.names ++ stop.names ++ step.names
  | .call f arguments | .filter _ f _ arguments | .test _ f _ arguments =>
    f.names ++ arguments.names

/-- The names that arguments read. -/
def Arguments.names : Arguments → List String
  | .mk values named spread spreadNamed =>
    namesOfAll values ++ namesOfNamed named ++ namesOfOption spread ++ namesOfOption spreadNamed

/-- The names that several expressions read. -/
def namesOfAll : List Expr → List String
  | [] => []
  | e :: rest => e.names ++ namesOfAll rest

/-- The names that the keys and values of a dictionary read. -/
def namesOfEntries : List (Expr × Expr) → List String
  | [] => []
  | (key, value) :: rest => key.names ++ value.names ++ namesOfEntries rest

/-- The names that the operands of relations read. -/
def namesOfRelations : List (Comparison × Expr) → List String
  | [] => []
  | (_, e) :: rest => e.names ++ namesOfRelations rest

/-- The names that named arguments read. -/
def namesOfNamed : List (String × Expr) → List String
  | [] => []
  | (_, e) :: rest => e.names ++ namesOfNamed rest

/-- The names that an expression reads, if there is one. -/
def namesOfOption : Option Expr → List String
  | none => []
  | some e => e.names

end

mutual

/-- The names that a target assigns. -/
def Target.names : Target → List String
  | .name _ n => [n]
  | .tuple items => namesOfTargets items
  | .slot _ _ => []

/-- The names that several targets assign. -/
def namesOfTargets : List Target → List String
  | [] => []
  | t :: rest => t.names ++ namesOfTargets rest

end

mutual

/-- The names that have slots in a target. -/
def Target.owners : Target → List String
  | .name _ _ => []
  | .tuple items => ownersOfTargets items
  | .slot owner _ => [owner]

/-- The names that have slots in several targets. -/
def ownersOfTargets : List Target → List String
  | [] => []
  | t :: rest => t.owners ++ ownersOfTargets rest

end

/-- The reading of names. -/
def readsOf (names : List String) : List NameUse := names.map .read

/-- The assignments of a target. -/
def writesOf (target : Target) : List NameUse := target.names.map .write

mutual

/-- The uses of names in a statement and all within it, targets before values. -/
def Statement.uses : Statement → List NameUse
  | .text _ => []
  | .print value | .inclusion value _ | .extension _ value | .importation value _ =>
    readsOf value.names
  | .branch cases otherwise => usesOfCases cases ++ usesOfBody otherwise
  | .loop target items condition _ body otherwise =>
    writesOf target ++ readsOf items.names ++ usesOfBody body ++ usesOfBody otherwise
      ++ readsOf (namesOfOption condition)
  | .assign target value => writesOf target ++ readsOf value.names
  | .capture target value body => writesOf target ++ readsOf value.names ++ usesOfBody body
  | .filtered value body => usesOfBody body ++ readsOf value.names

/-- The uses of names in several statements. -/
def usesOfBody : List Statement → List NameUse
  | [] => []
  | s :: rest => s.uses ++ usesOfBody rest

/-- The uses of names in the cases of a branch. -/
def usesOfCases : List (Expr × List Statement) → List NameUse
  | [] => []
  | (test, body) :: rest => readsOf test.names ++ usesOfBody body ++ usesOfCases rest

end

/-- Whether a name is read before it is assigned. -/
def readsFirst (name : String) : List NameUse → Bool
  | [] => false
  | .read n :: rest => n == name || readsFirst name rest
  | .write n :: rest => n != name && readsFirst name rest

/-! ### Frames -/

/-- How a name gets its value when its frame is entered: as a parameter, from the arguments, from a
frame at a lower level, or not at all. -/
inductive Source where
  | parameter
  | argument
  | outer (level : Nat)
  | unset
  deriving DecidableEq, Repr

/-- The names of a frame in the order in which they are first used, and those that are assigned in
it. -/
structure Frame where
  sources : List (String × Source)
  assigned : List String

namespace Frame

/-- A frame without names. -/
def empty : Frame := ⟨[], []⟩

/-- Whether a frame has a name. -/
def has (f : Frame) (name : String) : Bool := f.sources.any (·.1 == name)

/-- Sources with one of them set, in its place if the name is there. -/
def setSource (name : String) (source : Source) : List (String × Source) → List (String × Source)
  | [] => [(name, source)]
  | (n, s) :: rest =>
    if n == name then (n, source) :: rest else (n, s) :: setSource name source rest

/-- The level of the innermost frame that has a name. -/
def levelOf? (name : String) : List Frame → Option Nat
  | [] => none
  | f :: outer => if f.has name then some outer.length else levelOf? name outer

/-- The frame with a name that is read in it. -/
def read (outer : List Frame) (f : Frame) (name : String) : Frame :=
  if (levelOf? name (f :: outer)).isSome then f
  else { f with sources := setSource name .argument f.sources }

/-- The frame with a name that is assigned in it. -/
def assign (outer : List Frame) (f : Frame) (name : String) : Frame :=
  let source : Source :=
    match levelOf? name outer with
    | some level => .outer level
    | none => .unset
  { sources := if f.has name then f.sources else setSource name source f.sources
    assigned := f.assigned ++ [name] }

/-- The frame with a name that is a parameter of it. -/
def declare (f : Frame) (name : String) : Frame :=
  ⟨setSource name .parameter f.sources, f.assigned ++ [name]⟩

/-- The frame with what several branches from it add. A name that some of them assign, and the frame
did not, has a value from outside if no branch assigns it. -/
def merge (outer : List Frame) (f : Frame) (branches : List Frame) : Frame :=
  let fresh := (branches.flatMap (·.assigned)).filter (!f.assigned.contains ·)
  let sources := branches.foldl
    (fun done b ↦ b.sources.foldl (fun s (name, source) ↦ setSource name source s) done) f.sources
  let settled := fresh.foldl
    (fun s name ↦
      setSource name
        (match levelOf? name outer with
          | some level => .outer level
          | none => .argument) s) sources
  ⟨settled, f.assigned ++ branches.flatMap (·.assigned)⟩

/-- The frame with the names that an expression reads. -/
def readAll (outer : List Frame) (f : Frame) (names : List String) : Frame :=
  names.foldl (read outer) f

/-- The frame with the names that a target assigns. -/
def assignTarget (outer : List Frame) (f : Frame) (target : Target) : Frame :=
  target.names.foldl (assign outer) (f.readAll outer target.owners)

mutual

/-- The frame with the names that a statement uses in it. What has a frame of its own counts only by
what is read before that is entered. -/
def addStatement (outer : List Frame) (f : Frame) : Statement → Frame
  | .text _ => f
  | .print value | .inclusion value _ | .extension _ value => f.readAll outer value.names
  | .branch [] otherwise => addBody outer f otherwise
  | .branch ((test, body) :: others) otherwise =>
    let tested := f.readAll outer test.names
    merge outer tested
      [addBody outer tested body, addCases outer tested others, addBody outer tested otherwise]
  | .loop _ items _ _ _ _ => f.readAll outer items.names
  | .assign target value => (f.readAll outer value.names).assignTarget outer target
  | .capture target _ _ => f.assignTarget outer target
  | .filtered value _ => f.readAll outer value.names
  | .importation template name => (f.readAll outer template.names).assign outer name

/-- The frame with the names that several statements use in it. -/
def addBody (outer : List Frame) (f : Frame) : List Statement → Frame
  | [] => f
  | s :: rest => addBody outer (addStatement outer f s) rest

/-- The frame with the names that the further cases of a branch use in it. -/
def addCases (outer : List Frame) (f : Frame) : List (Expr × List Statement) → Frame
  | [] => f
  | (test, body) :: rest =>
    let tested := f.readAll outer test.names
    addCases outer (merge outer tested [addBody outer tested body]) rest

end

/-- The frame of a whole template. The name `self` is a parameter if it is read first. -/
def ofTemplate (body : List Statement) : Frame :=
  addBody [] (if readsFirst "self" (usesOfBody body) then empty.declare "self" else empty) body

/-- Whether the body of a loop uses the name `loop`. -/
def usesLoop (recursive : Bool) (body : List Statement) : Bool :=
  recursive || readsFirst "loop" (usesOfBody body)

/-- The frame of the body of a loop. -/
def ofLoop (outer : List Frame) (target : Target) (withLoop : Bool) (body : List Statement) :
    Frame :=
  addBody outer (target.names.foldl declare (if withLoop then empty.declare "loop" else empty)) body

/-- The frame of the condition of a loop. -/
def ofCondition (outer : List Frame) (target : Target) (condition : Expr) : Frame :=
  (target.names.foldl declare empty).readAll outer condition.names

/-- The frame of a body without parameters. -/
def ofBody (outer : List Frame) (body : List Statement) : Frame := addBody outer empty body

/-- The frame of a body whose text is filtered. -/
def ofFiltered (outer : List Frame) (value : Expr) (body : List Statement) : Frame :=
  (ofBody outer body).readAll outer value.names

end Frame

end Scriptorium.Template
