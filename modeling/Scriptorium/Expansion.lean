import Scriptorium.Registry
import Scriptorium.Template.Expand

/-!
# Expanding calls

A call of a function with code becomes one fragment, the code with the arguments filled in. A call
of a function with calls becomes the fragments of those calls, whose arguments are filled in first,
so that no placeholder ever crosses a call. No function may be entered while it is being expanded,
and no more than `callLimit` functions may be open at once: `expand` counts down how many more it
can enter.
-/

set_option autoImplicit false
set_option relaxedAutoImplicit false

namespace Scriptorium

/-- Code with every placeholder filled in: what applies, and what reverts. Either may be empty. -/
structure Compiled where
  code : String
  revertCode : String
  deriving DecidableEq, Repr

/-- Fills the placeholders of code with arguments. -/
def Arguments.fill (a : Arguments) (code : String) : Except Error String :=
  match Template.expand code.toList a.entries with
  | .ok text => .ok (String.ofList text)
  | .error failure => .error (.ofTemplate failure)

/-- How many functions can be open at once. -/
def callLimit : Nat := 64

namespace Registry

/-- Whether a call gives a function only arguments that it declares. -/
def checkArguments (f : Function) (a : Arguments) : Except Error Unit :=
  match a.names.filter fun name ↦ !f.parameterNames.contains name with
  | [] => .ok ()
  | unexpected => .error (.unexpectedParameters f.name unexpected f.parameterNames)

/-- The fragment of a function with code. -/
def fillCode (code : FunctionCode) (a : Arguments) : Except Error Compiled := do
  let execute ← a.fill code.execute
  let revert ← a.fill code.revert
  return ⟨execute, revert⟩

/-- The call with its arguments filled in from the arguments of the call around it. -/
def fillCall (outer : Arguments) (c : Call) : Except Error Call := do
  let arguments ← c.arguments.mapM outer.fill
  return { c with arguments }

/-- The fragments of calls one after the other. -/
def expandEach (expandOne : Call → Except Error (List Compiled)) :
    List Call → Except Error (List Compiled)
  | [] => .ok []
  | c :: rest => do
    let fragments ← expandOne c
    let others ← expandEach expandOne rest
    return fragments ++ others

/-- The fragments of a call inside the functions on a path, with room to enter some more. -/
def expand (r : Registry) : Nat → List String → Call → Except Error (List Compiled)
  | room, path, c => do
    let f ← r.get c.function
    checkArguments f c.arguments
    if f.name ∈ path then throw (.cycle (path ++ [f.name]))
    match room with
    | 0 => throw (.callDepth callLimit (path ++ [f.name]))
    | room + 1 =>
      match f.body with
      | .code code => return [← fillCode code c.arguments]
      | .calls calls =>
        expandEach (fun inner ↦ do
          let filled ← fillCall c.arguments inner
          expand r room (path ++ [f.name]) filled) calls

/-- The fragments of a sequence of calls. -/
def expandCalls (r : Registry) (calls : List Call) : Except Error (List Compiled) :=
  expandEach (r.expand callLimit []) calls

end Registry

/-- Whether a text has a character that is not blank. -/
def isSubstantial (s : String) : Bool := !Text.isBlankText s.toList

/-- The text without line ends at its end. -/
def trimLineEnds (s : String) : String :=
  String.ofList (Text.trimRightWhile (fun c ↦ c == '\r' || c == '\n') s.toList)

/-- The parts that are not blank, each without line ends at its end, on lines of their own. -/
def mergeParts (parts : List String) : String :=
  String.intercalate "\n" ((parts.filter isSubstantial).map trimLineEnds)

/-- Fragments as one. -/
def Compiled.merge (fragments : List Compiled) : Compiled :=
  ⟨mergeParts (fragments.map (·.code)), mergeParts (fragments.map (·.revertCode))⟩

namespace Registry

/-- The code of a sequence of calls. -/
def compile (r : Registry) (calls : List Call) : Except Error Compiled := do
  let fragments ← r.expandCalls calls
  return Compiled.merge fragments

/-- The calls of a list in which none is missing. -/
def allCalls? : List (Option Call) → Option (List Call)
  | [] => some []
  | none :: _ => none
  | some c :: rest => (allCalls? rest).map (c :: ·)

/-- The code of calls any part of which may be missing. -/
def compileGiven (r : Option Registry) (calls : Option (List (Option Call))) :
    Except Error Compiled :=
  match r, calls with
  | none, _ => .error (.argument .noFunctions)
  | some _, none => .error (.argument .noCalls)
  | some r, some calls =>
    match allCalls? calls with
    | none => .error (.argument .noCall)
    | some calls => r.compile calls

end Registry

end Scriptorium
