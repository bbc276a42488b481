import Scriptorium.Command.Console
import Scriptorium.Command.Option
import Scriptorium.Script

/-!
# Requests

What a command line asks for: the version, help, a script made from a collection, or the list of the
scripts of one. Options for the whole program stand before the name of the command. The version and
help are asked for by options that need nothing else to be right, once the words are told apart, and
so is what sets up a shell to complete words. What becomes of that is left out.
-/

set_option autoImplicit false
set_option relaxedAutoImplicit false

namespace Scriptorium.Command

/-- How a script is to be made. -/
structure CompileOptions where
  scripts : List String
  level : Option Level
  revert : Bool
  output : Option String
  homepage : String
  deriving DecidableEq, Repr

/-- What is to be done with a collection. -/
inductive Action where
  | compile (options : CompileOptions)
  | list
  deriving DecidableEq, Repr

/-- What a command line asks for. -/
inductive Request where
  | version
  | help (topic : Topic)
  | completion
  | action (isVerbose : Bool) (action : Action) (file : String)
  deriving DecidableEq, Repr

/-- The option of every command that asks for its help. -/
def helpOption : OptionShape := ⟨"--help".toList, none, false⟩

/-- The options that set up a shell to complete words. -/
def completionOptions : List OptionShape :=
  [⟨"--install-completion".toList, none, false⟩, ⟨"--show-completion".toList, none, false⟩]

/-- The options for the whole program. -/
def programOptions : List OptionShape :=
  [⟨"--version".toList, some 'v', false⟩, ⟨"--verbose".toList, none, false⟩] ++
    completionOptions ++ [helpOption]

/-- The options for making a script. -/
def compileShapes : List OptionShape :=
  [helpOption, ⟨"--script".toList, some 's', true⟩, ⟨"--level".toList, some 'l', true⟩,
   ⟨"--revert".toList, none, false⟩, ⟨"--output".toList, some 'o', true⟩,
   ⟨"--homepage".toList, none, true⟩]

/-- The level that a command is given, by its exact name. -/
def levelOf (w : Words) : Except UsageFault (Option Level) :=
  match w.value? "--level" with
  | none => .ok none
  | some name =>
    match Level.ofName? name with
    | some l => .ok (some l)
    | none => .error .badParameter

/-- The single operand, which has to be there. -/
def operandOf (w : Words) : Except UsageFault String :=
  match w.operands with
  | [] => .error .missingParameter
  | [file] => .ok file
  | _ => .error .usage

/-- Reads the words after the name of the command that makes a script. -/
def readCompile (isVerbose : Bool) (words : List String) : Except UsageFault Request := do
  let w ← tellApart compileShapes true words
  if w.has "--help" then return .help .compile
  else
    let level ← levelOf w
    let file ← operandOf w
    let options : CompileOptions :=
      ⟨w.values "--script", level, w.has "--revert", w.value? "--output",
        (w.value? "--homepage").getD ""⟩
    return .action isVerbose (.compile options) file

/-- Reads the words after the name of the command that lists scripts. -/
def readList (isVerbose : Bool) (words : List String) : Except UsageFault Request := do
  let w ← tellApart [helpOption] true words
  if w.has "--help" then return .help .list
  else
    let file ← operandOf w
    return .action isVerbose .list file

/-- What options for the whole program ask for in place of a command, by the first of them that asks
for something. -/
def inPlaceOfCommand? (w : Words) : Option Request :=
  w.given.findSome? fun o ↦
    if o.long == "--version".toList then some .version
    else if o.long == "--help".toList then some (.help .program)
    else if completionOptions.any (o.long == ·.long) then some .completion
    else none

/-- Reads words in place of a command that is not known. If they begin like options they are read
once more as options for the whole program, which can still ask for something else. -/
def readUnknown (words : List String) : Except UsageFault Request := do
  let w ← tellApart programOptions false words
  match inPlaceOfCommand? w with
  | some request => return request
  | none => throw .usage

/-- Reads a command line. -/
def Request.ofWords? (words : List String) : Except UsageFault Request := do
  let w ← tellApart programOptions false words
  match inPlaceOfCommand? w with
  | some request => return request
  | none =>
    let isVerbose := w.has "--verbose"
    match w.operands with
    | [] => throw .usage
    | "compile" :: rest => readCompile isVerbose rest
    | "list" :: rest => readList isVerbose rest
    | unknown => readUnknown unknown

end Scriptorium.Command
