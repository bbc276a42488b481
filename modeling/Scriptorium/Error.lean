import Scriptorium.Template.Fault
import Scriptorium.Value

/-!
# Errors

Everything that makes a definition, a call or a selection unacceptable, by cause. `Error.message`
words a cause; the messages of the causes that other causes quote have functions of their own.
-/

set_option autoImplicit false
set_option relaxedAutoImplicit false

namespace Scriptorium

/-- A name between double quotes. -/
def nameInQuotes (name : String) : String := "\"" ++ name ++ "\""

/-- Names between double quotes, with commas between them. -/
def namesInQuotes (names : List String) : String := String.intercalate ", " (names.map nameInQuotes)

/-- Something that is missing, empty or repeated where a function of the library needs it. -/
inductive ArgumentFault where
  | noArguments
  | unnamedArgument
  | noValue (name : String)
  | unnamedCall
  | noCallData
  | noCall
  | unnamedDefinition
  | noFunctions
  | noCalls
  | emptyFunctionName
  | noScript
  | noContext
  | noCollection
  | badDocumentation (url : Value)
  | emptySectionName
  | emptyName
  | emptyCode
  | noSelection
  | noScripting
  | selectedTwice (section' : String)
  | noRevertCode (script : String)

/-- The wording of an `ArgumentFault`. -/
def ArgumentFault.message : ArgumentFault → String
  | noArguments => "undefined args, send empty collection instead"
  | unnamedArgument => "missing parameter name in function call"
  | noValue name => "undefined argument value for " ++ nameInQuotes name
  | unnamedCall => "function name must be defined"
  | noCallData => "undefined call data"
  | noCall => "undefined function call"
  | unnamedDefinition => "function name must be defined in call"
  | noFunctions => "undefined functions"
  | noCalls => "undefined calls"
  | emptyFunctionName => "undefined function name"
  | noScript => "undefined script"
  | noContext => "undefined context"
  | noCollection => "undefined collection"
  | badDocumentation url => "invalid documentation url: " ++ url.shown
  | emptySectionName => "section name cannot be empty"
  | emptyName => "name cannot be empty"
  | emptyCode => "code cannot be empty"
  | noSelection => "undefined scripts"
  | noScripting => "undefined definition"
  | selectedTwice s => nameInQuotes s ++ " is selected more than once"
  | noRevertCode script => "script " ++ nameInQuotes script ++ " has no revert code"

/-- Which of the two codes of a function. -/
inductive CodeKind where
  | execute
  | revert
  deriving DecidableEq, Repr

/-- How a code of a function is called. -/
def CodeKind.text : CodeKind → String
  | execute => "code"
  | revert => "revert code"

/-- What is wrong with the definition of a function. -/
inductive FunctionFault where
  | missing
  | unnamed
  | codeAndCall (function : String)
  | neitherCodeNorCall (function : String)
  | revertWithCall (function : String)
  | badParameter (parameter function : String)
  | reservedParameter (parameter function : String)
  | repeatedParameter (parameter function : String)
  | sameCode (first second : String) (kind : CodeKind)
  | badCall (function : String) (cause : ArgumentFault)

/-- The wording of a `FunctionFault`. -/
def FunctionFault.message : FunctionFault → String
  | missing => "some functions are undefined"
  | unnamed => "function name(s) are missing"
  | codeAndCall f => "both \"code\" and \"call\" are defined in " ++ nameInQuotes f
  | neitherCodeNorCall f => "neither \"code\" or \"call\" is defined in " ++ nameInQuotes f
  | revertWithCall f => "\"revertCode\" cannot be used with \"call\" in " ++ nameInQuotes f
  | badParameter p f =>
    "invalid parameter name " ++ nameInQuotes p ++ " in function " ++ nameInQuotes f
      ++ "; use letters, digits and underscores"
  | reservedParameter p f =>
    "parameter name " ++ nameInQuotes p ++ " in function " ++ nameInQuotes f
      ++ " is a reserved word"
  | repeatedParameter p f =>
    "duplicate parameter name " ++ nameInQuotes p ++ " in function " ++ nameInQuotes f
  | sameCode f g kind =>
    "functions " ++ nameInQuotes f ++ " and " ++ nameInQuotes g ++ " have duplicate " ++ kind.text
  | badCall f cause => "invalid call in function " ++ nameInQuotes f ++ ": " ++ cause.message

/-- What is wrong with the definition of a script. -/
inductive ScriptFault where
  | codeAndCall (script : String)
  | neitherCodeNorCall (script : String)
  | revertWithCall (script : String)
  | unknownLevel (level script : String) (known : List String)
  | badCall (script : String) (cause : ArgumentFault)
  | emptyCode (script : String)
  | sameRevert (script : String)

/-- The wording of a `ScriptFault`. -/
def ScriptFault.message : ScriptFault → String
  | codeAndCall s => "cannot define both \"call\" and \"code\" in script " ++ nameInQuotes s
  | neitherCodeNorCall s => "must define either \"call\" or \"code\" in script " ++ nameInQuotes s
  | revertWithCall s =>
    "cannot define \"revertCode\" if \"call\" is defined in script " ++ nameInQuotes s
  | unknownLevel level s known =>
    "unknown level " ++ nameInQuotes level ++ " in script " ++ nameInQuotes s
      ++ ", expected one of: " ++ String.intercalate ", " known
  | badCall s cause => "invalid call in script " ++ nameInQuotes s ++ ": " ++ cause.message
  | emptyCode s => "code of script " ++ nameInQuotes s ++ " is empty"
  | sameRevert s => "code itself and its reverting code cannot be the same in " ++ nameInQuotes s

/-- What is wrong with a collection as a whole. -/
inductive CollectionFault where
  | noActions
  | noScripting
  | repeatedScripts (names : List String)

/-- The wording of a `CollectionFault`. -/
def CollectionFault.message : CollectionFault → String
  | noActions => "collection has no actions"
  | noScripting => "undefined scripting definition"
  | repeatedScripts names => "script names must be unique, duplicates: " ++ namesInQuotes names

/-- How a raw value fails to be what a definition needs. -/
inductive ProblemKind where
  | text
  | encoding
  | list
  | mapping
  | bool
  | boolText
  | record
  | recursion
  deriving DecidableEq, Repr

/-- A place in a raw value, as the keys that lead to it, and what is wrong there. -/
structure Problem where
  path : List String
  kind : ProblemKind
  deriving DecidableEq, Repr

/-- Why a document cannot be read as a collection or a definition. -/
inductive LoadFault where
  | badShape (what : String) (problems : List Problem)
  | notParsed
  | notMapping
  | noFile (path : String)

/-- The wording of a `LoadFault`; the problems of a bad shape are told apart from it. -/
def LoadFault.message : LoadFault → String
  | badShape what _ => "Invalid " ++ what ++ ":"
  | notParsed => "Failed to parse YAML"
  | notMapping => "Parsed YAML must be a mapping at the top level"
  | noFile path => "Collection file not found: " ++ path

/-- What is missing a name. -/
inductive Nameable where
  | script
  | category
  deriving DecidableEq, Repr

/-- The cause of a failure. -/
inductive Error where
  | argument (fault : ArgumentFault)
  | unknownFunction (name : String)
  | unexpectedParameters (function : String) (unexpected declared : List String)
  | missingArgument (cause : Template.Absence)
  | badExpression (line : Nat) (fault : Template.SyntaxFault)
  | cycle (path : List String)
  | callDepth (limit : Nat) (path : List String)
  | function (fault : FunctionFault)
  | repeatedFunction (name : String)
  | script (fault : ScriptFault)
  | noCategory
  | unnamed (what : Nameable)
  | emptyCategory (name : String)
  | repeatedLines (lines : List String)
  | unknownLanguage (language : Value)
  | collection (fault : CollectionFault)
  | load (fault : LoadFault)
  | operation (fault : Fault)

/-- The failure of a template as a cause. -/
def Error.ofTemplate : Template.Failure → Error
  | .malformed line fault => badExpression line fault
  | .absent cause => missingArgument cause
  | .fault fault => operation fault

/-- The wording of a cause. Faults of single operations have none. -/
def Error.message : Error → String
  | argument fault => fault.message
  | unknownFunction name => "called function is not defined: " ++ nameInQuotes name
  | unexpectedParameters f unexpected declared =>
    "Function " ++ nameInQuotes f ++ " has unexpected parameter(s) provided: "
      ++ namesInQuotes unexpected ++ ". Expected parameter(s): "
      ++ if declared.isEmpty then "none" else namesInQuotes declared
  | missingArgument cause => "parameter value not provided: " ++ cause.message
  | badExpression line fault =>
    "invalid expression at line " ++ Decimal.natText line ++ ": " ++ fault.message
  | cycle path => "cyclic call detected: " ++ String.intercalate " -> " path
  | callDepth limit path =>
    "call depth exceeds " ++ Decimal.natText limit ++ ": " ++ String.intercalate " -> " path
  | function fault => fault.message
  | repeatedFunction name => "duplicate function name: " ++ nameInQuotes name
  | script fault => fault.message
  | noCategory => "category is null or undefined"
  | unnamed .script => "script has no name"
  | unnamed .category => "category has no name"
  | emptyCategory name => "category has no children: " ++ nameInQuotes name
  | repeatedLines lines => "Duplicates detected in script:\n" ++ String.intercalate "\n" lines
  | unknownLanguage language => "unsupported scripting language: " ++ language.shown
  | collection fault => fault.message
  | load fault => fault.message
  | operation _ => ""

end Scriptorium
