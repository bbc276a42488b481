import Scriptorium.Decimal.Layout
import Scriptorium.Fault
import Scriptorium.Text.Quoted

/-!
# What can go wrong with a template

A template fails in one of three ways: it cannot be read (`SyntaxFault`, with the line), it uses a
value that is not there (`Absence`), or an operation does not apply to its operands
(`Scriptorium.Fault`).
-/

set_option autoImplicit false
set_option relaxedAutoImplicit false

namespace Scriptorium.Template

/-- A text between quotes, as messages show it. -/
def inQuotes (s : String) : String := String.ofList (Text.quoted s.toList)

/-- Why a template cannot be read. Tokens are given by their descriptions. -/
inductive SyntaxFault where
  | unexpectedChar (c : Char) (offset : Nat)
  | unopenedBracket (close : Char)
  | mismatchedBracket (close expected : Char)
  | unclosedComment
  | unclosedRaw
  | notIdentifier
  | badEscape (reason : String)
  | endsBefore (expected : String)
  | wrongToken (expected found : String)
  | noOperand (found : String)
  | noExpression (found : String)
  | noNameOrNumber
  | noTagName
  | unknownTag (name : String) (awaited : List (List String)) (innermost : Option String)
  | unclosedTag (awaited : List String) (innermost : Option String)
  | notAssignable (what : String)
  | chainedTests
  | badCallArguments
  | unknownFilter (name : String)
  | unknownTest (name : String)
  | loopAssigned
  | nestedExtends
  | tooDeep
  deriving DecidableEq, Repr

/-- The tags that are looked for, between quotes. -/
def alternatives (tags : List String) : String :=
  String.intercalate " or " (tags.map inQuotes)

/-- Which block is to be closed first. -/
def innermostText : Option String → List String
  | some tag => ["The innermost block that needs to be closed is " ++ inQuotes tag ++ "."]
  | none => []

/-- The wording of a fault. -/
def SyntaxFault.message : SyntaxFault → String
  | unexpectedChar c offset =>
    "unexpected char " ++ inQuotes (String.singleton c) ++ " at " ++ Decimal.natText offset
  | unopenedBracket c => "unexpected '" ++ String.singleton c ++ "'"
  | mismatchedBracket c e =>
    "unexpected '" ++ String.singleton c ++ "', expected '" ++ String.singleton e ++ "'"
  | unclosedComment => "Missing end of comment tag"
  | unclosedRaw => "Missing end of raw directive"
  | notIdentifier => "Invalid character in identifier"
  | badEscape reason => reason
  | endsBefore expected => "unexpected end of template, expected " ++ inQuotes expected ++ "."
  | wrongToken expected found =>
    "expected token " ++ inQuotes expected ++ ", got " ++ inQuotes found
  | noOperand found => "unexpected " ++ inQuotes found
  | noExpression found => "Expected an expression, got " ++ inQuotes found
  | noNameOrNumber => "expected name or number"
  | noTagName => "tag name expected"
  | unknownTag name awaited innermost =>
    String.intercalate " " (["Encountered unknown tag " ++ inQuotes name ++ "."]
      ++ (match awaited with
        | [] => []
        | tags :: _ =>
          if awaited.any (·.contains name) then
            ["You probably made a nesting mistake. Jinja is expecting this tag, "
              ++ "but currently looking for " ++ alternatives tags ++ "."]
          else
            ["Jinja was looking for the following tags: " ++ alternatives tags ++ "."])
      ++ innermostText innermost)
  | unclosedTag tags innermost =>
    String.intercalate " " (["Unexpected end of template. "
      ++ "Jinja was looking for the following tags: " ++ alternatives tags ++ "."]
      ++ innermostText innermost)
  | notAssignable what => "can't assign to " ++ inQuotes what
  | chainedTests => "You cannot chain multiple tests with is"
  | badCallArguments => "invalid syntax for function call expression"
  | unknownFilter name => "No filter named " ++ inQuotes name ++ "."
  | unknownTest name => "No test named " ++ inQuotes name ++ "."
  | loopAssigned => "Can't assign to special loop variable in for-loop target"
  | nestedExtends => "cannot use extend from a non top-level scope"
  | tooDeep => "expression nested too deeply"

/-- Why a value is not there. -/
inductive Absence where
  | argument (name : String)
  | member (owner name : String)
  | element (owner index : String)
  | noElse (line : Nat)
  | noneBefore
  | noneAfter
  deriving DecidableEq, Repr

/-- The wording of an absence. The index of an element comes as it is shown. -/
def Absence.message : Absence → String
  | argument name => inQuotes name ++ " is undefined"
  | member owner name => inQuotes owner ++ " has no attribute " ++ inQuotes name
  | element owner index => owner ++ " has no element " ++ index
  | noElse line =>
    "the inline if-expression on line " ++ Decimal.natText line
      ++ " evaluated to false and no else section was defined."
  | noneBefore => "there is no previous item"
  | noneAfter => "there is no next item"

/-- How a template fails. -/
inductive Failure where
  | malformed (line : Nat) (fault : SyntaxFault)
  | absent (cause : Absence)
  | fault (fault : Fault)
  deriving DecidableEq, Repr

end Scriptorium.Template
