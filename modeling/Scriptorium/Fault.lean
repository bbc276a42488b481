/-!
# Faults of single operations

What goes wrong with an operation on values that no rule of this library speaks of, such as a
division by zero or a date that the calendar does not have.
-/

set_option autoImplicit false
set_option relaxedAutoImplicit false

namespace Scriptorium

/-- An operation that does not apply to its operands, or a thing that is looked for in vain. What is
left out is a part of a language that this library does not know. -/
inductive Fault where
  | typeMismatch
  | divisionByZero
  | badValue
  | overflow
  | noTemplates
  | notRenderable
  | unknownKey
  | noMember
  | noElement
  | notFile
  | notFolder
  | fileExists
  | nameTooLong
  | outOfMemory
  | recursion
  | malformedCode
  | deepIndentation
  | unknownName
  | unboundName
  | absentValue
  | unknownEncoding
  | unencodable
  | badMarks
  | leftOut
  | undecodable
  deriving DecidableEq, Repr

end Scriptorium
