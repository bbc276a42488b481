import Scriptorium.Collection
import Scriptorium.Yaml.Document

/-!
# Collections as documents

A collection is kept as a document whose top is a mapping.
-/

set_option autoImplicit false
set_option relaxedAutoImplicit false

namespace Scriptorium

/-- The definition that a document holds. -/
def Definition.Collection.ofDocument? (text : List Char) : Except Error Definition.Collection :=
  match Yaml.readText text with
  | .error .malformed => .error (.load .notParsed)
  | .error (.fault fault) => .error (.operation fault)
  | .ok value =>
    match value.bare with
    | .map _ => Definition.accept "collection definition" (Definition.Collection.read value)
    | _ => .error (.load .notMapping)

end Scriptorium
