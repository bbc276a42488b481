import Scriptorium.Definition.Model
import Scriptorium.Text.Blank

/-!
# Documentation

The addresses under which a script or a category is documented. There may be none, but none may be
blank.
-/

set_option autoImplicit false
set_option relaxedAutoImplicit false

namespace Scriptorium.Documentation

/-- Addresses from raw values, all of which have to be texts that are not blank. -/
def ofItems? : List Value → Except Error (List String)
  | [] => .ok []
  | v :: rest =>
    match v with
    | .text url =>
      if Text.isBlankText url.toList then .error (.argument (.badDocumentation v))
      else do return url :: (← ofItems? rest)
    | v => .error (.argument (.badDocumentation v))

/-- Addresses from a raw value: nothing, a single address, or the items or keys of a collection. -/
def ofValue? : Value → Except Error (List String)
  | .null => .ok []
  | .list items | .set items => ofItems? items
  | .map entries => ofItems? (entries.map (·.1))
  | .bytes bytes => ofItems? (bytes.map fun b ↦ .int b.toNat)
  | .text url => ofItems? [.text url]
  | _ => .error (.operation .typeMismatch)

/-- Addresses from the documentation of a definition. -/
def ofDefinition? (docs : Option Definition.Docs) : Except Error (List String) :=
  ofItems? (match docs with
    | none => []
    | some (.one url) => [.text url]
    | some (.many urls) => urls.map .text)

end Scriptorium.Documentation
