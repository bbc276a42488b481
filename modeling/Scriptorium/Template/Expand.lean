import Scriptorium.Template.Render

/-!
# Expanding code

Code is a template only if it has a tag; all other code stands for itself. The blanks between the
braces and the dollar sign of a print tag do not matter: any amount of them is read as one.
-/

set_option autoImplicit false
set_option relaxedAutoImplicit false

namespace Scriptorium.Template

open Text

/-- What follows the opening of a print tag, however many blanks it has, if a text begins with
one. -/
def afterPrintOpening? : List Char → Option (List Char)
  | '\x7b' :: '\x7b' :: rest =>
    match trimLeft rest with
    | '$' :: after => some after
    | _ => none
  | _ => none

/-- The opening of a print tag with one blank. -/
def printOpening : List Char := ['\x7b', '\x7b', ' ', '$']

theorem length_afterPrintOpening? {text after : List Char}
    (h : afterPrintOpening? text = some after) :
    after.length < text.length := by
  unfold afterPrintOpening? at h
  split at h
  · rename_i rest
    have := length_trimLeft_le rest
    split at h
    · rename_i r ht
      simp only [Option.some.injEq] at h
      rw [ht] at this
      simp only [List.length_cons] at this ⊢
      rw [← h]
      omega
    · cases h
  · cases h

/-- Gives every opening of a print tag one blank. -/
def unifyOpenings (text : List Char) : List Char :=
  match _step : afterPrintOpening? text with
  | some after => printOpening ++ unifyOpenings after
  | none =>
    match text with
    | [] => []
    | c :: rest => c :: unifyOpenings rest
termination_by text.length
decreasing_by
  · exact length_afterPrintOpening? _step
  · simp

/-- Whether a text has the opening of a print tag or of a statement. -/
def hasTag : List Char → Bool
  | [] => false
  | c :: rest =>
    printOpening.isPrefixOf (c :: rest) || ['\x7b', '%'].isPrefixOf (c :: rest) || hasTag rest

/-- The code with its template, if it is one, filled in. -/
def expand (code : List Char) (arguments : List (String × String)) : Outcome (List Char) :=
  let unified := unifyOpenings code
  if hasTag unified then renderTemplate unified arguments else .ok unified

end Scriptorium.Template
