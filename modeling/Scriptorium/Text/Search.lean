import Scriptorium.Text.Substitute

/-!
# Searching

Where one text occurs in another, how often it does so without overlap, and the parts between its
occurrences. What is looked for from the end is looked for backwards in the reversed text. The empty
text occurs everywhere.
-/

set_option autoImplicit false
set_option relaxedAutoImplicit false

namespace Scriptorium.Text

/-- How many characters come before the first occurrence of a text in another, if there is one. -/
def find? (part : List Char) : List Char → Option Nat
  | [] => if part.isEmpty then some 0 else none
  | c :: rest => if part.isPrefixOf (c :: rest) then some 0 else (find? part rest).map (· + 1)

/-- How many characters come before the last occurrence of a text in another, if there is one. -/
def findLast? (part text : List Char) : Option Nat :=
  (find? part.reverse text.reverse).map fun n ↦ text.length - n - part.length

/-- Whether one text occurs in another. -/
def occursIn (part text : List Char) : Bool := (find? part text).isSome

/-- The parts of a text between the first `limit` occurrences of one that is not empty. -/
def splitSome (mark : List Char) (h : mark ≠ []) (limit : Nat) (text : List Char) :
    List (List Char) :=
  match limit, text with
  | 0, text => [text]
  | _, [] => [[]]
  | limit + 1, c :: rest =>
    match _step : dropPrefix? mark (c :: rest) with
    | some after => [] :: splitSome mark h limit after
    | none =>
      match splitSome mark h (limit + 1) rest with
      | [] => [[c]]
      | part :: others => (c :: part) :: others
termination_by text.length
decreasing_by
  · have := length_of_dropPrefix? _step
    have : 0 < mark.length := List.length_pos_iff.2 h
    omega
  · simp

/-- The parts of a text between the first `limit` occurrences of a mark; the text itself if the mark
is empty. -/
def splitAt (mark : List Char) (limit : Nat) (text : List Char) : List (List Char) :=
  if h : mark = [] then [text] else splitSome mark h limit text

/-- The parts of a text between the last `limit` occurrences of a mark. -/
def splitAtLast (mark : List Char) (limit : Nat) (text : List Char) : List (List Char) :=
  ((splitAt mark.reverse limit text.reverse).map List.reverse).reverse

/-- How often a text occurs in another without overlap; the empty one between all characters and at
both ends. -/
def occurrences (part text : List Char) : Nat :=
  if part.isEmpty then text.length + 1 else (splitAt part (text.length + 1) text).length - 1

end Scriptorium.Text
