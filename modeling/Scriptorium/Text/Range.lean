/-!
# Ranges of code points

A set of code points is written as the list of its bounds: the first opens a range, the second
closes it, and so on. `CaseRun` writes a simple case mapping as runs of equal distance.
-/

set_option autoImplicit false
set_option relaxedAutoImplicit false

namespace Scriptorium.Text

/-- Whether `n` lies in one of the half-open ranges that the bounds open and close in turn. -/
def inRanges : List Nat → Nat → Bool
  | low :: high :: rest, n => (low ≤ n && n < high) || inRanges rest n
  | _, _ => false

/-- The code points `first`, `first + step`, … up to `last`, each mapped `shift` further. -/
structure CaseRun where
  first : Nat
  last : Nat
  step : Nat
  shift : Int

/-- The code point that a run maps `n` to, if `n` is in the run. -/
def CaseRun.image? (run : CaseRun) (n : Nat) : Option Nat :=
  if run.first ≤ n && n ≤ run.last && (n - run.first) % run.step == 0 then
    some (n + run.shift).toNat
  else none

/-- The code point that the first run holding `n` maps it to; `n` itself if there is none. -/
def caseImage (runs : List CaseRun) (n : Nat) : Nat :=
  (runs.findSome? (·.image? n)).getD n

end Scriptorium.Text
