import Scriptorium.Proofs.KeptPieces
import Scriptorium.Repetition

/-!
# The lines of a code that run

Where the lines of a code that run come from when the code is put together from pieces. A carriage
return and the line feed after it are one break, so the lines of a text are not those of its pieces:
a cut may fall between the two. But all that such a cut adds is an empty line, and an empty line
does not run. The lines that run are therefore those pieces between the breaks, each break by
itself, that are not ignored (`executableLines_eq_keptPieces`).

So they are what pieces are that are kept: a break cuts them in two
(`executableLines_append_cons`), and those of merged parts are those of the parts, one after the
other (`executableLines_mergeParts`), as in a blank part nothing runs.
-/

set_option autoImplicit false
set_option relaxedAutoImplicit false

namespace Scriptorium

namespace Dialect

variable (d : Dialect)

/-- A blank line does not run. -/
theorem isIgnored_of_blank {line : List Char} (h : ∀ c ∈ line, Text.isBlank c = true) :
    d.isIgnored line = true := by
  rw [isIgnored, Text.trim_of_blank h]
  rfl

theorem isIgnored_nil : d.isIgnored [] = true := d.isIgnored_of_blank (by simp)

/-- The lines that run are those pieces between the breaks of a text that are not ignored. -/
theorem executableLines_eq_keptPieces (text : List Char) :
    d.executableLines text =
      Text.keptPieces Text.isLineBreak (fun piece ↦ !d.isIgnored piece) text :=
  Text.filter_lines_eq (by rw [d.isIgnored_nil]; rfl) text

@[simp] theorem executableLines_nil : d.executableLines [] = [] := rfl

/-- A break cuts the lines that run in two. -/
theorem executableLines_append_cons (first second : List Char) {c : Char}
    (hc : Text.isLineBreak c = true) :
    d.executableLines (first ++ c :: second) =
      d.executableLines first ++ d.executableLines second := by
  simp only [executableLines_eq_keptPieces, Text.keptPieces_append_cons first second hc]

/-- In a blank text nothing runs. -/
theorem executableLines_of_blank {text : List Char} (h : ∀ c ∈ text, Text.isBlank c = true) :
    d.executableLines text = [] := by
  refine List.filter_eq_nil_iff.mpr fun line hline ↦ ?_
  rw [d.isIgnored_of_blank fun c hc ↦ h c (Text.mem_of_mem_lines hline hc)]
  decide

/-- A text without breaks is one line, which may run. -/
theorem executableLines_of_forall_not {line : List Char}
    (h : ∀ c ∈ line, Text.isLineBreak c = false) :
    d.executableLines line = if d.isIgnored line = true then [] else [line] := by
  rw [executableLines_eq_keptPieces, Text.keptPieces_of_forall_not h]
  by_cases hignored : d.isIgnored line = true <;> simp [hignored]

/-- Merging keeps the lines that run of every part, in their order. -/
theorem executableLines_mergeParts (parts : List String) :
    d.executableLines (mergeParts parts).toList =
      parts.flatMap fun part ↦ d.executableLines part.toList := by
  have hnil : (!d.isIgnored []) = false := by rw [d.isIgnored_nil]; rfl
  rw [executableLines_eq_keptPieces, keptPieces_mergeParts hnil (by decide) (by decide)]
  simp only [← executableLines_eq_keptPieces]
  induction parts with
  | nil => rfl
  | cons part rest ih =>
    by_cases hpart : isSubstantial part = true
    · rw [List.filter_cons_of_pos hpart, List.flatMap_cons, List.flatMap_cons, ih]
    · have hblank : ∀ c ∈ part.toList, Text.isBlank c = true := by
        simpa [isSubstantial, Text.isBlankText] using hpart
      rw [List.filter_cons_of_neg hpart, ih, List.flatMap_cons, d.executableLines_of_blank hblank,
        List.nil_append]

end Dialect

end Scriptorium
