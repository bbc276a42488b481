import Scriptorium.Proofs.Placeholder.Fill

/-!
# Escaped quotes

What is escaped can be read back. The text that stands for a double quote begins with a double quote
itself and has more of them in it, so that quotes can be found in the middle of it. But an
occurrence that is looked for from left to right can only begin at a double quote, and the first one
that is left is always the beginning of one that was escaped: behind it the reader goes on at the
character that came next (`replaceAll_flatMap`). It makes no difference what the text holds, be it
the text that stands for a quote.

Hence escaping takes no two texts to one, and two arguments that a placeholder writes in the same
way are the same (`replaceAll_escapeDoubleQuotes`).
-/

set_option autoImplicit false
set_option relaxedAutoImplicit false

namespace Scriptorium

/-- Replacing back what a character was replaced by, if that begins with the character. -/
theorem Text.replaceAll_flatMap (mark : Char) (more text : List Char) :
    replaceAll (mark :: more) [mark] (text.flatMap fun c ↦ if c = mark then mark :: more else [c]) =
      text := by
  have hcode : mark :: more ≠ [] := List.cons_ne_nil mark more
  induction text with
  | nil => exact replaceAll_nil hcode
  | cons c rest ih =>
    rw [List.flatMap_cons]
    generalize rest.flatMap (fun c ↦ if c = mark then mark :: more else [c]) = behind at ih ⊢
    by_cases hc : c = mark
    · rw [if_pos hc, replaceAll_append hcode, ih, hc, List.singleton_append]
    · have hnot : ¬ mark :: more <+: c :: behind := fun hbegin ↦
        hc (List.cons_prefix_cons.mp hbegin).1.symm
      rw [if_neg hc, List.singleton_append, replaceAll_cons_of_not hcode hnot, ih]

namespace Template.Placeholder

/-- A placeholder with few enough filters is its argument as they make it. -/
theorem fill_written (p : Placeholder) (hfilters : p.filters.length ≤ filterLimit)
    (a : Scriptorium.Arguments) (text : String) :
    (a.set p.name text).fill (String.ofList p.written) =
      .ok (String.ofList (p.filtered text.toList)) := by
  have hcount : ∀ q, .placeholder q ∈ [Segment.placeholder p] → q.filters.length ≤ filterLimit := by
    intro q hq
    cases List.mem_singleton.mp hq
    exact hfilters
  have hexpand := Scriptorium.Arguments.expand_segments
    (show (Layout.ofSegments [.placeholder p]).isTagFree from rfl) (by simp) hcount
    (a.set p.name text)
  have hown : (a.set p.name text).entries.lookup p.name = some text :=
    (lookup_setEntry a.entries p.name text p.name).trans (if_pos rfl)
  rw [List.flatMap_singleton, Segment.written] at hexpand
  rw [Scriptorium.Arguments.fill, String.toList_ofList, hexpand]
  simp [Layout.fill, Layout.ofSegments, fillPlaceholders, hown, Except.map]

/-- The code of a placeholder with the name of another one that escapes double quotes. -/
def escaping (p : Placeholder) : String :=
  String.ofList { p with filters := [.escapeDoubleQuotes] : Placeholder }.written

theorem fill_escaping (p : Placeholder) (a : Scriptorium.Arguments) (text : String) :
    (a.set p.name text).fill p.escaping =
      .ok (String.ofList (PowerShell.escapeDoubleQuotes text.toList)) :=
  fill_written { p with filters := [.escapeDoubleQuotes] }
    (Nat.succ_le_of_lt (show 0 < filterLimit by decide)) a text

end Template.Placeholder

namespace PowerShell

theorem escapeDoubleQuotes_injective : Function.Injective escapeDoubleQuotes :=
  Function.LeftInverse.injective (Text.replaceAll_flatMap '"' ['^', '"', '"'])

/-- Escaping goes character by character, and replacing every escaped quote by a quote gives the
text back. So it takes no two texts to one, and a placeholder that escapes writes two arguments in
the same way only if they are the same, whatever other arguments there are. -/
theorem replaceAll_escapeDoubleQuotes (first second : List Char) (p : Template.Placeholder)
    (a b : Arguments) (text other : String) :
    escapeDoubleQuotes (first ++ second) = escapeDoubleQuotes first ++ escapeDoubleQuotes second ∧
    Text.replaceAll escapedQuote ['"'] (escapeDoubleQuotes first) = first ∧
    (escapeDoubleQuotes first = escapeDoubleQuotes second ↔ first = second) ∧
    ((a.set p.name text).fill p.escaping = (b.set p.name other).fill p.escaping ↔
      text = other) := by
  refine ⟨List.flatMap_append, Text.replaceAll_flatMap '"' ['^', '"', '"'] first,
    escapeDoubleQuotes_injective.eq_iff, ?_⟩
  rw [p.fill_escaping, p.fill_escaping, Except.ok.injEq, String.ofList_inj,
    escapeDoubleQuotes_injective.eq_iff, String.toList_inj]

/-- A text that looks like an escaped quote, whose quotes are escaped one by one. -/
example : escapeDoubleQuotes ['"', '^', '"', '"'] =
    escapedQuote ++ ['^'] ++ escapedQuote ++ escapedQuote := by
  decide

end PowerShell

end Scriptorium
