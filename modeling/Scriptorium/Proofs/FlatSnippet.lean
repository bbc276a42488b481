import Mathlib.Data.List.Basic
import Scriptorium.PowerShell
import Scriptorium.Proofs.KeptPieces

/-!
# Flat snippets

What a snippet for PowerShell looks like once it is in one line. It is flat (`IsFlat`): no break in
it, no blank at its ends, and it does not begin as a comment. So is every statement of a snippet
(`isFlat_of_mem_statements`), and so are flat texts joined by semicolons (`IsFlat.append`). A flat
text is its own and only statement, hence the flat texts are just those that stay as they are when
they are made one line.

The statements of a snippet stand on its lines, and a carriage return and the line feed after it are
one break. But an empty line is no statement, so each break may be taken by itself
(`statements_eq_keptPieces`), and a break between two snippets always sets their statements apart
(`statements_append_cons`), a line feed behind a carriage return too.
-/

set_option autoImplicit false
set_option relaxedAutoImplicit false

namespace Scriptorium

namespace Text

variable {text : List Char}

/-! ### Ends without blanks -/

theorem mem_of_mem_trim {c : Char} (h : c ∈ trim text) : c ∈ text := by
  have hkept : trim text <+: trimLeft text := trimRightWhile_prefix isBlank (trimLeft text)
  exact (List.dropWhile_sublist isBlank).subset (hkept.subset h)

/-- The first character of what is left without blanks is none. -/
theorem head?_trim (text : List Char) : ∀ c ∈ (trim text).head?, isBlank c = false := by
  intro c hc
  obtain ⟨rest, htrim⟩ : ∃ rest, trim text = c :: rest := List.head?_eq_some_iff.mp hc
  have hkept : trim text <+: trimLeft text := trimRightWhile_prefix isBlank (trimLeft text)
  rw [htrim] at hkept
  obtain ⟨more, hmore⟩ := hkept
  have hhead := List.head?_dropWhile_not isBlank text
  rw [show text.dropWhile isBlank = c :: (rest ++ more) from hmore.symm] at hhead
  simpa using hhead

/-- A text without blanks at its ends stays. -/
theorem trim_of_ends (hhead : ∀ c ∈ text.head?, isBlank c = false)
    (hlast : ∀ c ∈ text.getLast?, isBlank c = false) : trim text = text := by
  have hleft : trimLeft text = text := by
    cases text with
    | nil => rfl
    | cons c rest => exact List.dropWhile_cons_of_neg (by simp [hhead c rfl])
  rw [trim, hleft, trimRight]
  rcases List.eq_nil_or_concat' text with rfl | ⟨front, c, rfl⟩
  · rfl
  · exact trimRightWhile_concat front (hlast c (by simp))

/-! ### Joined texts -/

theorem intercalate_eq_nil_iff {separator : List Char} {all : List (List Char)}
    (h : ∀ line ∈ all, line ≠ []) : separator.intercalate all = [] ↔ all = [] := by
  rcases all with _ | ⟨line, _ | ⟨next, more⟩⟩
  · simp
  · simpa using h line
  · simp [List.intercalate_cons_cons, h line List.mem_cons_self]

theorem intercalate_append (separator : List Char) {before behind : List (List Char)}
    (hbefore : before ≠ []) (hbehind : behind ≠ []) :
    separator.intercalate (before ++ behind) =
      separator.intercalate before ++ separator ++ separator.intercalate behind := by
  induction before with
  | nil => exact absurd rfl hbefore
  | cons line rest ih =>
    cases rest with
    | nil =>
      obtain ⟨next, more, rfl⟩ := List.exists_cons_of_ne_nil hbehind
      rw [List.singleton_append, List.intercalate_cons_cons, List.intercalate_singleton]
    | cons next more =>
      have hrest := ih (List.cons_ne_nil _ _)
      rw [List.cons_append] at hrest
      rw [List.cons_append, List.cons_append, List.intercalate_cons_cons, hrest,
        List.intercalate_cons_cons]
      simp only [List.append_assoc]

end Text

namespace PowerShell

open Text

variable {text first second : List Char}

/-! ### Statements -/

/-- The statements of a snippet are those of the pieces between its breaks. -/
theorem statements_eq_keptPieces (text : List Char) :
    statements text = (keptPieces isLineBreak (isStatement ∘ trim) text).map trim := by
  rw [statements, List.filter_map, filter_lines_eq rfl]

/-- A break sets the statements before it apart from those behind it. -/
theorem statements_append_cons (first second : List Char) {c : Char} (hc : isLineBreak c = true) :
    statements (first ++ c :: second) = statements first ++ statements second := by
  simp only [statements_eq_keptPieces, keptPieces_append_cons first second hc, List.map_append]

theorem isStatement_iff : isStatement text = true ↔ text ≠ [] ∧ text.head? ≠ some '#' := by
  cases text <;> simp [isStatement]

/-! ### Flat texts -/

/-- A text in one line, without blanks at its ends, that does not begin as a comment. -/
structure IsFlat (text : List Char) : Prop where
  no_break : ∀ c ∈ text, isLineBreak c = false
  head_not_blank : ∀ c ∈ text.head?, isBlank c = false
  last_not_blank : ∀ c ∈ text.getLast?, isBlank c = false
  not_comment : text.head? ≠ some '#'

theorem isFlat_nil : IsFlat [] where
  no_break := by simp
  head_not_blank := by simp
  last_not_blank := by simp
  not_comment := by simp

/-- Flat texts with a semicolon between them are a flat text. -/
theorem IsFlat.append (hfirst : IsFlat first) (hsecond : IsFlat second) (hbegin : first ≠ [])
    (hend : second ≠ []) : IsFlat (first ++ [';', ' '] ++ second) := by
  obtain ⟨c, rest, rfl⟩ := List.exists_cons_of_ne_nil hbegin
  refine ⟨?_, hfirst.head_not_blank, ?_, hfirst.not_comment⟩
  · intro d hd
    rcases List.mem_append.mp hd with hjoined | hbehind
    · rcases List.mem_append.mp hjoined with hbefore | hseparator
      · exact hfirst.no_break d hbefore
      · rcases List.mem_pair.mp hseparator with rfl | rfl <;> decide
    · exact hsecond.no_break d hbehind
  · intro d hd
    have hlast := List.getLast?_eq_some_getLast hend
    rw [List.getLast?_append, hlast, Option.some_or, ← hlast] at hd
    exact hsecond.last_not_blank d hd

/-- Every statement of a snippet is flat. -/
theorem isFlat_of_mem_statements {line : List Char} (h : line ∈ statements text) :
    line ≠ [] ∧ IsFlat line := by
  obtain ⟨hline, hkept⟩ := List.mem_filter.mp h
  obtain ⟨hsome, hcomment⟩ := isStatement_iff.mp hkept
  obtain ⟨whole, hwhole, rfl⟩ := List.mem_map.mp hline
  exact ⟨hsome, fun c hc ↦ not_isLineBreak_of_mem_lines hwhole (mem_of_mem_trim hc),
    head?_trim whole, getLast?_trimRightWhile isBlank _, hcomment⟩

/-- A flat text is its only statement. -/
theorem statements_of_isFlat (h : IsFlat text) (hsome : text ≠ []) : statements text = [text] := by
  have htrim : trim text = text := trim_of_ends h.head_not_blank h.last_not_blank
  have hkept : (isStatement ∘ trim) text = true := by
    rw [Function.comp_apply, htrim]
    exact isStatement_iff.mpr ⟨hsome, h.not_comment⟩
  rw [statements_eq_keptPieces, keptPieces_of_forall_not h.no_break, if_pos hkept,
    List.map_singleton, htrim]

/-- Flat texts that are joined by semicolons are a flat text. -/
theorem isFlat_intercalate {all : List (List Char)} (h : ∀ line ∈ all, line ≠ [] ∧ IsFlat line) :
    IsFlat ([';', ' '].intercalate all) := by
  induction all with
  | nil => exact isFlat_nil
  | cons line rest ih =>
    obtain ⟨⟨hsome, hflat⟩, hrest⟩ := List.forall_mem_cons.mp h
    cases rest with
    | nil => rwa [List.intercalate_singleton]
    | cons next more =>
      rw [List.intercalate_cons_cons]
      refine hflat.append (ih hrest) hsome fun hnone ↦ ?_
      cases (intercalate_eq_nil_iff fun other hother ↦ (hrest other hother).1).mp hnone

/-! ### Snippets in one line -/

theorem isFlat_inline (text : List Char) : IsFlat (inline text) :=
  isFlat_intercalate fun _ hline ↦ isFlat_of_mem_statements hline

theorem inline_of_isFlat (h : IsFlat text) : inline text = text := by
  by_cases hsome : text = []
  · rw [hsome]
    rfl
  · rw [inline, statements_of_isFlat h hsome, List.intercalate_singleton]

theorem inline_eq_nil_iff : inline text = [] ↔ statements text = [] :=
  intercalate_eq_nil_iff fun _ hline ↦ (isFlat_of_mem_statements hline).1

/-- Snippets with a break between them are made one line each by itself. -/
theorem inline_append_cons (first second : List Char) {c : Char} (hc : isLineBreak c = true) :
    inline (first ++ c :: second) =
      if inline first = [] then inline second
      else if inline second = [] then inline first
      else inline first ++ [';', ' '] ++ inline second := by
  simp only [inline_eq_nil_iff]
  rw [inline, statements_append_cons first second hc]
  split_ifs with hfirst hsecond
  · rw [hfirst, List.nil_append, inline]
  · rw [hsecond, List.append_nil, inline]
  · exact intercalate_append _ hfirst hsecond

/-- A snippet in one line is flat, and making it one line again changes nothing, as for all flat
texts and no others. Two snippets, each on lines of its own, are made one line by a semicolon
between those of the two that have a statement. -/
theorem inline_normalForm (text first second : List Char) :
    IsFlat (inline text) ∧ inline (inline text) = inline text ∧
    (inline text = text ↔ IsFlat text) ∧
    inline (first ++ '\n' :: second) =
      if inline first = [] then inline second
      else if inline second = [] then inline first
      else inline first ++ [';', ' '] ++ inline second := by
  refine ⟨isFlat_inline text, inline_of_isFlat (isFlat_inline text), ?_, ?_⟩
  · exact ⟨fun hself ↦ hself ▸ isFlat_inline text, inline_of_isFlat⟩
  · exact inline_append_cons first second (by decide)

end PowerShell

end Scriptorium
