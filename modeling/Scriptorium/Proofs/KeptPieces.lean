import Mathlib.Data.List.TakeWhile
import Scriptorium.Expansion
import Scriptorium.Text.Line

/-!
# Pieces that are kept

What is left of the pieces between the breaks of a text if only those are kept that meet a condition
(`Text.keptPieces`). The lines of a code that run, the lines that it is written in and the
statements of a snippet are such pieces, with different breaks and conditions. All that counts for
what follows is that the empty piece is not kept. Then it makes no difference how many breaks stand
together, and so not that a carriage return and the line feed after it are one break of a line
(`Text.filter_lines_eq`): a cut between the two adds an empty line. Everything else follows from one
equation (`Text.keptPieces_append_cons`): a break cuts what is kept in two.

Merging cuts line feeds and carriage returns at the end of the parts, drops the blank parts and puts
line feeds between the others. None of this makes a piece, hides one or changes one, if both of them
are breaks (`keptPieces_mergeParts`).
-/

set_option autoImplicit false
set_option relaxedAutoImplicit false

namespace Scriptorium

namespace Text

variable {isBreak : Char → Bool} {keep : List Char → Bool} {text line piece : List Char} {c : Char}

/-! ### Pieces -/

/-- The pieces between separators have all characters that are none, in their order. -/
theorem flatten_splitOnP (p : Char → Bool) (text : List Char) :
    (text.splitOnP p).flatten = text.filter fun c ↦ !p c := by
  induction text with
  | nil => rfl
  | cons c rest ih =>
    rw [List.splitOnP_cons_eq_if_modifyHead]
    by_cases hc : p c = true
    · rw [if_pos hc, List.flatten_cons, List.nil_append, ih, List.filter_cons_of_neg (by simp [hc])]
    · obtain ⟨first, others, hsplit⟩ := List.exists_cons_of_ne_nil (List.splitOnP_ne_nil p rest)
      rw [hsplit, List.flatten_cons] at ih
      rw [if_neg hc, hsplit, List.modifyHead_cons, List.flatten_cons, List.cons_append, ih,
        List.filter_cons_of_pos (by simp [hc])]

/-- What is left between the characters of a class has none of them. -/
theorem eq_false_of_mem_splitOnP {p : Char → Bool} (h : piece ∈ text.splitOnP p) :
    ∀ c ∈ piece, p c = false := by
  intro c hc
  have hflat := List.mem_flatten_of_mem h hc
  rw [flatten_splitOnP] at hflat
  simpa using (List.mem_filter.mp hflat).2

/-- The pieces of a text between breaks that meet a condition. -/
def keptPieces (isBreak : Char → Bool) (keep : List Char → Bool) (text : List Char) :
    List (List Char) :=
  (text.splitOnP isBreak).filter keep

theorem keptPieces_nil (hnil : keep [] = false) : keptPieces isBreak keep [] = [] := by
  simp [keptPieces, hnil]

/-- A break cuts what is kept in two. -/
theorem keptPieces_append_cons (first second : List Char) (hc : isBreak c = true) :
    keptPieces isBreak keep (first ++ c :: second) =
      keptPieces isBreak keep first ++ keptPieces isBreak keep second := by
  simp only [keptPieces, List.splitOnP_append_cons first second hc, List.filter_append]

/-- Breaks at the end of a text make no piece that is kept. -/
theorem keptPieces_append_of_forall (hnil : keep [] = false) (first : List Char) {ends : List Char}
    (h : ∀ c ∈ ends, isBreak c = true) :
    keptPieces isBreak keep (first ++ ends) = keptPieces isBreak keep first := by
  induction ends generalizing first with
  | nil => rw [List.append_nil]
  | cons c rest ih =>
    have hrest := ih [] fun d hd ↦ h d (List.mem_cons_of_mem c hd)
    rw [List.nil_append] at hrest
    rw [keptPieces_append_cons first rest (h c List.mem_cons_self), hrest, keptPieces_nil hnil,
      List.append_nil]

/-- A text without breaks is one piece, which may be kept. -/
theorem keptPieces_of_forall_not (h : ∀ c ∈ text, isBreak c = false) :
    keptPieces isBreak keep text = if keep text = true then [text] else [] := by
  rw [keptPieces, List.splitOnP_eq_singleton h, List.filter_cons, List.filter_nil]

/-! ### Lines -/

/-- The lines of a text are its pieces between breaks, up to pieces that a condition rules out with
the empty one. -/
theorem exists_lines_splitOnP (hnil : keep [] = false) (text : List Char) :
    ∃ first pieces others, text.splitOnP isLineBreak = first :: pieces ∧
      (lines text = first :: others ∨ lines text = [] ∧ first = [] ∧ others = []) ∧
      others.filter keep = pieces.filter keep := by
  fun_induction lines text with
  | case1 => exact ⟨[], [], [], rfl, .inr ⟨rfl, rfl, rfl⟩, rfl⟩
  | case2 rest ih =>
    obtain ⟨first, pieces, others, hsplit, hlines, hfilter⟩ := ih
    have hbreaks : isLineBreak '\r' = true ∧ isLineBreak '\n' = true := by decide
    refine ⟨[], [] :: first :: pieces, lines rest, ?_, .inl rfl, ?_⟩
    · simp [List.splitOnP_cons_eq_if_modifyHead, hsplit, hbreaks]
    · rcases hlines with hmore | ⟨hnone, rfl, rfl⟩
      · simp [hmore, List.filter_cons, hnil, hfilter]
      · simp [hnone, hnil, ← hfilter]
  | case3 c rest _ hbreak ih =>
    obtain ⟨first, pieces, others, hsplit, hlines, hfilter⟩ := ih
    refine ⟨[], first :: pieces, lines rest, ?_, .inl rfl, ?_⟩
    · simp [List.splitOnP_cons_eq_if_modifyHead, hsplit, hbreak]
    · rcases hlines with hmore | ⟨hnone, rfl, rfl⟩
      · simp [hmore, List.filter_cons, hfilter]
      · simp [hnone, hnil, ← hfilter]
  | case4 c rest _ hbreak hnone ih =>
    obtain ⟨first, pieces, others, hsplit, hlines, hfilter⟩ := ih
    have hends : first = [] ∧ others = [] := by simpa [hnone] using hlines
    obtain ⟨rfl, rfl⟩ := hends
    exact ⟨[c], pieces, [], by simp [List.splitOnP_cons_eq_if_modifyHead, hsplit, hbreak],
      .inl rfl, hfilter⟩
  | case5 c rest _ hbreak line more hmore ih =>
    obtain ⟨first, pieces, others, hsplit, hlines, hfilter⟩ := ih
    have hfirst : line = first ∧ more = others := by simpa [hmore] using hlines
    obtain ⟨rfl, rfl⟩ := hfirst
    exact ⟨c :: line, pieces, more,
      by simp [List.splitOnP_cons_eq_if_modifyHead, hsplit, hbreak], .inl rfl, hfilter⟩

/-- A condition that rules out the empty line keeps the same of the lines of a text as of the pieces
between its breaks. -/
theorem filter_lines_eq (hnil : keep [] = false) (text : List Char) :
    (lines text).filter keep = keptPieces isLineBreak keep text := by
  obtain ⟨first, pieces, others, hsplit, hlines, hfilter⟩ := exists_lines_splitOnP hnil text
  rw [keptPieces, hsplit]
  rcases hlines with hmore | ⟨hnone, rfl, rfl⟩
  · rw [hmore, List.filter_cons, List.filter_cons, hfilter]
  · rw [hnone, List.filter_cons, hnil, ← hfilter]
    rfl

/-- The lines of a text have all characters that are no breaks, in their order. -/
theorem flatten_lines (text : List Char) :
    (lines text).flatten = text.filter fun c ↦ !isLineBreak c := by
  rw [← List.flatten_filter_not_isEmpty, filter_lines_eq rfl, keptPieces,
    List.flatten_filter_not_isEmpty, flatten_splitOnP]

/-- The characters of a line stand in the text. -/
theorem mem_of_mem_lines (hline : line ∈ lines text) (hc : c ∈ line) : c ∈ text := by
  have hflat := List.mem_flatten_of_mem hline hc
  rw [flatten_lines] at hflat
  exact (List.mem_filter.mp hflat).1

/-- No line has a break in it. -/
theorem not_isLineBreak_of_mem_lines (hline : line ∈ lines text) (hc : c ∈ line) :
    isLineBreak c = false := by
  have hflat := List.mem_flatten_of_mem hline hc
  rw [flatten_lines] at hflat
  simpa using (List.mem_filter.mp hflat).2

end Text

/-! ### Merged code -/

section Merged

variable {isBreak : Char → Bool} {keep : List Char → Bool}

theorem keptPieces_trimLineEnds (hnil : keep [] = false) (hreturn : isBreak '\r' = true)
    (hfeed : isBreak '\n' = true) (text : String) :
    Text.keptPieces isBreak keep (trimLineEnds text).toList =
      Text.keptPieces isBreak keep text.toList := by
  obtain ⟨ends, htext, hends⟩ :=
    Text.exists_trimRightWhile_append (fun c ↦ c == '\r' || c == '\n') text.toList
  have hbreaks : ∀ c ∈ ends, isBreak c = true := by
    intro c hc
    have hend := hends c hc
    rw [Bool.or_eq_true, beq_iff_eq, beq_iff_eq] at hend
    rcases hend with rfl | rfl
    · exact hreturn
    · exact hfeed
  have hpieces := Text.keptPieces_append_of_forall hnil
    (Text.trimRightWhile (fun c ↦ c == '\r' || c == '\n') text.toList) hbreaks
  rw [← htext] at hpieces
  rw [trimLineEnds, String.toList_ofList, hpieces]

/-- Joining code by line feeds joins what is kept. -/
theorem keptPieces_intercalate (hnil : keep [] = false) (hfeed : isBreak '\n' = true)
    (parts : List String) :
    Text.keptPieces isBreak keep ("\n".intercalate parts).toList =
      parts.flatMap fun part ↦ Text.keptPieces isBreak keep part.toList := by
  induction parts with
  | nil => exact Text.keptPieces_nil hnil
  | cons part rest ih =>
    cases rest with
    | nil => simp
    | cons next others =>
      have hjoined : ("\n".intercalate (part :: next :: others)).toList =
          part.toList ++ '\n' :: ("\n".intercalate (next :: others)).toList := by
        rw [String.intercalate_cons_cons]
        simp
      rw [hjoined, Text.keptPieces_append_cons _ _ hfeed, ih]
      rfl

/-- Merging keeps the pieces of every part that is not blank, in their order. -/
theorem keptPieces_mergeParts (hnil : keep [] = false) (hreturn : isBreak '\r' = true)
    (hfeed : isBreak '\n' = true) (parts : List String) :
    Text.keptPieces isBreak keep (mergeParts parts).toList =
      (parts.filter isSubstantial).flatMap fun part ↦
        Text.keptPieces isBreak keep part.toList := by
  rw [mergeParts, keptPieces_intercalate hnil hfeed, List.flatMap_map]
  simp only [keptPieces_trimLineEnds hnil hreturn hfeed]

end Merged

end Scriptorium
