import Scriptorium.Proofs.DeliveredText
import Scriptorium.Proofs.KeptPieces
import Scriptorium.Proofs.ScriptLayout

/-!
# Which scripts can be encoded

The text that is printed or written of a script is that of its lines (`scriptText`). It can be
encoded exactly if everything that was put into it can be: the titles and the code of all
selections, and the code at the start and at the end (`isEncodable_scriptText`). On the way from
there to the lines marks, hyphens, quotes and escapes are added, and blanks and line ends are taken
off, and none of them is half of a character. So each kind of line has one equation, and the text of
lines can be encoded exactly if each of the lines can be.
-/

set_option autoImplicit false
set_option relaxedAutoImplicit false

namespace Scriptorium

/-- The text of a script that is made of a selection: nothing if there is nothing selected. -/
def scriptText (d : Dialect) (w : Wrapping) (selections : List Selection) : String :=
  if selections.isEmpty then "" else String.intercalate d.lineEnd (scriptLines d w selections)

/-- A line stands as it is in the text of the lines. -/
theorem exists_eq_intercalate_of_mem {line : String} {lines : List String} (lineEnd : String)
    (h : line ∈ lines) :
    ∃ before after, String.intercalate lineEnd lines = before ++ line ++ after := by
  induction lines with
  | nil => cases h
  | cons first rest ih =>
    cases rest with
    | nil =>
      obtain rfl := List.mem_singleton.mp h
      exact ⟨"", "", by simp⟩
    | cons second others =>
      rw [String.intercalate_cons_cons]
      rcases List.mem_cons.mp h with rfl | hrest
      · exact ⟨"", _, by rw [String.empty_append, String.append_assoc]⟩
      · obtain ⟨before, after, htext⟩ := ih hrest
        exact ⟨first ++ lineEnd ++ before, after, by rw [htext]; simp only [String.append_assoc]⟩

/-- The lines of a script that is selected stand in the text that is made. -/
theorem exists_eq_scriptText {d : Dialect} (w : Wrapping) {selections : List Selection}
    {selection : Selection} {line : String} (hselection : selection ∈ selections)
    (hline : line ∈ selection.lines d) :
    ∃ before after, scriptText d w selections = before ++ line ++ after := by
  have hlines : line ∈ scriptLines d w selections := by
    refine List.mem_append_left _ (List.mem_append_right _ ?_)
    exact List.mem_flatMap.mpr ⟨selection, hselection, List.mem_append_left _ hline⟩
  have hsome : selections.isEmpty = false :=
    List.isEmpty_eq_false_iff.mpr (List.ne_nil_of_mem hselection)
  rw [scriptText, hsome, if_neg Bool.false_ne_true]
  exact exists_eq_intercalate_of_mem d.lineEnd hlines

namespace Command

/-! ### Characters that are added or taken off -/

/-- A blank is a whole character. -/
theorem isHalf_of_isBlank {c : Char} (h : Text.isBlank c = true) : Text.isHalf c = false := by
  have hlow : ∀ n ∈ Text.blankCodes, n < Text.surrogateShift := by decide
  exact isHalf_of_lt (hlow _ (List.contains_iff_mem.mp h))

/-- A line end is a whole character. -/
theorem isHalf_of_isLineEnd {c : Char} (h : Draft.isLineEnd c = true) : Text.isHalf c = false := by
  simp only [Draft.isLineEnd, Bool.or_eq_true, beq_iff_eq] at h
  rcases h with rfl | rfl <;> decide

theorem isEncodable_ofList (text : List Char) :
    isEncodable (String.ofList text) = !text.any Text.isHalf := by
  rw [isEncodable, String.toList_ofList]

theorem isEncodable_hyphens (count : Nat) :
    isEncodable (String.ofList (List.replicate count '-')) = true := by
  rw [isEncodable_ofList, Bool.not_eq_true', List.any_eq_false]
  intro c hc
  rw [List.eq_of_mem_replicate hc]
  decide

/-! ### Lines -/

/-- A line of comment can be encoded exactly if its text can be: only blanks are taken off. -/
theorem isEncodable_commentLine (d : Dialect) (text : String) :
    isEncodable (Draft.commentLine d text) = isEncodable text := by
  obtain ⟨ends, hwhole, hends⟩ :=
    Text.exists_trimRightWhile_append Text.isBlank (d.commentMark ++ " " ++ text).toList
  have hnone : ends.any Text.isHalf = false :=
    List.any_eq_false.mpr fun c hc ↦ by simp [isHalf_of_isBlank (hends c hc)]
  have hmark : isEncodable (d.commentMark ++ " ") = true := by cases d <;> decide
  calc isEncodable (Draft.commentLine d text)
      = !(Text.trimRightWhile Text.isBlank (d.commentMark ++ " " ++ text).toList ++ ends).any
          Text.isHalf := by
        rw [Draft.commentLine, isEncodable_ofList, List.any_append, hnone, Bool.or_false]
        rfl
    _ = isEncodable (d.commentMark ++ " " ++ text) := by rw [← hwhole, isEncodable]
    _ = isEncodable text := by rw [isEncodable_append, hmark, Bool.true_and]

/-- The lines of code can be encoded exactly if the code can be: only line ends are taken off. -/
theorem all_isEncodable_codePieces (code : String) :
    (codePieces code).all isEncodable = isEncodable code := by
  have hkept : (fun c ↦ !Draft.isLineEnd c && Text.isHalf c) = Text.isHalf := by
    funext c
    cases hc : Draft.isLineEnd c with
    | false => rw [Bool.not_false, Bool.true_and]
    | true => rw [isHalf_of_isLineEnd hc, Bool.not_true, Bool.false_and]
  have hpieces (pieces : List (List Char)) :
      (pieces.map String.ofList).all isEncodable = !pieces.flatten.any Text.isHalf := by
    rw [List.all_map, List.any_flatten, List.not_any_eq_all_not]
    exact List.all_congr rfl fun piece ↦ isEncodable_ofList piece
  rw [codePieces, hpieces, List.flatten_filter_not_isEmpty, Text.flatten_splitOnP, List.any_filter,
    hkept, isEncodable]

/-- The command that prints a text can be encoded exactly if the text can be. -/
theorem isEncodable_echo (d : Dialect) (text : String) :
    isEncodable (d.echo text) = isEncodable text := by
  have hshell (c : Char) : (Dialect.shellQuoted c).any Text.isHalf = Text.isHalf c := by
    unfold Dialect.shellQuoted
    split
    · rename_i hquote
      rw [hquote]
      decide
    · simp
  have hbatch (c : Char) : (Dialect.batchEscaped c).any Text.isHalf = Text.isHalf c := by
    unfold Dialect.batchEscaped
    split_ifs with hand hpercent
    · rw [hand]
      decide
    · rw [hpercent]
      decide
    · simp
  have hopening : isEncodable "echo '" = true ∧ isEncodable "echo " = true ∧
      isEncodable "'" = true := by decide
  cases d with
  | shell =>
    rw [Dialect.echo, isEncodable_append, isEncodable_append, hopening.1, hopening.2.2,
      isEncodable_ofList, List.any_flatMap]
    simp only [hshell, Bool.true_and, Bool.and_true]
    rfl
  | batch =>
    rw [Dialect.echo, isEncodable_append, hopening.2.1, isEncodable_ofList, List.any_flatMap]
    simp only [hbatch, Bool.true_and]
    rfl

theorem isEncodable_hyphenLine (d : Dialect) (count : Nat) :
    isEncodable (hyphenLine d count) = true := by
  rw [hyphenLine, isEncodable_commentLine, isEncodable_hyphens]

theorem all_isEncodable_headingLines (d : Dialect) (title : String) (width : Nat) :
    (headingLines d title width).all isEncodable = isEncodable title := by
  unfold headingLines
  split
  · simp [isEncodable_commentLine]
  · simp [isEncodable_commentLine, isEncodable_hyphenLine, isEncodable_append, isEncodable_hyphens]

/-- A section can be encoded exactly if its title and its code can be. -/
theorem all_isEncodable_sectionLines (d : Dialect) (title code : String) :
    (sectionLines d title code).all isEncodable = (isEncodable title && isEncodable code) := by
  have hdashes : isEncodable "--- " = true := by decide
  simp only [sectionLines, List.all_append, all_isEncodable_headingLines,
    all_isEncodable_codePieces, isEncodable_echo, isEncodable_append, hdashes, List.all_cons,
    List.all_nil, isEncodable_hyphenLine, Bool.true_and, Bool.and_true, Bool.and_self]

/-! ### Texts -/

/-- The text of lines can be encoded exactly if each of the lines can be. -/
theorem isEncodable_intercalate {lineEnd : String} (hend : isEncodable lineEnd = true)
    (lines : List String) :
    isEncodable (String.intercalate lineEnd lines) = lines.all isEncodable := by
  induction lines with
  | nil => rfl
  | cons first rest ih =>
    cases rest with
    | nil => simp
    | cons second others =>
      rw [String.intercalate_cons_cons, isEncodable_append, isEncodable_append, ih, hend,
        Bool.and_true, List.all_cons (a := first)]

/-- The text of a script can be encoded exactly if what is put around the sections can be, and the
title and the code of each of them. -/
theorem isEncodable_scriptText (d : Dialect) (w : Wrapping) {selections : List Selection}
    (h : selections ≠ []) :
    isEncodable (scriptText d w selections) =
      (isEncodable w.startCode && isEncodable w.endCode &&
        selections.all fun s ↦ isEncodable s.title && isEncodable s.chosen) := by
  have hend : isEncodable d.lineEnd = true := by cases d <;> decide
  have hempty : isEncodable "" = true := by decide
  have hopening : (openingLines w).all isEncodable = isEncodable w.startCode := by
    unfold openingLines
    split
    · rename_i hnone
      rw [hnone, hempty]
      rfl
    · simp [all_isEncodable_codePieces, hempty]
  have hclosing : (closingLines w).all isEncodable = isEncodable w.endCode := by
    unfold closingLines
    split
    · rename_i hnone
      rw [hnone, hempty]
      rfl
    · simp [all_isEncodable_codePieces, hempty]
  have hsections : (sectionsLines d selections).all isEncodable =
      selections.all fun s ↦ isEncodable s.title && isEncodable s.chosen := by
    simp [sectionsLines, List.all_flatMap, Selection.lines, all_isEncodable_sectionLines, hempty]
  rw [scriptText, if_neg (by simpa using h), isEncodable_intercalate hend, scriptLines,
    List.all_append, List.all_append, hopening, hclosing, hsections, Bool.and_right_comm]

end Command

end Scriptorium
