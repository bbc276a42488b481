import Scriptorium.Proofs.PhysicalLines

/-!
# How wide headings are

The lines of a heading, character by character. Its title stands between two runs of hyphens that
make it as wide as is asked for. The right one has one hyphen at least, so that no blank is taken
off the end of the line (`commentLine_append_hyphens`). The lines before and after it are lines of
hyphens, which always have the width of headings that are not asked for another one. So the three
lines are equally long exactly if this is the width that is asked for (`heading_equal_lines_iff`).
-/

set_option autoImplicit false
set_option relaxedAutoImplicit false

namespace Scriptorium

namespace Draft

/-- Hyphens at the end of a comment stay, and so does everything before them. -/
theorem commentLine_append_hyphens (d : Dialect) (text : String) {count : Nat} (h : 0 < count) :
    commentLine d (text ++ hyphens count) = d.commentMark ++ " " ++ (text ++ hyphens count) := by
  obtain ⟨less, rfl⟩ := Nat.exists_eq_add_one_of_ne_zero (Nat.pos_iff_ne_zero.mp h)
  have hlast : (d.commentMark ++ " " ++ (text ++ hyphens (less + 1 : Nat))).toList =
      (d.commentMark.toList ++ ' ' :: (text.toList ++ List.replicate less '-')) ++ ['-'] := by
    rw [hyphens_natCast, List.replicate_succ']
    simp
  rw [commentLine, hlast, Text.trimRight, Text.trimRightWhile_concat _ (by decide), ← hlast,
    String.ofList_toList]

theorem length_hyphens (count : Nat) : (hyphens count).length = count := by
  simp [hyphens_natCast]

theorem hyphenLine_headingWidth (d : Dialect) :
    hyphenLine d headingWidth = d.commentMark ++ " " ++ hyphens headingWidth := by
  have hpositive : 0 < headingWidth := by decide
  have hline := commentLine_append_hyphens d "" hpositive
  rwa [String.empty_append] at hline

variable {title : String} {width : Nat}

/-- The lines of a heading that is wider than its title. -/
theorem exists_headingLines_of_lt (d : Dialect) (hwidth : title.length < width) :
    ∃ left right : Nat, left + title.length + right = width ∧ left ≤ right ∧ right ≤ left + 1 ∧
      headingLines d title width =
        [d.commentMark ++ " " ++ hyphens headingWidth,
          d.commentMark ++ " " ++ (hyphens left ++ title ++ hyphens right),
          d.commentMark ++ " " ++ hyphens headingWidth] := by
  have hright : 0 < width - title.length - (width - title.length) / 2 := by omega
  refine ⟨(width - title.length) / 2, width - title.length - (width - title.length) / 2, by omega,
    by omega, by omega, ?_⟩
  rw [headingLines, if_neg (Nat.not_le.mpr hwidth), hyphenLine_headingWidth]
  dsimp only
  rw [← hyphens_natCast, ← hyphens_natCast, commentLine_append_hyphens d _ hright]

/-- A heading that is wider than its title has three lines, each of them one comment: the title
between runs of hyphens, of which the right one is one longer if they cannot be equal, and before
and after it a line of hyphens. The title's line has the width asked for, those of hyphens have the
same width in every heading, and so the lines are equally long exactly if it is this one. -/
theorem heading_equal_lines_iff (b : Draft) (title : String) (width : Int) (htitle : title ≠ "")
    (hline : IsOneLine title) (hwidth : title.length < width) :
    ∃ (frame middle : String) (left right : Nat),
      b.heading title width = .ok (b.extend [frame, middle, frame]) ∧
      frame = b.dialect.commentMark ++ " " ++ hyphens headingWidth ∧
      middle = b.dialect.commentMark ++ " " ++ (hyphens left ++ title ++ hyphens right) ∧
      left ≤ right ∧ right ≤ left + 1 ∧
      (∀ line ∈ [frame, middle], IsOneLine line ∧ IsComment b.dialect line) ∧
      frame.length = b.dialect.commentMark.length + 1 + headingWidth ∧
      (middle.length : Int) = b.dialect.commentMark.length + 1 + width ∧
      (frame.length = middle.length ↔ width = headingWidth) := by
  have hnonneg : 0 ≤ width := by omega
  obtain ⟨wide, rfl⟩ := Int.eq_ofNat_of_zero_le hnonneg
  have hlt : title.length < wide := by omega
  obtain ⟨left, right, hsum, hle, hge, hlines⟩ := exists_headingLines_of_lt b.dialect hlt
  have hmark : " ".length = 1 := rfl
  have hframe : (b.dialect.commentMark ++ " " ++ hyphens headingWidth).length =
      b.dialect.commentMark.length + 1 + headingWidth := by
    simp only [String.length_append, length_hyphens, hmark]
  have hmiddle : (b.dialect.commentMark ++ " " ++ (hyphens left ++ title ++ hyphens right)).length =
      b.dialect.commentMark.length + 1 + wide := by
    simp only [String.length_append, length_hyphens, hmark]
    omega
  refine ⟨_, _, left, right, ?_, rfl, rfl, hle, hge, ?_, hframe, ?_, ?_⟩
  · rw [heading_eq_ok htitle, Int.toNat_natCast, hlines]
  · intro line hmem
    have hheading : line ∈ headingLines b.dialect title wide := by
      rw [hlines]
      rcases List.mem_pair.mp hmem with rfl | rfl
      · exact List.mem_cons_self
      · exact List.mem_cons_of_mem _ List.mem_cons_self
    obtain ⟨text, htext, rfl⟩ := exists_of_mem_headingLines hline hheading
    exact ⟨isOneLine_commentLine b.dialect htext, isComment_commentLine b.dialect htext⟩
  · rw [hmiddle]
    omega
  · rw [hframe, hmiddle]
    omega

/-- A heading of the usual width, with a hyphen more after the title, is a rectangle. -/
theorem heading_equal_lines_odd :
    "abc" ≠ "" ∧ IsOneLine "abc" ∧ ("abc".length : Int) < headingWidth ∧
      ∃ frame middle, (empty .batch).heading "abc" headingWidth =
        .ok ⟨.batch, [frame, middle, frame]⟩ ∧ frame.length = middle.length := by
  obtain ⟨frame, middle, -, -, hheading, -, -, -, -, -, -, -, hequal⟩ :=
    heading_equal_lines_iff (empty .batch) "abc" headingWidth (by decide) (by decide) (by decide)
  exact ⟨by decide, by decide, by decide, frame, middle, hheading, hequal.mpr rfl⟩

/-- A heading of another width is none. -/
theorem heading_of_narrow :
    "abc" ≠ "" ∧ IsOneLine "abc" ∧ ("abc".length : Int) < 10 ∧
      ∃ after, (empty .shell).heading "abc" 10 = .ok after ∧
        after.lines.map String.length = [60, 12, 60] ∧
        ¬ ∀ line ∈ after.lines, line.length = Dialect.shell.commentMark.length + 1 + 10 := by
  refine ⟨by decide, by decide, by decide, _, rfl, by decide, by decide⟩

end Draft

end Scriptorium
