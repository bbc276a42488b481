import Mathlib.Data.List.Basic
import Scriptorium.Proofs.FlatSnippet

/-!
# Snippets in one line

What a snippet for PowerShell runs, and what is left of that once the snippet is in one line. A line
runs what stands before its comment, piece by piece between semicolons, without blanks around the
pieces and without empty ones (`PowerShell.lineCommands`); a comment begins at the first number sign
that begins a word and goes to the end of the line. So it is read as long as nothing in the snippet
is quoted and no comment is closed before the end of its line.

Lines that are blank or begin with a comment are left out when a snippet is made one line, and the
others are joined by semicolons. A comment that stands behind a command stays, and as there is one
line left it then goes to the end of the snippet. So exactly the commands up to the first such line
are left (`throughComment`), and `commands_inline_iff` says when this is all of them: when no line
with a command comes behind a line with a comment of this kind (`TrailsComment`).

The line that is made is read from the left. Behind a text without a comment and a semicolon the
next line begins as a word does (`upToComment_append_separator`), and behind one with a comment
nothing is read (`upToComment_append_of_ne`).
-/

set_option autoImplicit false
set_option relaxedAutoImplicit false

namespace Scriptorium

namespace Text

variable {text ends : List Char}

/-! ### Blanks and lines -/

theorem trim_cons_of_blank {c : Char} (hc : isBlank c = true) (text : List Char) :
    trim (c :: text) = trim text := by
  simp [trim, trimLeft, hc]

theorem trimRightWhile_append_of_forall {p : Char → Bool} (text : List Char)
    (hends : ∀ c ∈ ends, p c = true) :
    trimRightWhile p (text ++ ends) = trimRightWhile p text := by
  induction text with
  | nil => exact (trimRightWhile_eq_nil_iff p ends).mpr hends
  | cons c rest ih => rw [List.cons_append, trimRightWhile, trimRightWhile, ih]

theorem trim_append_of_blank (text : List Char) (hends : ∀ c ∈ ends, isBlank c = true) :
    trim (text ++ ends) = trim text := by
  by_cases hblank : ∀ c ∈ text, isBlank c = true
  · have hboth : ∀ c ∈ text ++ ends, isBlank c = true := fun c hc ↦
      (List.mem_append.mp hc).elim (hblank c) (hends c)
    rw [trim_of_blank hboth, trim_of_blank hblank]
  · have hleft : trimLeft (text ++ ends) = trimLeft text ++ ends := by
      have hsome : (text.dropWhile isBlank).isEmpty = false := by
        simpa [List.dropWhile_eq_nil_iff] using hblank
      simp [trimLeft, List.dropWhile_append, hsome]
    rw [trim, trim, hleft]
    exact trimRightWhile_append_of_forall _ hends

/-- A text is the text without blanks at its ends, and blanks on both sides of it. -/
theorem exists_append_trim (text : List Char) :
    ∃ front back, text = front ++ trim text ++ back ∧ (∀ c ∈ front, isBlank c = true) ∧
      ∀ c ∈ back, isBlank c = true := by
  obtain ⟨back, hback, hblank⟩ := exists_trimRightWhile_append isBlank (trimLeft text)
  refine ⟨text.takeWhile isBlank, back, ?_, fun c hc ↦ List.mem_takeWhile_imp hc, hblank⟩
  calc text = text.takeWhile isBlank ++ trimLeft text := List.takeWhile_append_dropWhile.symm
    _ = text.takeWhile isBlank ++ (trim text ++ back) := by rw [hback]; rfl
    _ = text.takeWhile isBlank ++ trim text ++ back := (List.append_assoc _ _ _).symm

/-- A text without breaks is its only line. -/
theorem lines_of_forall_not (hsome : text ≠ []) (h : ∀ c ∈ text, isLineBreak c = false) :
    lines text = [text] := by
  induction text with
  | nil => exact absurd rfl hsome
  | cons c rest ih =>
    obtain ⟨hc, hrest⟩ := List.forall_mem_cons.mp h
    have hreturn : c ≠ '\r' := by
      rintro rfl
      exact Bool.noConfusion hc
    rw [lines.eq_3 c rest fun _ hcr _ ↦ hreturn hcr, if_neg (by simp [hc])]
    cases hmore : rest with
    | nil => rfl
    | cons d more => rw [← hmore, ih (by simp [hmore]) hrest]

end Text

namespace PowerShell

open Text

/-! ### What a snippet runs -/

/-- Whether a word begins behind a character. -/
def isWordBreak (c : Char) : Bool := isBlank c || c == ';'

/-- The text before the first number sign that begins a word. Whether a word can begin with the
first character is given. -/
def upToComment (fresh : Bool) : List Char → List Char
  | [] => []
  | c :: rest => if fresh && c == '#' then [] else c :: upToComment (isWordBreak c) rest

/-- The pieces of a text between semicolons, without blanks around them and without empty ones. -/
def pieces (text : List Char) : List (List Char) :=
  ((text.splitOn ';').map trim).filter fun piece ↦ !piece.isEmpty

/-- What a line runs. -/
def lineCommands (line : List Char) : List (List Char) := pieces (upToComment true line)

/-- What a snippet runs, line by line. -/
def commands (text : List Char) : List (List Char) := (lines text).flatMap lineCommands

/-- Whether a line has a comment behind something else. -/
def TrailsComment (line : List Char) : Prop :=
  upToComment true line ≠ line ∧ ∃ c ∈ upToComment true line, isBlank c = false

instance (line : List Char) : Decidable (TrailsComment line) := inferInstanceAs (Decidable (_ ∧ _))

/-- The lines up to the first one with a comment behind something else. -/
def throughComment : List (List Char) → List (List Char)
  | [] => []
  | line :: rest => if TrailsComment line then [line] else line :: throughComment rest

variable {text line first : List Char} {fresh : Bool}

/-! ### Comments -/

theorem upToComment_prefix (fresh : Bool) (text : List Char) : upToComment fresh text <+: text := by
  induction text generalizing fresh with
  | nil => exact List.prefix_refl _
  | cons c rest ih =>
    rw [upToComment]
    split
    · exact List.nil_prefix
    · exact List.cons_prefix_cons.mpr ⟨rfl, ih _⟩

/-- Behind a comment nothing is read. -/
theorem upToComment_append_of_ne (h : upToComment fresh first ≠ first) (second : List Char) :
    upToComment fresh (first ++ second) = upToComment fresh first := by
  induction first generalizing fresh with
  | nil => exact absurd rfl h
  | cons c rest ih =>
    rw [List.cons_append, upToComment, upToComment]
    by_cases hcomment : (fresh && c == '#') = true
    · rw [if_pos hcomment, if_pos hcomment]
    · rw [upToComment, if_neg hcomment] at h
      rw [if_neg hcomment, if_neg hcomment, ih fun heq ↦ h (by rw [heq])]

/-- Behind a text without a comment is read on, where a word begins if its last character ends
one. -/
theorem upToComment_append_of_eq (h : upToComment fresh first = first) (second : List Char) :
    upToComment fresh (first ++ second) =
      first ++ upToComment (first.foldl (fun _ c ↦ isWordBreak c) fresh) second := by
  induction first generalizing fresh with
  | nil => rfl
  | cons c rest ih =>
    rw [upToComment] at h
    split_ifs at h with hcomment
    rw [List.cons_append, upToComment, if_neg hcomment, ih (List.cons.inj h).2]
    rfl

/-- Behind a text without a comment and a semicolon a word begins. -/
theorem upToComment_append_separator (h : upToComment fresh first = first) (second : List Char) :
    upToComment fresh (first ++ ';' :: ' ' :: second) =
      first ++ ';' :: ' ' :: upToComment true second := by
  have hblank : isWordBreak ' ' = true := by decide
  simp [upToComment_append_of_eq h, upToComment, hblank]

/-- Blanks hold no comment. -/
theorem upToComment_of_blank (h : ∀ c ∈ text, isBlank c = true) :
    upToComment fresh text = text := by
  induction text generalizing fresh with
  | nil => rfl
  | cons c rest ih =>
    obtain ⟨hc, hrest⟩ := List.forall_mem_cons.mp h
    have hne : c ≠ '#' := by
      rintro rfl
      exact absurd hc (by decide)
    rw [upToComment, if_neg (by simp [hne]), ih hrest]

/-- Behind blanks a word begins. -/
theorem upToComment_blank_append (h : ∀ c ∈ first, isBlank c = true) (second : List Char) :
    upToComment true (first ++ second) = first ++ upToComment true second := by
  rw [upToComment_append_of_eq (upToComment_of_blank h)]
  congr 2
  -- each of them ends a word
  induction first with
  | nil => rfl
  | cons c rest ih =>
    obtain ⟨hc, hrest⟩ := List.forall_mem_cons.mp h
    rw [List.foldl_cons, isWordBreak, hc]
    exact ih hrest

/-! ### Pieces -/

theorem pieces_append_semicolon (first second : List Char) :
    pieces (first ++ ';' :: second) = pieces first ++ pieces second := by
  simp [pieces, List.splitOn_eq_splitOnP, List.splitOnP_append_cons first second]

theorem pieces_cons_of_blank {c : Char} (hc : isBlank c = true) (text : List Char) :
    pieces (c :: text) = pieces text := by
  have hne : c ≠ ';' := by
    rintro rfl
    exact absurd hc (by decide)
  obtain ⟨piece, others, hsplit⟩ := List.exists_cons_of_ne_nil (List.splitOn_ne_nil ';' text)
  simp [pieces, List.splitOn_cons_eq_if_modifyHead, hne, hsplit, trim_cons_of_blank hc]

theorem pieces_blank_append (h : ∀ c ∈ first, isBlank c = true) (second : List Char) :
    pieces (first ++ second) = pieces second := by
  induction first with
  | nil => rfl
  | cons c rest ih =>
    obtain ⟨hc, hrest⟩ := List.forall_mem_cons.mp h
    rw [List.cons_append, pieces_cons_of_blank hc, ih hrest]

theorem pieces_append_blank (text : List Char) {ends : List Char}
    (hends : ∀ c ∈ ends, isBlank c = true) : pieces (text ++ ends) = pieces text := by
  by_cases hsemicolon : ';' ∈ text
  · obtain ⟨before, behind, htext⟩ := List.append_of_mem hsemicolon
    rw [htext, List.append_assoc, List.cons_append, pieces_append_semicolon,
      pieces_append_semicolon,
      pieces_append_blank behind hends]
  · have hnone : ';' ∉ text ++ ends := by
      rw [List.mem_append, not_or]
      exact ⟨hsemicolon, fun hmem ↦ absurd (hends _ hmem) (by decide)⟩
    have hsingle : ∀ {piece : List Char}, ';' ∉ piece → piece.splitOn ';' = [piece] := by
      intro piece hpiece
      refine List.splitOnP_eq_singleton fun c hc ↦ beq_eq_false_iff_ne.mpr ?_
      rintro rfl
      exact hpiece hc
    rw [pieces, pieces, hsingle hnone, hsingle hsemicolon, List.map_singleton, List.map_singleton,
      trim_append_of_blank text hends]
termination_by text.length
decreasing_by
  rw [htext, List.length_append, List.length_cons]
  omega

/-! ### Lines without blanks around them -/

/-- Behind the text of a line only blanks are left out, which hold no comment. -/
theorem upToComment_trim_cases (line : List Char) :
    (upToComment true (trim line) = trim line ∧ upToComment true line = line ∧
      pieces line = pieces (trim line)) ∨
    (upToComment true (trim line) ≠ trim line ∧ upToComment true line ≠ line ∧
      ∃ front, (∀ c ∈ front, isBlank c = true) ∧
        upToComment true line = front ++ upToComment true (trim line)) := by
  obtain ⟨front, back, hline, hfront, hback⟩ := exists_append_trim line
  rw [List.append_assoc] at hline
  have hread : upToComment true line = front ++ upToComment true (trim line ++ back) :=
    calc upToComment true line = upToComment true (front ++ (trim line ++ back)) := by rw [← hline]
      _ = front ++ upToComment true (trim line ++ back) := upToComment_blank_append hfront _
  by_cases hcomment : upToComment true (trim line) = trim line
  · refine .inl ⟨hcomment, ?_, ?_⟩
    · rw [hread, upToComment_append_of_eq hcomment, upToComment_of_blank hback, ← hline]
    · calc pieces line = pieces (front ++ (trim line ++ back)) := by rw [← hline]
        _ = pieces (trim line) := by rw [pieces_blank_append hfront, pieces_append_blank _ hback]
  · rw [upToComment_append_of_ne hcomment] at hread
    refine .inr ⟨hcomment, fun hall ↦ hcomment ?_, front, hfront, hread⟩
    -- less than the text cannot be all of the line
    have hlength := congrArg List.length (hread.symm.trans (hall.trans hline))
    have hprefix := upToComment_prefix true (trim line)
    refine hprefix.eq_of_length_le ?_
    simp only [List.length_append] at hlength
    omega

theorem lineCommands_trim (line : List Char) : lineCommands (trim line) = lineCommands line := by
  rcases upToComment_trim_cases line with ⟨htrim, hline, hpieces⟩ | ⟨-, -, front, hfront, hline⟩
  · rw [lineCommands, lineCommands, htrim, hline, hpieces]
  · rw [lineCommands, lineCommands, hline, pieces_blank_append hfront]

theorem trailsComment_trim (line : List Char) : TrailsComment (trim line) ↔ TrailsComment line := by
  unfold TrailsComment
  rcases upToComment_trim_cases line with ⟨htrim, hline, -⟩ | ⟨htrim, hline, front, hfront, hread⟩
  · simp [htrim, hline]
  · rw [and_iff_right htrim, and_iff_right hline, hread]
    refine ⟨fun ⟨c, hc, hfilled⟩ ↦ ⟨c, List.mem_append_right _ hc, hfilled⟩, ?_⟩
    rintro ⟨c, hc, hfilled⟩
    rcases List.mem_append.mp hc with hblank | hmem
    · rw [hfront c hblank] at hfilled
      cases hfilled
    · exact ⟨c, hmem, hfilled⟩

/-- A line that is kept has a comment exactly if it has one behind something else. -/
theorem trailsComment_iff_of_isStatement (h : isStatement (trim line) = true) :
    TrailsComment line ↔ upToComment true (trim line) ≠ trim line := by
  rw [← trailsComment_trim]
  refine ⟨And.left, fun hcomment ↦ ⟨hcomment, ?_⟩⟩
  cases htrim : trim line with
  | nil =>
    rw [htrim] at h
    cases h
  | cons c rest =>
    have hne : c ≠ '#' := by simpa [htrim, isStatement] using h
    refine ⟨c, ?_, head?_trim line c (by rw [htrim]; rfl)⟩
    rw [upToComment, if_neg (by simp [hne])]
    exact List.mem_cons_self

/-- A line that is left out runs nothing. -/
theorem upToComment_trim_of_not_isStatement (h : ¬ isStatement (trim line) = true) :
    upToComment true (trim line) = [] := by
  cases htrim : trim line with
  | nil => rfl
  | cons c rest =>
    have hc : c = '#' := by simpa [htrim, isStatement] using h
    rw [upToComment, if_pos (by simp [hc])]

/-! ### One line -/

/-- What stands behind a line without a comment and a semicolon is run after it. -/
theorem lineCommands_append_separator (h : upToComment true first = first) (second : List Char) :
    lineCommands (first ++ ';' :: ' ' :: second) = lineCommands first ++ lineCommands second := by
  rw [lineCommands, upToComment_append_separator h, pieces_append_semicolon,
    pieces_cons_of_blank (by decide), lineCommands, lineCommands, h]

/-- Lines that are made one run what they run up to the first one with a comment behind something
else. -/
theorem lineCommands_intercalate (all : List (List Char)) :
    lineCommands ([';', ' '].intercalate ((all.map trim).filter isStatement)) =
      (throughComment all).flatMap lineCommands := by
  induction all with
  | nil => rfl
  | cons line rest ih =>
    rw [List.map_cons, throughComment]
    by_cases hkept : isStatement (trim line) = true
    · have htrails := trailsComment_iff_of_isStatement hkept
      rw [List.filter_cons_of_pos hkept]
      generalize (rest.map trim).filter isStatement = others at ih ⊢
      by_cases hcomment : upToComment true (trim line) = trim line
      · have hplain : ¬ TrailsComment line := fun htrail ↦ htrails.mp htrail hcomment
        rw [if_neg hplain, List.flatMap_cons, ← ih, ← lineCommands_trim line]
        cases others with
        | nil =>
          rw [List.intercalate_singleton, List.intercalate_nil]
          exact (List.append_nil _).symm
        | cons next more =>
          rw [List.intercalate_cons_cons, List.append_assoc]
          exact lineCommands_append_separator hcomment _
      · rw [if_pos (htrails.mpr hcomment), List.flatMap_singleton, ← lineCommands_trim line]
        obtain ⟨behind, hbehind⟩ : ∃ behind,
            [';', ' '].intercalate (trim line :: others) = trim line ++ behind := by
          cases others with
          | nil => exact ⟨[], by simp⟩
          | cons next more => exact ⟨_, List.intercalate_cons_cons.trans (List.append_assoc _ _ _)⟩
        rw [hbehind, lineCommands, lineCommands, upToComment_append_of_ne hcomment]
    · have hnone := upToComment_trim_of_not_isStatement hkept
      have hplain : ¬ TrailsComment line := by
        rw [← trailsComment_trim, TrailsComment, hnone]
        simp
      have hempty : lineCommands line = [] := by
        rw [← lineCommands_trim, lineCommands, hnone]
        rfl
      rw [List.filter_cons_of_neg hkept, if_neg hplain, List.flatMap_cons, hempty, ih,
        List.nil_append]

/-- A snippet in one line runs the lines up to the first one with a comment behind something
else. -/
theorem commands_inline (text : List Char) :
    commands (inline text) = (throughComment (lines text)).flatMap lineCommands := by
  have hinline : lineCommands (inline text) = (throughComment (lines text)).flatMap lineCommands :=
    lineCommands_intercalate (lines text)
  rw [commands, ← hinline]
  by_cases hempty : inline text = []
  · rw [hempty]
    rfl
  · rw [lines_of_forall_not hempty (isFlat_inline text).no_break, List.flatMap_singleton]

theorem throughComment_prefix (all : List (List Char)) : throughComment all <+: all := by
  induction all with
  | nil => exact List.prefix_refl _
  | cons line rest ih =>
    rw [throughComment]
    split_ifs
    · exact List.cons_prefix_cons.mpr ⟨rfl, List.nil_prefix⟩
    · exact List.cons_prefix_cons.mpr ⟨rfl, ih⟩

/-- Nothing that is run comes behind the first line with a comment behind something else exactly if
nothing comes behind any of them. -/
theorem flatMap_throughComment_eq_iff (all : List (List Char)) :
    (throughComment all).flatMap lineCommands = all.flatMap lineCommands ↔
      all.Pairwise fun line other ↦ TrailsComment line → lineCommands other = [] := by
  induction all with
  | nil => simp [throughComment]
  | cons line rest ih =>
    rw [throughComment, List.pairwise_cons, List.flatMap_cons]
    by_cases htrail : TrailsComment line
    · rw [if_pos htrail, List.flatMap_singleton, List.self_eq_append_right, List.flatMap_eq_nil_iff]
      refine ⟨fun hnone ↦ ⟨fun other hother _ ↦ hnone other hother, ?_⟩, fun h other hother ↦
        h.1 other hother htrail⟩
      exact List.pairwise_iff_forall_sublist.mpr fun hsub _ ↦
        hnone _ (hsub.subset (List.mem_cons_of_mem _ List.mem_cons_self))
    · rw [if_neg htrail, List.flatMap_cons, List.append_cancel_left_eq, ih]
      exact ⟨fun h ↦ ⟨fun _ _ hline ↦ absurd hline htrail, h⟩, And.right⟩

/-- A snippet in one line runs the commands of the snippet up to the first line with a comment
behind something else, in order and nothing besides. It runs all of them exactly if no line that
runs something comes behind a line with such a comment. -/
theorem commands_inline_iff (text : List Char) :
    commands (inline text) = (throughComment (lines text)).flatMap lineCommands ∧
    commands (inline text) <+: commands text ∧
    (commands (inline text) = commands text ↔
      (lines text).Pairwise fun line other ↦ TrailsComment line → lineCommands other = []) := by
  rw [commands_inline]
  refine ⟨rfl, ?_, flatMap_throughComment_eq_iff (lines text)⟩
  obtain ⟨others, hothers⟩ := throughComment_prefix (lines text)
  refine ⟨others.flatMap lineCommands, ?_⟩
  rw [← List.flatMap_append, hothers, commands]

/-- Comments on lines of their own and one at the end take nothing away. -/
example : commands (inline "$a = 1\n# note\n\n  f $a; g # last".toList) =
    ["$a = 1".toList, "f $a".toList, "g".toList] := by
  decide

/-- A command on the line after a comment that stands behind another command is not run once the
snippet is in one line. -/
theorem commands_inline_of_trailing :
    ('\'' ∉ "a # note\nb".toList ∧ '\x22' ∉ "a # note\nb".toList ∧
      '\x60' ∉ "a # note\nb".toList ∧ '<' ∉ "a # note\nb".toList) ∧
    commands "a # note\nb".toList = [['a'], ['b']] ∧
    inline "a # note\nb".toList = "a # note; b".toList ∧
    commands (inline "a # note\nb".toList) = [['a']] := by
  decide

end PowerShell

end Scriptorium
