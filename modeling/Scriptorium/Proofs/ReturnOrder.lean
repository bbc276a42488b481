import Mathlib.Data.List.Pairwise
import Scriptorium.Proofs.ValidCode

/-!
# The order of repeated lines

In which order the lines of a code are told that stand in it more than once. A place of a line is
numbered by how often the line stands before it (`Text.IsPlace`), so that place 0 is where it first
stands and place 1 where it returns. A line is told when it returns, and so the order is that of the
places 1 (`pairwise_repeated`), whatever lines are ignored.

The order of the places 0 is another one as soon as a line stands between the first two places of
another one twice (`repeatedLines_of_nested`). If the first places of no two lines are in one order
and the returns in the other, the two orders are the same, and only then (`repeatedLines_order`).
-/

set_option autoImplicit false
set_option relaxedAutoImplicit false

namespace Scriptorium

namespace Text

/-- Whether a line stands at a place of a list of lines, `earlier` times before it. -/
structure IsPlace (lines : List (List Char)) (earlier : Nat) (line : List Char) (place : Nat) :
    Prop where
  stands : lines[place]? = some line
  before : (lines.take place).count line = earlier

/-- Whether the place of one line that is numbered `earlier` comes before that of another. -/
def Precedes (lines : List (List Char)) (earlier : Nat) (line other : List Char) : Prop :=
  ∃ i j, IsPlace lines earlier line i ∧ IsPlace lines earlier other j ∧ i < j

/-- The lines that stand in a text more than once, apart from those that are ignored, as they are
told. -/
def repeated (ignored : List Char → Bool) (text : List Char) : List (List Char) :=
  returning [] [] ((lines text).filter fun line ↦ !ignored line)

variable {lines before after : List (List Char)} {line other : List Char} {earlier : Nat}

/-! ### Places -/

/-- A line has a place of every number below the number of times that it stands there. -/
theorem exists_isPlace (h : earlier < lines.count line) : ∃ i, IsPlace lines earlier line i := by
  induction lines generalizing earlier with
  | nil => cases h
  | cons first rest ih =>
    by_cases hfirst : first = line
    · subst hfirst
      cases earlier with
      | zero => exact ⟨0, rfl, rfl⟩
      | succ earlier =>
        rw [List.count_cons_self] at h
        obtain ⟨i, hi⟩ := ih (Nat.lt_of_succ_lt_succ h)
        exact ⟨i + 1, hi.stands, by rw [List.take_succ_cons, List.count_cons_self, hi.before]⟩
    · rw [List.count_cons_of_ne hfirst] at h
      obtain ⟨i, hi⟩ := ih h
      exact ⟨i + 1, hi.stands, by rw [List.take_succ_cons, List.count_cons_of_ne hfirst, hi.before]⟩

/-- There is only one place of a number. -/
theorem IsPlace.unique {i j : Nat} (hi : IsPlace lines earlier line i)
    (hj : IsPlace lines earlier line j) : i = j := by
  have hnot : ∀ {a b : Nat}, IsPlace lines earlier line a → IsPlace lines earlier line b →
      ¬ a < b := by
    intro a b ha hb hlt
    have hprefix : (lines.take (a + 1)).Sublist (lines.take b) := List.take_sublist_take_left hlt
    have hcount := hprefix.count_le line
    rw [List.take_add_one, ha.stands, Option.toList_some, List.count_append, ha.before, hb.before,
      List.count_singleton_self] at hcount
    omega
  exact Nat.le_antisymm (Nat.le_of_not_lt (hnot hj hi)) (Nat.le_of_not_lt (hnot hi hj))

/-- If a part at the beginning has the place of one line and not that of another that has one, the
first comes before the other. -/
theorem precedes_of_append (hline : earlier < before.count line)
    (hother : before.count other ≤ earlier) (hlater : earlier < (before ++ after).count other) :
    Precedes (before ++ after) earlier line other := by
  obtain ⟨i, hi⟩ := exists_isPlace hline
  have hrest : earlier - before.count other < after.count other := by
    rw [List.count_append] at hlater
    omega
  obtain ⟨j, hj⟩ := exists_isPlace hrest
  have hlt : i < before.length := (List.getElem?_eq_some_iff.mp hi.stands).1
  refine ⟨i, before.length + j, ⟨?_, ?_⟩, ⟨?_, ?_⟩, Nat.lt_add_right j hlt⟩
  · rw [List.getElem?_append_left hlt]
    exact hi.stands
  · rw [List.take_append_of_le_length hlt.le]
    exact hi.before
  · rw [List.getElem?_append_right (Nat.le_add_right _ _), Nat.add_sub_cancel_left]
    exact hj.stands
  · rw [List.take_length_add_append, List.count_append, hj.before]
    omega

/-- Of two lines with places of a number one comes before the other. -/
theorem precedes_or_precedes (hne : line ≠ other) (hline : earlier < lines.count line)
    (hother : earlier < lines.count other) :
    Precedes lines earlier line other ∨ Precedes lines earlier other line := by
  obtain ⟨i, hi⟩ := exists_isPlace hline
  obtain ⟨j, hj⟩ := exists_isPlace hother
  rcases Nat.lt_trichotomy i j with hlt | rfl | hlt
  · exact .inl ⟨i, j, hi, hj, hlt⟩
  · exact absurd (Option.some.inj (hi.stands.symm.trans hj.stands)) hne
  · exact .inr ⟨j, i, hj, hi, hlt⟩

theorem Precedes.asymm (h : Precedes lines earlier line other) :
    ¬ Precedes lines earlier other line := by
  obtain ⟨i, j, hi, hj, hlt⟩ := h
  rintro ⟨k, l, hk, hl, hgt⟩
  have hother := hj.unique hk
  have hline := hi.unique hl
  omega

/-! ### Returns -/

/-- How often a line stood in what was seen, as far as it is known. -/
def seenTimes (seen : List (List Char)) (line : List Char) : Nat := min 1 (seen.count line)

theorem seenTimes_of_mem {seen : List (List Char)} (h : line ∈ seen) : seenTimes seen line = 1 :=
  Nat.min_eq_left (List.count_pos_iff.mpr h)

theorem seenTimes_of_not_mem {seen : List (List Char)} (h : line ∉ seen) :
    seenTimes seen line = 0 := by
  rw [seenTimes, List.count_eq_zero.mpr h, Nat.min_zero]

/-- If one line is told before another, there is a part at the beginning in which the one has
returned and the other has not. -/
theorem pairwise_returning (seen returned lines : List (List Char)) :
    (returning seen returned lines).Pairwise fun line other ↦ ∃ before after,
      lines = before ++ after ∧ 2 ≤ seenTimes seen line + before.count line ∧
        seenTimes seen other + before.count other ≤ 1 := by
  induction lines generalizing seen returned with
  | nil => exact .nil
  | cons first rest ih =>
    -- the part at the beginning of the others, with the first line before it
    have hcons : ∀ (told : List (List Char)), first ∈ told →
        (returning seen told rest).Pairwise fun line other ↦ ∃ before after,
          first :: rest = before ++ after ∧ 2 ≤ seenTimes seen line + before.count line ∧
            seenTimes seen other + before.count other ≤ 1 := by
      intro told htold
      refine (ih seen told).imp_of_mem ?_
      rintro line other hline hother ⟨before, after, rfl, hreturned, hnew⟩
      have hne : ∀ {own : List Char}, own ∈ returning seen told (before ++ after) →
          first ≠ own := by
        rintro own hown rfl
        exact (mem_returning_iff.mp hown).1 htold
      refine ⟨first :: before, after, rfl, ?_, ?_⟩
      · rwa [List.count_cons_of_ne (hne hline)]
      · rwa [List.count_cons_of_ne (hne hother)]
    rw [returning_cons]
    split
    · rename_i hseen
      split
      · rename_i htold
        exact hcons returned htold
      · refine List.pairwise_cons.mpr ⟨fun other hother ↦ ?_, hcons _ List.mem_cons_self⟩
        have hne : first ≠ other := by
          rintro rfl
          exact (mem_returning_iff.mp hother).1 List.mem_cons_self
        refine ⟨[first], rest, rfl, ?_, ?_⟩
        · rw [seenTimes_of_mem hseen, List.count_singleton_self]
        · rw [List.count_singleton, beq_eq_false_iff_ne.mpr hne]
          exact Nat.min_le_left 1 _
    · rename_i hunseen
      have htimes : ∀ (own : List Char) (before : List (List Char)),
          seenTimes (first :: seen) own + before.count own =
            seenTimes seen own + (first :: before).count own := by
        intro own before
        by_cases hown : first = own
        · subst hown
          rw [seenTimes_of_mem List.mem_cons_self, seenTimes_of_not_mem hunseen,
            List.count_cons_self]
          omega
        · rw [seenTimes, seenTimes, List.count_cons_of_ne hown, List.count_cons_of_ne hown]
      refine (ih (first :: seen) returned).imp ?_
      rintro line other ⟨before, after, rfl, hreturned, hnew⟩
      rw [htimes] at hreturned hnew
      exact ⟨first :: before, after, rfl, hreturned, hnew⟩

variable {ignored : List Char → Bool} {text : List Char}

/-- What is told stands in the text twice and is not ignored, and nothing else. -/
theorem mem_repeated_iff :
    line ∈ repeated ignored text ↔ ignored line = false ∧ 2 ≤ (Text.lines text).count line := by
  rw [repeated, mem_returning_filter_iff, Bool.not_eq_true']

/-- The lines are told in the order of the places at which they return. -/
theorem pairwise_repeated (ignored : List Char → Bool) (text : List Char) :
    (repeated ignored text).Pairwise (Precedes (Text.lines text) 1) := by
  refine (pairwise_returning [] [] _).imp_of_mem ?_
  rintro line other hline hother ⟨before, after, hsplit, hreturned, hnew⟩
  obtain ⟨hline, -⟩ := mem_repeated_iff.mp hline
  obtain ⟨hother, htwice⟩ := mem_repeated_iff.mp hother
  -- what is ignored goes back in between
  obtain ⟨first, second, htext, rfl, rfl⟩ := List.filter_eq_append_iff.mp hsplit
  rw [seenTimes_of_not_mem List.not_mem_nil, Nat.zero_add] at hreturned hnew
  rw [List.count_filter (by simpa using hline)] at hreturned
  rw [List.count_filter (by simpa using hother)] at hnew
  rw [htext] at htwice ⊢
  exact precedes_of_append hreturned hnew htwice

/-- The lines are told in the order in which they first stand exactly if no two of them return in
the other order. -/
theorem pairwise_repeated_first_iff :
    (repeated ignored text).Pairwise (Precedes (Text.lines text) 0) ↔
      ∀ line ∈ repeated ignored text, ∀ other ∈ repeated ignored text,
        Precedes (Text.lines text) 0 line other → Precedes (Text.lines text) 1 line other := by
  constructor
  · intro hfirst line hline other hother hprecedes
    have hne : line ≠ other := by
      rintro rfl
      exact hprecedes.asymm hprecedes
    -- two lines are told in one order, in which they both first stand and return
    let Agree (line other : List Char) : Prop :=
      Precedes (Text.lines text) 0 line other ∧ Precedes (Text.lines text) 1 line other
    have hsymm : Std.Symm fun line other ↦ Agree line other ∨ Agree other line :=
      ⟨fun _ _ ↦ Or.symm⟩
    have hagree : (repeated ignored text).Pairwise fun line other ↦
        Agree line other ∨ Agree other line :=
      (hfirst.and (pairwise_repeated ignored text)).imp .inl
    rcases hagree.forall hline hother hne with hforth | hback
    · exact hforth.2
    · exact absurd hback.1 hprecedes.asymm
  · intro hsame
    refine (pairwise_repeated ignored text).imp_of_mem fun {line other} hline hother hreturn ↦ ?_
    have hne : line ≠ other := by
      rintro rfl
      exact hreturn.asymm hreturn
    have hstands : ∀ {own : List Char}, own ∈ repeated ignored text →
        0 < (Text.lines text).count own := fun hown ↦ by
      have htwice := (mem_repeated_iff.mp hown).2
      omega
    refine (precedes_or_precedes hne (hstands hline) (hstands hother)).resolve_right fun hback ↦ ?_
    exact hreturn.asymm (hsame other hother line hline hback)

end Text

/-! ### The order -/

/-- The order in which repeated lines are told, in every dialect and for every other way to ignore
lines. Told are the lines that are not ignored and stand in the text at least twice, each once. If
one is told before another, it returns before the other does: its second place comes first. It is
the order of the first places exactly if no two of the lines return in the other order. -/
theorem repeatedLines_order (ignored : List Char → Bool) (text : String) :
    (∀ d : Dialect,
      d.repeatedLines text = (Text.repeated d.isIgnored text.toList).map String.ofList) ∧
    (Text.repeated ignored text.toList).Nodup ∧
    (∀ line, line ∈ Text.repeated ignored text.toList ↔
      ignored line = false ∧ 2 ≤ (Text.lines text.toList).count line) ∧
    (Text.repeated ignored text.toList).Pairwise (Text.Precedes (Text.lines text.toList) 1) ∧
    ((Text.repeated ignored text.toList).Pairwise (Text.Precedes (Text.lines text.toList) 0) ↔
      ∀ line ∈ Text.repeated ignored text.toList, ∀ other ∈ Text.repeated ignored text.toList,
        Text.Precedes (Text.lines text.toList) 0 line other →
          Text.Precedes (Text.lines text.toList) 1 line other) := by
  refine ⟨fun d ↦ rfl, ?_, fun line ↦ ?_, ?_, ?_⟩
  · exact Text.nodup_returning _ _ _
  · exact Text.mem_repeated_iff
  · exact Text.pairwise_repeated ignored text.toList
  · exact Text.pairwise_repeated_first_iff

/-- Between two lines that are the same another one stands twice. It is told first, though it first
stands behind the other. -/
theorem repeatedLines_of_nested :
    Dialect.repeatedLines .shell "a\nb\nb\na" = ["b", "a"] ∧
      Text.Precedes (Text.lines "a\nb\nb\na".toList) 0 ['a'] ['b'] ∧
      ¬ (Dialect.repeatedLines .shell "a\nb\nb\na").Pairwise fun line other ↦
        Text.Precedes (Text.lines "a\nb\nb\na".toList) 0 line.toList other.toList := by
  have htold : Dialect.repeatedLines .shell "a\nb\nb\na" = ["b", "a"] := by decide +kernel
  have hlines : Text.lines "a\nb\nb\na".toList = [['a'], ['b'], ['b'], ['a']] := by decide +kernel
  have hfirst : Text.Precedes [['a'], ['b'], ['b'], ['a']] 0 ['a'] ['b'] :=
    ⟨0, 1, ⟨rfl, by decide⟩, ⟨rfl, by decide⟩, by decide⟩
  rw [htold, hlines]
  refine ⟨rfl, hfirst, fun hordered ↦ hfirst.asymm ?_⟩
  simpa using hordered

end Scriptorium
