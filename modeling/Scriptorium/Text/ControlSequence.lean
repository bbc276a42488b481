/-!
# Control sequences

What tells a terminal how to show a text: an escape and a bracket, numbers with marks between them,
and a letter. A text that is printed, but not on a terminal, goes without them. It is printed as it
is exactly if there are none in it (`dropSequences_eq_self_iff`).
-/

set_option autoImplicit false
set_option relaxedAutoImplicit false

namespace Scriptorium.Text

/-- Whether a character can stand between the bracket and the letter of a control sequence. -/
def isParameter (c : Char) : Bool := c.isDigit || c == ';' || c == '?'

/-- The length of the control sequence that a text begins with, if it begins with one. -/
def sequenceLength? : List Char → Option Nat
  | '\x1b' :: '[' :: rest =>
    match rest.dropWhile isParameter with
    | [] => none
    | final :: _ =>
      if final.isAlpha then some ((rest.takeWhile isParameter).length + 3) else none
  | _ => none

/-- What is left without control sequences behind so many characters of a text. -/
def dropSequencesAfter : Nat → List Char → List Char
  | _, [] => []
  | skipped + 1, _ :: rest => dropSequencesAfter skipped rest
  | 0, c :: rest =>
    match sequenceLength? (c :: rest) with
    | some length => dropSequencesAfter (length - 1) rest
    | none => c :: dropSequencesAfter 0 rest

/-- A text without its control sequences. -/
def dropSequences (text : List Char) : List Char := dropSequencesAfter 0 text

/-- Whether a text begins with a control sequence. -/
def BeginsWithSequence (text : List Char) : Prop :=
  ∃ parameters final after, text = '\x1b' :: '[' :: (parameters ++ final :: after) ∧
    (∀ c ∈ parameters, isParameter c = true) ∧ final.isAlpha = true

/-- Whether there is a control sequence in a text. -/
def HasSequence (text : List Char) : Prop :=
  ∃ before rest, text = before ++ rest ∧ BeginsWithSequence rest

variable {text : List Char}

/-- A letter is no number and no mark. -/
theorem isParameter_of_isAlpha {c : Char} (h : c.isAlpha = true) : isParameter c = false := by
  have hdigit : c.isDigit = false := by
    have hranges : (decide (65 ≤ c.val ∧ c.val ≤ 90) ||
        (decide (97 ≤ c.val) && decide (c.val ≤ 122))) = true := h
    show (decide (48 ≤ c.val) && decide (c.val ≤ 57)) = false
    grind
  have hsemicolon : c ≠ ';' := by
    rintro rfl
    exact absurd h (by decide)
  have hquestion : c ≠ '?' := by
    rintro rfl
    exact absurd h (by decide)
  simp [isParameter, hdigit, hsemicolon, hquestion]

/-- A length is found exactly for a text that begins with a control sequence. -/
theorem isSome_sequenceLength?_iff : (sequenceLength? text).isSome ↔ BeginsWithSequence text := by
  constructor
  · intro h
    unfold sequenceLength? at h
    split at h
    · rename_i rest
      split at h
      · cases h
      · rename_i final after hfinal
        split at h
        · rename_i hletter
          refine ⟨rest.takeWhile isParameter, final, after, ?_, ?_, hletter⟩
          · rw [← hfinal, List.takeWhile_append_dropWhile]
          · exact List.all_eq_true.mp List.all_takeWhile
        · cases h
    · cases h
  · rintro ⟨parameters, final, after, rfl, hparameters, hletter⟩
    have hfinal : (parameters ++ final :: after).dropWhile isParameter = final :: after := by
      rw [List.dropWhile_append_of_pos hparameters,
        List.dropWhile_cons_of_neg (by simp [isParameter_of_isAlpha hletter])]
    simp [sequenceLength?, hfinal, hletter]

/-- Nothing is put into a text. -/
theorem length_dropSequencesAfter_le (skipped : Nat) (text : List Char) :
    (dropSequencesAfter skipped text).length ≤ text.length := by
  fun_induction dropSequencesAfter skipped text with
  | case1 => exact Nat.le_refl 0
  | case2 skipped c rest ih => exact Nat.le_succ_of_le ih
  | case3 c rest length hlength ih => exact Nat.le_succ_of_le ih
  | case4 c rest hnone ih => exact Nat.succ_le_succ ih

/-- A control sequence that a text begins with is left out. -/
theorem dropSequences_cons_ne {c : Char} {rest : List Char} (h : BeginsWithSequence (c :: rest)) :
    dropSequences (c :: rest) ≠ c :: rest := by
  obtain ⟨length, hlength⟩ := Option.isSome_iff_exists.mp (isSome_sequenceLength?_iff.mpr h)
  have hshorter : (dropSequences (c :: rest)).length < (c :: rest).length := by
    rw [dropSequences, dropSequencesAfter, hlength]
    exact Nat.lt_succ_of_le (length_dropSequencesAfter_le _ rest)
  exact fun heq ↦ absurd (congrArg List.length heq) (Nat.ne_of_lt hshorter)

/-- The first character stays if no control sequence begins with it. -/
theorem dropSequences_cons {c : Char} {rest : List Char} (h : ¬ BeginsWithSequence (c :: rest)) :
    dropSequences (c :: rest) = c :: dropSequences rest := by
  have hnone : sequenceLength? (c :: rest) = none := by
    rw [← Option.not_isSome_iff_eq_none, isSome_sequenceLength?_iff]
    exact h
  rw [dropSequences, dropSequencesAfter, hnone, dropSequences]

theorem not_beginsWithSequence_nil : ¬ BeginsWithSequence [] := by
  rintro ⟨parameters, final, after, h, -⟩
  cases h

/-- There is a control sequence at the start of a text, or behind its first character. -/
theorem hasSequence_cons {c : Char} {rest : List Char} :
    HasSequence (c :: rest) ↔ BeginsWithSequence (c :: rest) ∨ HasSequence rest := by
  constructor
  · rintro ⟨before, found, h, hfound⟩
    cases before with
    | nil => exact .inl (h ▸ hfound)
    | cons first others =>
      obtain ⟨-, rfl⟩ := List.cons.inj h
      exact .inr ⟨others, found, rfl, hfound⟩
  · rintro (hfirst | ⟨before, found, rfl, hfound⟩)
    · exact ⟨[], c :: rest, rfl, hfirst⟩
    · exact ⟨c :: before, found, rfl, hfound⟩

/-- A text stays exactly if there is no control sequence in it. -/
theorem dropSequences_eq_self_iff : dropSequences text = text ↔ ¬ HasSequence text := by
  induction text with
  | nil =>
    refine iff_of_true rfl ?_
    rintro ⟨before, found, h, hfound⟩
    obtain ⟨-, rfl⟩ := List.append_eq_nil_iff.mp h.symm
    exact not_beginsWithSequence_nil hfound
  | cons c rest ih =>
    rw [hasSequence_cons]
    by_cases hfirst : BeginsWithSequence (c :: rest)
    · exact iff_of_false (dropSequences_cons_ne hfirst) fun h ↦ h (.inl hfirst)
    · rw [dropSequences_cons hfirst, List.cons.injEq, ih, not_or]
      exact ⟨fun h ↦ ⟨hfirst, h.2⟩, fun h ↦ ⟨rfl, h.2⟩⟩

/-- What stands around a control sequence does not matter. -/
theorem HasSequence.append (h : HasSequence text) (before after : List Char) :
    HasSequence (before ++ text ++ after) := by
  obtain ⟨earlier, found, rfl, parameters, final, later, rfl, hparameters, hletter⟩ := h
  refine ⟨before ++ earlier, _, ?_, parameters, final, later ++ after, rfl, hparameters, hletter⟩
  simp

/-- In what has no escape no control sequence begins. -/
theorem hasSequence_append_of_not_mem {first second : List Char} (h : '\x1b' ∉ first) :
    HasSequence (first ++ second) ↔ HasSequence second := by
  induction first with
  | nil => rfl
  | cons c rest ih =>
    have hfirst : ¬ BeginsWithSequence (c :: (rest ++ second)) := by
      rintro ⟨parameters, final, after, heq, -⟩
      obtain ⟨rfl, -⟩ := List.cons.inj heq
      exact h List.mem_cons_self
    rw [List.cons_append, hasSequence_cons, or_iff_right hfirst,
      ih fun hmem ↦ h (List.mem_cons_of_mem c hmem)]

/-- A line feed at the end is no part of a control sequence. -/
theorem hasSequence_append_lineFeed : HasSequence (text ++ ['\n']) ↔ HasSequence text := by
  constructor
  · rintro ⟨before, found, h, parameters, final, after, rfl, hparameters, hletter⟩
    rcases List.eq_nil_or_concat after with rfl | ⟨others, last, rfl⟩
    · have hlast : text ++ ['\n'] = (before ++ '\x1b' :: '[' :: parameters) ++ [final] := by
        rw [h]
        simp
      obtain rfl := List.singleton_inj.mp (List.append_inj' hlast rfl).2
      exact absurd hletter (by decide)
    · refine ⟨before, _, ?_, parameters, final, others, rfl, hparameters, hletter⟩
      have hlast : text ++ ['\n'] =
          (before ++ '\x1b' :: '[' :: (parameters ++ final :: others)) ++ [last] := by
        rw [h]
        simp
      exact (List.append_inj' hlast rfl).1
  · rintro ⟨before, found, rfl, parameters, final, after, rfl, hparameters, hletter⟩
    exact ⟨before, _, by simp, parameters, final, after ++ ['\n'], rfl, hparameters, hletter⟩

end Scriptorium.Text
