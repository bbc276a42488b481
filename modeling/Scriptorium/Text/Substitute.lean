/-!
# Substitution

Replacing the occurrences of one text in another, from left to right and without overlap. The empty
text occurs before every character and at the end. Replacing all occurrences of a text that is not
empty has two laws: one that begins the text is replaced (`replaceAll_append`), and a character at
which none begins stays (`replaceAll_cons_of_not`).
-/

set_option autoImplicit false
set_option relaxedAutoImplicit false

namespace Scriptorium.Text

/-- What follows `start` in `text`, if `text` begins with it. -/
def dropPrefix? : List Char → List Char → Option (List Char)
  | [], text => some text
  | s :: start, c :: text => if s == c then dropPrefix? start text else none
  | _ :: _, [] => none

theorem dropPrefix?_eq_some_iff {start text rest : List Char} :
    dropPrefix? start text = some rest ↔ text = start ++ rest := by
  induction start generalizing text with
  | nil => simp [dropPrefix?]
  | cons s start ih =>
    cases text with
    | nil => simp [dropPrefix?]
    | cons c text =>
      by_cases hc : s = c
      · simp [dropPrefix?, hc, ih]
      · simp [dropPrefix?, hc, Ne.symm hc]

theorem length_of_dropPrefix? {start text rest : List Char}
    (h : dropPrefix? start text = some rest) :
    text.length = start.length + rest.length := by
  rw [dropPrefix?_eq_some_iff.mp h, List.length_append]

/-- Puts `new` before each of the first `limit` characters, and at the end if any is left to put. -/
def interleave (new : List Char) : Nat → List Char → List Char
  | 0, text => text
  | _ + 1, [] => new
  | limit + 1, c :: text => new ++ c :: interleave new limit text

/-- Replaces the first `limit` occurrences of a text that is not empty. -/
def replaceSome (old new : List Char) (h : old ≠ []) (limit : Nat) (text : List Char) : List Char :=
  match limit, text with
  | 0, text => text
  | _, [] => []
  | limit + 1, c :: rest =>
    match step : dropPrefix? old (c :: rest) with
    | some after => new ++ replaceSome old new h limit after
    | none => c :: replaceSome old new h (limit + 1) rest
termination_by text.length
decreasing_by
  · have := length_of_dropPrefix? step
    have : 0 < old.length := List.length_pos_iff.2 h
    omega
  · simp

/-- Replaces the first `limit` occurrences of `old` by `new`. -/
def replaceFirst (old new : List Char) (limit : Nat) (text : List Char) : List Char :=
  if h : old = [] then interleave new limit text else replaceSome old new h limit text

/-- Replaces every occurrence of `old` by `new`. -/
def replaceAll (old new text : List Char) : List Char :=
  replaceFirst old new (text.length + 1) text

variable {old new text : List Char} {limit : Nat}

theorem replaceSome_nil (h : old ≠ []) (limit : Nat) : replaceSome old new h limit [] = [] := by
  cases limit <;> simp [replaceSome]

/-- An occurrence at the beginning is replaced, and the text after it is read on. -/
theorem replaceSome_append (h : old ≠ []) (limit : Nat) (rest : List Char) :
    replaceSome old new h (limit + 1) (old ++ rest) = new ++ replaceSome old new h limit rest := by
  obtain ⟨c, more, hcons⟩ := List.exists_cons_of_ne_nil (List.append_ne_nil_of_left_ne_nil h rest)
  rw [hcons, replaceSome]
  split
  · rename_i after hafter
    rw [dropPrefix?_eq_some_iff, ← hcons] at hafter
    rw [List.append_cancel_left hafter]
  · rename_i hnone
    cases hnone.symm.trans (dropPrefix?_eq_some_iff.mpr hcons.symm)

/-- A character at which no occurrence begins stays. -/
theorem replaceSome_cons_of_not (h : old ≠ []) {c : Char} {rest : List Char}
    (hnot : ¬ old <+: c :: rest) (limit : Nat) :
    replaceSome old new h limit (c :: rest) = c :: replaceSome old new h limit rest := by
  cases limit with
  | zero => simp [replaceSome]
  | succ limit =>
    rw [replaceSome]
    split
    · rename_i after hafter
      exact absurd ⟨after, (dropPrefix?_eq_some_iff.mp hafter).symm⟩ hnot
    · rfl

/-- A limit that is as large as the text is none. -/
theorem replaceSome_of_length_le (h : old ≠ []) {other : Nat} (hlimit : text.length ≤ limit)
    (hother : text.length ≤ other) :
    replaceSome old new h limit text = replaceSome old new h other text := by
  fun_induction replaceSome old new h limit text generalizing other with
  | case1 text =>
    obtain rfl := List.length_eq_zero_iff.mp (Nat.le_zero.mp hlimit)
    exact (replaceSome_nil h other).symm
  | case2 => exact (replaceSome_nil h other).symm
  | case3 limit c rest after hstep ih =>
    have hlength := length_of_dropPrefix? hstep
    have hold := List.length_pos_iff.mpr h
    cases other with
    | zero => cases hother
    | succ other =>
      have hrest : replaceSome old new h limit after = replaceSome old new h other after :=
        ih (by omega) (by omega)
      rw [dropPrefix?_eq_some_iff.mp hstep, replaceSome_append h, hrest]
  | case4 limit c rest hstep ih =>
    have hnot : ¬ old <+: c :: rest := by
      rintro ⟨after, hafter⟩
      cases hstep.symm.trans (dropPrefix?_eq_some_iff.mpr hafter.symm)
    rw [replaceSome_cons_of_not h hnot]
    exact congrArg _ (ih (Nat.le_of_succ_le hlimit) (Nat.le_of_succ_le hother))

/-- Every occurrence is replaced if as many may be as the text has characters. -/
theorem replaceAll_eq_replaceSome (h : old ≠ []) (hlimit : text.length ≤ limit) :
    replaceAll old new text = replaceSome old new h limit text := by
  rw [replaceAll, replaceFirst, dif_neg h]
  exact replaceSome_of_length_le h (Nat.le_succ _) hlimit

theorem replaceAll_nil (h : old ≠ []) : replaceAll old new [] = [] :=
  (replaceAll_eq_replaceSome h (Nat.le_refl 0)).trans (replaceSome_nil h 0)

/-- An occurrence at the beginning is replaced, and the text after it is read on. -/
theorem replaceAll_append (h : old ≠ []) (rest : List Char) :
    replaceAll old new (old ++ rest) = new ++ replaceAll old new rest := by
  have hwhole : (old ++ rest).length ≤ (old ++ rest).length + 1 := Nat.le_succ _
  have hrest : rest.length ≤ (old ++ rest).length := by simp
  rw [replaceAll_eq_replaceSome h hwhole, replaceSome_append h, replaceAll_eq_replaceSome h hrest]

/-- A character at which no occurrence begins stays. -/
theorem replaceAll_cons_of_not (h : old ≠ []) {c : Char} {rest : List Char}
    (hnot : ¬ old <+: c :: rest) :
    replaceAll old new (c :: rest) = c :: replaceAll old new rest := by
  have hrest : rest.length ≤ (c :: rest).length := Nat.le_succ _
  rw [replaceAll_eq_replaceSome h (Nat.le_refl _), replaceSome_cons_of_not h hnot,
    replaceAll_eq_replaceSome h hrest]

end Scriptorium.Text
