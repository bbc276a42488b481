/-!
# Blank characters

Which characters count as blank, the three ways to strip them from the ends of a text, and the words
that they separate. Stripping one end leaves a beginning of the text (`trimRightWhile_prefix`) that
does not end in the class (`getLast?_trimRightWhile`), and nothing exactly of a text whose
characters are all of the class (`trimRightWhile_eq_nil_iff`).
-/

set_option autoImplicit false
set_option relaxedAutoImplicit false

namespace Scriptorium.Text

/-- The code points of the blank characters. The zero-width space and the byte order mark are not
among them. -/
def blankCodes : List Nat :=
  [0x9, 0xa, 0xb, 0xc, 0xd, 0x1c, 0x1d, 0x1e, 0x1f, 0x20, 0x85, 0xa0, 0x1680,
   0x2000, 0x2001, 0x2002, 0x2003, 0x2004, 0x2005, 0x2006, 0x2007, 0x2008, 0x2009, 0x200a,
   0x2028, 0x2029, 0x202f, 0x205f, 0x3000]

/-- A blank character. -/
def isBlank (c : Char) : Bool := blankCodes.contains c.toNat

/-- The text without its leading blanks. -/
def trimLeft (text : List Char) : List Char := text.dropWhile isBlank

/-- The text without its trailing characters of a class. -/
def trimRightWhile (p : Char → Bool) : List Char → List Char
  | [] => []
  | c :: rest =>
    match trimRightWhile p rest with
    | [] => if p c then [] else [c]
    | kept => c :: kept

/-- The text without its trailing blanks. -/
def trimRight (text : List Char) : List Char := trimRightWhile isBlank text

/-- The text without blanks at either end. -/
def trim (text : List Char) : List Char := trimRight (trimLeft text)

/-- A text with no character but blanks. -/
def isBlankText (text : List Char) : Bool := text.all isBlank

/-- The maximal runs of characters of a class, in order. -/
def runs (p : Char → Bool) : List Char → List (List Char)
  | [] => []
  | [c] => if p c then [[c]] else []
  | c :: d :: rest =>
    if p c then
      if p d then
        match runs p (d :: rest) with
        | [] => [[c]]
        | run :: others => (c :: run) :: others
      else [c] :: runs p (d :: rest)
    else runs p (d :: rest)

/-- The words of a text: what its blanks separate. -/
def words (text : List Char) : List (List Char) := runs (fun c ↦ !isBlank c) text

theorem trimRightWhile_eq_nil_iff (p : Char → Bool) (text : List Char) :
    trimRightWhile p text = [] ↔ ∀ c ∈ text, p c := by
  induction text with
  | nil => simp [trimRightWhile]
  | cons c rest ih =>
    unfold trimRightWhile
    split
    · rename_i h
      by_cases hc : p c
      · simpa [hc] using ih.1 h
      · simp [hc]
    · rename_i h
      constructor
      · intro hnil
        cases hnil
      · intro hall
        exact absurd (ih.2 fun d hd ↦ hall d (List.mem_cons_of_mem _ hd)) h

theorem trimRightWhile_cons_of_not {p : Char → Bool} {c : Char} (h : p c = false)
    (rest : List Char) :
    trimRightWhile p (c :: rest) = c :: trimRightWhile p rest := by
  rw [trimRightWhile]
  split
  · rename_i hnil
    rw [hnil, h]
    rfl
  · rfl

/-- Nothing is taken off a text that ends in a character of another class. -/
theorem trimRightWhile_concat {p : Char → Bool} (front : List Char) {c : Char}
    (hc : p c = false) : trimRightWhile p (front ++ [c]) = front ++ [c] := by
  induction front with
  | nil => simp [trimRightWhile, hc]
  | cons d rest ih =>
    rw [List.cons_append, trimRightWhile, ih]
    cases rest <;> rfl

theorem trimRightWhile_prefix (p : Char → Bool) (text : List Char) :
    trimRightWhile p text <+: text := by
  induction text with
  | nil => exact List.prefix_refl _
  | cons c rest ih =>
    rw [trimRightWhile]
    split
    · split
      · exact List.nil_prefix
      · exact ⟨rest, rfl⟩
    · exact List.cons_prefix_cons.2 ⟨rfl, ih⟩

/-- What is left out at the end of a text is of the class. -/
theorem exists_trimRightWhile_append (p : Char → Bool) (text : List Char) :
    ∃ ends, text = trimRightWhile p text ++ ends ∧ ∀ c ∈ ends, p c = true := by
  induction text with
  | nil => exact ⟨[], rfl, by simp⟩
  | cons c rest ih =>
    obtain ⟨ends, hrest, hends⟩ := ih
    rw [trimRightWhile]
    split
    · rename_i hnil
      rw [hnil, List.nil_append] at hrest
      subst hrest
      by_cases hc : p c = true
      · refine ⟨c :: rest, by simp [hc], ?_⟩
        simpa [hc] using hends
      · exact ⟨rest, by simp [hc], hends⟩
    · exact ⟨ends, by rw [List.cons_append, ← hrest], hends⟩

/-- What is kept of a text does not end in a character of the class. -/
theorem getLast?_trimRightWhile (p : Char → Bool) (text : List Char) :
    ∀ c ∈ (trimRightWhile p text).getLast?, p c = false := by
  induction text with
  | nil => simp [trimRightWhile]
  | cons c rest ih =>
    rw [trimRightWhile]
    split
    · by_cases hc : p c = true <;> simp [hc]
    · rename_i hkept
      rwa [List.getLast?_cons_of_ne_nil hkept]

theorem trim_of_blank {text : List Char} (h : ∀ c ∈ text, isBlank c = true) : trim text = [] := by
  induction text with
  | nil => rfl
  | cons c rest ih =>
    have hrest := ih fun d hd ↦ h d (List.mem_cons_of_mem c hd)
    rw [trim, trimLeft] at hrest ⊢
    rwa [List.dropWhile_cons_of_pos (h c List.mem_cons_self)]

end Scriptorium.Text
