/-!
# Surrogates

The code points that stand for halves of characters elsewhere are no characters, but a text can hold
them. A half is held by a code point as far into a plane without characters as the half is into the
first plane. The code points of that plane that hold halves, and the mark behind them, are
themselves held by two characters: the mark, and a code point behind it. Every other code point is a
character and holds itself. So a text tells which code points it is made of
(`codes_flatMap_ofCode`), and a character of it tells whether it is half of one.
-/

set_option autoImplicit false
set_option relaxedAutoImplicit false

namespace Scriptorium.Text

/-- Whether a code point is a half of a character. -/
def isSurrogate (n : Nat) : Bool := 0xd800 ≤ n && n < 0xe000

/-- The distance between a half and the character that holds it. -/
def surrogateShift : Nat := 0xd0000

/-- The mark before the character that holds a code point of those that hold halves. -/
def heldMark : Char := Char.ofNat 0xde000

/-- Whether a code point is the mark or holds a half. -/
def isTaken (n : Nat) : Bool := 0xdd800 ≤ n && n ≤ 0xde000

/-- The distance between such a code point and the character that holds it behind the mark. -/
def heldShift : Nat := 0x1000

/-- What holds a code point. -/
def ofCode (n : Nat) : List Char :=
  if isSurrogate n then [Char.ofNat (n + surrogateShift)]
  else if isTaken n then [heldMark, Char.ofNat (n + heldShift)]
  else [Char.ofNat n]

/-- Whether a character holds a half. -/
def isHalf (c : Char) : Bool := surrogateShift ≤ c.toNat && isSurrogate (c.toNat - surrogateShift)

/-- The code point that a character holds, without the mark before it. -/
def codeOf (c : Char) : Nat := if isHalf c then c.toNat - surrogateShift else c.toNat

/-- Whether a character holds a half that stands for a byte, in the name of a file that is no
UTF-8. -/
def isByteHalf (c : Char) : Bool := isHalf c && 0xdc80 ≤ codeOf c && codeOf c ≤ 0xdcff

/-- Whether a character holds a code point of those that hold halves, if the mark is before it. -/
def isHeld (c : Char) : Bool := heldShift ≤ c.toNat && isTaken (c.toNat - heldShift)

/-- The code points that a text is made of. -/
def codes : List Char → List Nat
  | [] => []
  | [c] => [codeOf c]
  | c :: d :: rest =>
    if c == heldMark && isHeld d then (d.toNat - heldShift) :: codes rest
    else codeOf c :: codes (d :: rest)

/-- A code point outside their range is no half. -/
theorem not_isSurrogate {n : Nat} (h : n < 0xd800 ∨ 0xe000 ≤ n) : isSurrogate n = false := by
  simp only [isSurrogate, Bool.and_eq_false_iff, decide_eq_false_iff_not]
  omega

/-- A code point that is no half is the number of its character. -/
theorem toNat_ofNat_of_not_isSurrogate {n : Nat} (h : n < 0x110000) (hn : isSurrogate n = false) :
    (Char.ofNat n).toNat = n := by
  have hvalid : n.isValidChar := by
    simp only [isSurrogate, Bool.and_eq_false_iff, decide_eq_false_iff_not] at hn
    rw [Nat.isValidChar]
    omega
  rw [Char.ofNat, dif_pos hvalid]
  rfl

/-- A character that is not the mark stands for a code point by itself. -/
theorem codes_cons_of_ne {c : Char} (h : c ≠ heldMark) (text : List Char) :
    codes (c :: text) = codeOf c :: codes text := by
  cases text with
  | nil => rfl
  | cons d rest => simp [codes, h]

/-- A character is told from the mark by its number. -/
theorem ne_heldMark {c : Char} (h : c.toNat ≠ 0xde000) : c ≠ heldMark := by
  rintro rfl
  exact h (toNat_ofNat_of_not_isSurrogate (by decide) (by decide))

/-- What holds a code point, before a text, tells the code point. -/
theorem codes_ofCode_append {n : Nat} (h : n < 0x110000) (text : List Char) :
    codes (ofCode n ++ text) = n :: codes text := by
  by_cases hhalf : isSurrogate n = true
  · have hrange : 0xd800 ≤ n ∧ n < 0xe000 := by simpa [isSurrogate] using hhalf
    have hnumber : (Char.ofNat (n + surrogateShift)).toNat = n + surrogateShift :=
      toNat_ofNat_of_not_isSurrogate (by simp only [surrogateShift]; omega)
        (not_isSurrogate (by simp only [surrogateShift]; omega))
    have hne : Char.ofNat (n + surrogateShift) ≠ heldMark :=
      ne_heldMark (by rw [hnumber, surrogateShift]; omega)
    rw [ofCode, if_pos hhalf, List.singleton_append, codes_cons_of_ne hne, codeOf, isHalf, hnumber,
      Nat.add_sub_cancel]
    simp [hhalf]
  · have hno : isSurrogate n = false := by simpa using hhalf
    by_cases htaken : isTaken n = true
    · have hrange : 0xdd800 ≤ n ∧ n ≤ 0xde000 := by simpa [isTaken] using htaken
      have hnumber : (Char.ofNat (n + heldShift)).toNat = n + heldShift :=
        toNat_ofNat_of_not_isSurrogate (by simp only [heldShift]; omega)
          (not_isSurrogate (by simp only [heldShift]; omega))
      have hheld : isHeld (Char.ofNat (n + heldShift)) = true := by
        simp [isHeld, hnumber, htaken]
      rw [ofCode, if_neg hhalf, if_pos htaken]
      simp [codes, hheld, hnumber]
    · have hrange : n < 0xdd800 ∨ 0xde000 < n := by
        simp only [isTaken, Bool.and_eq_true, decide_eq_true_eq, not_and] at htaken
        omega
      have hnumber := toNat_ofNat_of_not_isSurrogate h hno
      have hnot : isHalf (Char.ofNat n) = false := by
        simp only [isHalf, isSurrogate, hnumber, surrogateShift, Bool.and_eq_false_iff,
          decide_eq_false_iff_not]
        omega
      rw [ofCode, if_neg hhalf, if_neg htaken, List.singleton_append,
        codes_cons_of_ne (ne_heldMark (by rw [hnumber]; omega)), codeOf, hnot, hnumber]
      rfl

/-- A text tells the code points that it is made of. -/
theorem codes_flatMap_ofCode {ns : List Nat} (h : ∀ n ∈ ns, n < 0x110000) :
    codes (ns.flatMap ofCode) = ns := by
  induction ns with
  | nil => rfl
  | cons n rest ih =>
    rw [List.flatMap_cons, codes_ofCode_append (h n List.mem_cons_self),
      ih fun m hm ↦ h m (List.mem_cons_of_mem n hm)]

end Scriptorium.Text
