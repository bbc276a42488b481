import Scriptorium.Decimal.Layout
import Scriptorium.Text.CharacterName
import Scriptorium.Text.Digit
import Scriptorium.Text.Quoted

/-!
# Literals

How numbers and quoted texts are written inside a tag. Digits may be set apart by single
underscores. A reader gives back the value and the text after it, which is shorter than what it was
given.
-/

set_option autoImplicit false
set_option relaxedAutoImplicit false

namespace Scriptorium.Template

open Text

/-- The longest run of digits, single underscores between or before them, and the text after it. -/
def spanDigits (value? : Char → Option Nat) : List Char → List Nat × List Char
  | [] => ([], [])
  | [c] =>
    match value? c with
    | some d => ([d], [])
    | none => ([], [c])
  | c :: next :: rest =>
    if c == '_' then
      match value? next with
      | some d =>
        let (digits, after) := spanDigits value? rest
        (d :: digits, after)
      | none => ([], c :: next :: rest)
    else
      match value? c with
      | some d =>
        let (digits, after) := spanDigits value? (next :: rest)
        (d :: digits, after)
      | none => ([], c :: next :: rest)

theorem length_spanDigits_le (value? : Char → Option Nat) (text : List Char) :
    (spanDigits value? text).2.length ≤ text.length := by
  fun_induction spanDigits value? text <;> simp_all <;> omega

/-- The number that digits of a base write, the highest first. -/
def ofDigits (base : Nat) (digits : List Nat) : Nat := digits.foldl (fun n d ↦ n * base + d) 0

/-- A digit of a base up to sixteen. Below ten only those of ASCII count. -/
def baseDigit? (base : Nat) (c : Char) : Option Nat :=
  let n := c.toLower.toNat
  if base == 16 then if 97 ≤ n && n ≤ 102 then some (n - 87) else digitValue? c
  else if 48 ≤ n && n < 48 + base then some (n - 48) else none

/-- Digits of a base after a mark such as `0x`, at least one. -/
def readBase? (base : Nat) (text : List Char) : Option (Nat × List Char) :=
  match spanDigits (baseDigit? base) text with
  | ([], _) => none
  | (digits, after) => some (ofDigits base digits, after)

theorem length_readBase? {base n : Nat} {text after : List Char}
    (h : readBase? base text = some (n, after)) :
    after.length ≤ text.length := by
  have := length_spanDigits_le (baseDigit? base) text
  unfold readBase? at h
  split at h
  · cases h
  · rename_i hs
    simp only [Option.some.injEq, Prod.mk.injEq] at h
    rw [hs] at this
    simpa [← h.2] using this

/-- A whole number: binary, octal or hexadecimal after its mark, or decimal without a leading
zero. -/
def readInteger? : List Char → Option (Nat × List Char)
  | '0' :: rest =>
    let marked : Option (Nat × List Char) :=
      match rest with
      | c :: digits =>
        if c == 'b' || c == 'B' then readBase? 2 digits
        else if c == 'o' || c == 'O' then readBase? 8 digits
        else if c == 'x' || c == 'X' then readBase? 16 digits
        else none
      | [] => none
    match marked with
    | some found => some found
    | none => some (0, (spanDigits (fun c ↦ if c == '0' then some 0 else none) rest).2)
  | c :: rest =>
    if '1' ≤ c && c ≤ '9' then
      let (digits, after) := spanDigits digitValue? rest
      some (ofDigits 10 ((c.toNat - 48) :: digits), after)
    else none
  | [] => none

theorem length_readInteger? {n : Nat} {text after : List Char}
    (h : readInteger? text = some (n, after)) :
    after.length < text.length := by
  unfold readInteger? at h
  split at h
  · rename_i rest
    have hz := length_spanDigits_le (fun c ↦ if c == '0' then some 0 else none) rest
    simp only at h
    split at h
    · rename_i found hm
      split at hm
      · rename_i c digits
        have key : after.length ≤ digits.length := by
          split at hm
          · exact length_readBase? (hm.trans h)
          · split at hm
            · exact length_readBase? (hm.trans h)
            · split at hm
              · exact length_readBase? (hm.trans h)
              · cases hm
        simp; omega
      · cases hm
    · simp only [Option.some.injEq, Prod.mk.injEq] at h
      rw [← h.2, List.length_cons]
      omega
  · rename_i c rest _
    have := length_spanDigits_le digitValue? rest
    split at h
    · simp only [Option.some.injEq, Prod.mk.injEq] at h
      rw [← h.2, List.length_cons]
      omega
    · cases h
  · cases h

/-- A run of decimal digits that begins with a digit, and the text after it. -/
def readDigits? (text : List Char) : Option (List Nat × List Char) :=
  match text with
  | c :: _ => if isDigit c then some (spanDigits digitValue? text) else none
  | [] => none

theorem length_readDigits? {digits : List Nat} {text after : List Char}
    (h : readDigits? text = some (digits, after)) : after.length < text.length := by
  unfold readDigits? at h
  split at h
  · rename_i c rest
    split at h
    · rename_i hc
      simp only [Option.some.injEq] at h
      obtain ⟨d, hd⟩ := Option.isSome_iff_exists.1 hc
      have hne : (c == '_') = false := by
        rw [beq_eq_false_iff_ne]
        rintro rfl
        exact absurd (hd.symm.trans (by decide : digitValue? '_' = none)) (by simp)
      cases rest with
      | nil =>
        simp only [spanDigits, hd, Prod.mk.injEq] at h
        simp [← h.2]
      | cons next rest =>
        have := length_spanDigits_le digitValue? (next :: rest)
        simp only [spanDigits, hne, hd, Bool.false_eq_true, if_false, Prod.mk.injEq] at h
        rw [← h.2]
        simp only [List.length_cons] at this ⊢
        omega
    · cases h
  · cases h

/-- An exponent: its mark, a sign or none, and digits. -/
def readExponent? : List Char → Option (Int × List Char)
  | [] => none
  | c :: rest =>
    if c == 'e' || c == 'E' then
      match rest with
      | '-' :: digits => (readDigits? digits).map fun (ds, after) ↦ (-(ofDigits 10 ds : Int), after)
      | '+' :: digits => (readDigits? digits).map fun (ds, after) ↦ ((ofDigits 10 ds : Int), after)
      | digits => (readDigits? digits).map fun (ds, after) ↦ ((ofDigits 10 ds : Int), after)
    else none

theorem length_of_map_readDigits? {f : List Nat × List Char → Int × List Char} {e : Int}
    {text after : List Char} (hf : ∀ p, (f p).2 = p.2)
    (h : (readDigits? text).map f = some (e, after)) : after.length < text.length := by
  obtain ⟨⟨digits, rest⟩, hdigits, heq⟩ := Option.map_eq_some_iff.mp h
  obtain rfl : rest = after := (hf (digits, rest)).symm.trans (congrArg Prod.snd heq)
  exact length_readDigits? hdigits

theorem length_readExponent? {e : Int} {text after : List Char}
    (h : readExponent? text = some (e, after)) :
    after.length ≤ text.length := by
  unfold readExponent? at h
  split at h
  · cases h
  · split at h
    · have hrest : ∀ digits : List Char, after.length < digits.length →
          after.length ≤ digits.length + 2 := fun digits hdigits ↦ by omega
      split at h
      · exact hrest _ (length_of_map_readDigits? (fun _ ↦ rfl) h)
      · exact hrest _ (length_of_map_readDigits? (fun _ ↦ rfl) h)
      · exact Nat.le_succ_of_le (Nat.le_of_lt (length_of_map_readDigits? (fun _ ↦ rfl) h))
    · cases h

/-- The number whose digits, `places` of them after the point, are followed by an exponent. -/
def floatOf (digits : List Nat) (places : Nat) (exponent : Int) : Float :=
  Decimal.Scientific.toFloat ⟨ofDigits 10 digits, exponent - places⟩

/-- A number with digits after a point, or with an exponent, or with both. -/
def readFloat? (text : List Char) : Option (Float × List Char) :=
  match readDigits? text with
  | none => none
  | some (whole, rest) =>
    let fraction : Option (List Nat × List Char) :=
      match rest with
      | '.' :: digits => readDigits? digits
      | _ => none
    match fraction with
    | some (digits, after) =>
      match readExponent? after with
      | some (e, last) => some (floatOf (whole ++ digits) digits.length e, last)
      | none => some (floatOf (whole ++ digits) digits.length 0, after)
    | none => (readExponent? rest).map fun (e, last) ↦ (floatOf whole 0 e, last)

theorem length_readFloat? {f : Float} {text after : List Char}
    (h : readFloat? text = some (f, after)) :
    after.length < text.length := by
  unfold readFloat? at h
  split at h
  · cases h
  · rename_i whole rest hw
    have hrest := length_readDigits? hw
    simp only at h
    split at h
    · rename_i digits r hf
      have hr : r.length < text.length := by
        split at hf
        · have hdigits := length_readDigits? hf
          rw [List.length_cons] at hrest
          omega
        · cases hf
      split at h
      · rename_i e last he
        have := length_readExponent? he
        simp only [Option.some.injEq, Prod.mk.injEq] at h
        rw [← h.2]; omega
      · simp only [Option.some.injEq, Prod.mk.injEq] at h
        rw [← h.2]; exact hr
    · simp only [Option.map_eq_some_iff, Prod.mk.injEq, Prod.exists] at h
      obtain ⟨e, last, he, -, rfl⟩ := h
      have := length_readExponent? he
      omega

/-- The contents of a quoted text up to its closing quote, escapes as they are written, and the text
after. -/
def readQuoted? (quote : Char) : List Char → Option (List Char × List Char)
  | [] => none
  | [c] => if c == quote then some ([], []) else none
  | c :: next :: rest =>
    if c == quote then some ([], next :: rest)
    else if c == '\\' then
      (readQuoted? quote rest).map fun (inner, after) ↦ (c :: next :: inner, after)
    else (readQuoted? quote (next :: rest)).map fun (inner, after) ↦ (c :: inner, after)

theorem length_readQuoted? {quote : Char} {text inner after : List Char}
    (h : readQuoted? quote text = some (inner, after)) : after.length < text.length := by
  fun_induction readQuoted? quote text generalizing inner after with
  | case1 => cases h
  | case2 c =>
    obtain ⟨-, rfl⟩ := Prod.mk.inj (Option.some.inj h)
    exact Nat.zero_lt_one
  | case3 => cases h
  | case4 c next rest =>
    obtain ⟨-, rfl⟩ := Prod.mk.inj (Option.some.inj h)
    exact Nat.lt_succ_self _
  | case5 c next rest _ _ ih =>
    obtain ⟨⟨i, r⟩, hr, heq⟩ := Option.map_eq_some_iff.mp h
    obtain ⟨-, rfl⟩ := Prod.mk.inj heq
    exact Nat.lt_trans (ih hr) (Nat.lt_succ_of_lt (Nat.lt_succ_self _))
  | case6 c next rest _ _ ih =>
    obtain ⟨⟨i, r⟩, hr, heq⟩ := Option.map_eq_some_iff.mp h
    obtain ⟨-, rfl⟩ := Prod.mk.inj heq
    exact Nat.lt_trans (ih hr) (Nat.lt_succ_self _)

/-- The value of hexadecimal digits, if they all are. -/
def ofHex? (digits : List Char) : Option Nat :=
  (digits.mapM (baseDigit? 16)).map (ofDigits 16)

/-- An octal digit. -/
def isOctal (c : Char) : Bool := '0' ≤ c && c ≤ '7'

/-- The character that octal digits number. -/
def octalChar (digits : List Char) : Char :=
  Char.ofNat (ofDigits 8 (digits.map fun c ↦ c.toNat - 48))

/-- The control character that a letter stands for after a backslash. -/
def controlEscape? (c : Char) : Option Char :=
  match c with
  | '\\' => some '\\'
  | '\'' => some '\''
  | '"' => some '"'
  | 'a' => some (Char.ofNat 7)
  | 'b' => some (Char.ofNat 8)
  | 'f' => some (Char.ofNat 12)
  | 'n' => some '\n'
  | 'r' => some '\r'
  | 't' => some '\t'
  | 'v' => some (Char.ofNat 11)
  | _ => none

mutual

/-- Replaces the escapes of a text that has no character beyond ASCII. An unknown escape stays as it
is. -/
def decodeEscapes : List Char → Except String (List Char)
  | [] => .ok []
  | ['\\'] => .error "\\ at end of string"
  | '\\' :: '\n' :: rest => decodeEscapes rest
  | '\\' :: 'x' :: a :: b :: rest =>
    match ofHex? [a, b] with
    | some n => (Char.ofNat n :: ·) <$> decodeEscapes rest
    | none => .error "truncated \\xXX escape"
  | '\\' :: 'x' :: _ => .error "truncated \\xXX escape"
  | '\\' :: 'u' :: a :: b :: c :: d :: rest =>
    match ofHex? [a, b, c, d] with
    | some n => (Text.ofCode n ++ ·) <$> decodeEscapes rest
    | none => .error "truncated \\uXXXX escape"
  | '\\' :: 'u' :: _ => .error "truncated \\uXXXX escape"
  | '\\' :: 'U' :: a :: b :: c :: d :: e :: f :: g :: h :: rest =>
    match ofHex? [a, b, c, d, e, f, g, h] with
    | some n =>
      if n < 0x110000 then (Text.ofCode n ++ ·) <$> decodeEscapes rest
      else .error "illegal Unicode character"
    | none => .error "truncated \\UXXXXXXXX escape"
  | '\\' :: 'U' :: _ => .error "truncated \\UXXXXXXXX escape"
  | '\\' :: 'N' :: '\x7b' :: rest => decodeName [] rest
  | '\\' :: 'N' :: _ => .error "malformed \\N character escape"
  | '\\' :: a :: rest =>
    if isOctal a then
      match rest with
      | [] => .ok [octalChar [a]]
      | b :: rest =>
        if isOctal b then
          match rest with
          | [] => .ok [octalChar [a, b]]
          | c :: rest =>
            if isOctal c then (octalChar [a, b, c] :: ·) <$> decodeEscapes rest
            else (octalChar [a, b] :: ·) <$> decodeEscapes (c :: rest)
        else (octalChar [a] :: ·) <$> decodeEscapes (b :: rest)
    else
      match controlEscape? a with
      | some c => (c :: ·) <$> decodeEscapes rest
      | none => (fun text ↦ '\\' :: a :: text) <$> decodeEscapes rest
  | c :: rest => (c :: ·) <$> decodeEscapes rest

/-- The same for a text that begins inside the braces around the name of a character, whose letters
so far, the last first, are `name`. -/
def decodeName (name : List Char) : List Char → Except String (List Char)
  | [] => .error "malformed \\N character escape"
  | c :: rest =>
    if c == '\x7d' then
      if name.isEmpty then .error "malformed \\N character escape"
      else
        match Text.namedChar? name.reverse with
        | some ch => (ch :: ·) <$> decodeEscapes rest
        | none => .error "unknown Unicode character name"
    else decodeName (c :: name) rest

end

/-- The text that the contents of a quoted text stand for. A character beyond ASCII is first written
as an escape, so that a backslash before it takes that escape's own backslash. -/
def quotedValue (inner : List Char) : Except String (List Char) :=
  decodeEscapes (Text.escapeBeyondAscii inner)

end Scriptorium.Template
