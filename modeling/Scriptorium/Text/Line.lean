/-!
# Lines

Where a text breaks into lines. A carriage return and the line feed after it are one break, and a
break at the end of the text opens no further line, so the empty text has no line.
-/

set_option autoImplicit false
set_option relaxedAutoImplicit false

namespace Scriptorium.Text

/-- A character that ends a line: line feed, carriage return, the vertical controls, the three
information separators, next line, and the line and paragraph separators. -/
def isLineBreak (c : Char) : Bool :=
  [0xa, 0xb, 0xc, 0xd, 0x1c, 0x1d, 0x1e, 0x85, 0x2028, 0x2029].contains c.toNat

/-- The lines of a text, without their breaks. -/
def lines : List Char → List (List Char)
  | [] => []
  | '\r' :: '\n' :: rest => [] :: lines rest
  | c :: rest =>
    if isLineBreak c then [] :: lines rest
    else match lines rest with
      | [] => [[c]]
      | line :: others => (c :: line) :: others

/-- Every carriage return, alone or before a line feed, becomes a line feed. -/
def unifyNewlines : List Char → List Char
  | [] => []
  | '\r' :: '\n' :: rest => '\n' :: unifyNewlines rest
  | '\r' :: rest => '\n' :: unifyNewlines rest
  | c :: rest => c :: unifyNewlines rest

/-- How many line feeds a text holds. -/
def newlineCount (text : List Char) : Nat := text.count '\n'

theorem unifyNewlines_of_not_mem {text : List Char} (h : '\r' ∉ text) :
    unifyNewlines text = text := by
  induction text with
  | nil => rfl
  | cons c rest ih =>
    have hc : c ≠ '\r' := fun e ↦ h (e ▸ List.mem_cons_self)
    have hrest : '\r' ∉ rest := fun m ↦ h (List.mem_cons_of_mem _ m)
    rw [unifyNewlines.eq_4 c rest (by simp_all) (by simp_all), ih hrest]

/-- A character that is no carriage return stays. -/
theorem unifyNewlines_cons_of_ne {c : Char} (h : c ≠ '\r') (rest : List Char) :
    unifyNewlines (c :: rest) = c :: unifyNewlines rest :=
  unifyNewlines.eq_4 c rest (fun _ hc _ ↦ h hc) h

/-- A carriage return without a line feed after it becomes a line feed. -/
theorem unifyNewlines_return_of_head? {rest : List Char} (h : rest.head? ≠ some '\n') :
    unifyNewlines ('\r' :: rest) = '\n' :: unifyNewlines rest :=
  unifyNewlines.eq_3 rest fun _ hmore ↦ h (hmore ▸ rfl)

/-- Line ends are unified piece by piece where the second piece does not begin with a line feed. -/
theorem unifyNewlines_append {first second : List Char} (h : second.head? ≠ some '\n') :
    unifyNewlines (first ++ second) = unifyNewlines first ++ unifyNewlines second := by
  fun_induction unifyNewlines first with
  | case1 => rfl
  | case2 rest ih => rw [List.cons_append, List.cons_append, unifyNewlines, ih, List.cons_append]
  | case3 rest hrest ih =>
    have hhead : (rest ++ second).head? ≠ some '\n' := by
      cases rest with
      | nil => exact h
      | cons c more =>
        intro hc
        obtain rfl : c = '\n' := Option.some.inj hc
        exact hrest more rfl
    rw [List.cons_append, unifyNewlines_return_of_head? hhead, ih, List.cons_append]
  | case4 c rest _ hc ih => rw [List.cons_append, unifyNewlines_cons_of_ne hc, ih, List.cons_append]

/-- Text without carriage returns stays. -/
theorem unifyNewlines_append_of_forall_ne {first : List Char} (h : ∀ c ∈ first, c ≠ '\r')
    (second : List Char) : unifyNewlines (first ++ second) = first ++ unifyNewlines second := by
  induction first with
  | nil => rfl
  | cons c rest ih =>
    rw [List.cons_append, unifyNewlines_cons_of_ne (h c List.mem_cons_self),
      ih fun d hd ↦ h d (List.mem_cons_of_mem _ hd), List.cons_append]

end Scriptorium.Text
