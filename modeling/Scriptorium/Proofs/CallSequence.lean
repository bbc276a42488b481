import Scriptorium.Proofs.CallExpansion

/-!
# Sequences of calls one after the other

What two sequences of calls compile to, one after the other, is what each of them compiles to, with
the first before the second on lines of its own (`Compiled.join`), for the code and for the revert
code apart. The path of open functions is empty again behind every call, so the second sequence is
expanded as it is by itself (`expandEach_append`), and what is left is how fragments are merged.

Merging drops the parts that are blank and cuts line ends at the end of the others. A part that is
not blank keeps a character that is not, so no part gets lost by the cut, and a merged text is empty
exactly if all its parts are blank (`mergeParts_eq_empty_iff`). Merging is then done piece by piece
(`mergeParts_append`), and leaves a text that is tidy (`isTidy_mergeParts`): it is empty, or it has
a character that is not blank and no line end at its end.
-/

set_option autoImplicit false
set_option relaxedAutoImplicit false

namespace Scriptorium

/-! ### Joined texts -/

/-- Two texts with a line feed between them. If one of them is empty, the other by itself. -/
def joinCode (first second : String) : String :=
  if first = "" then second else if second = "" then first else first ++ "\n" ++ second

/-- Two pieces of compiled code joined, what applies apart from what reverts. -/
def Compiled.join (first second : Compiled) : Compiled :=
  ⟨joinCode first.code second.code, joinCode first.revertCode second.revertCode⟩

/-- Whether a text is empty, or has a character that is not blank and no line end at its end. -/
def IsTidy (text : String) : Prop :=
  text = "" ∨ (∃ c ∈ text.toList, Text.isBlank c = false) ∧
    ∀ c ∈ text.toList.getLast?, c ≠ '\r' ∧ c ≠ '\n'

@[simp] theorem joinCode_empty_left (text : String) : joinCode "" text = text := if_pos rfl

@[simp] theorem joinCode_empty_right (text : String) : joinCode text "" = text := by
  unfold joinCode
  split <;> simp_all

theorem joinCode_of_ne {first second : String} (hfirst : first ≠ "") (hsecond : second ≠ "") :
    joinCode first second = first ++ "\n" ++ second := by
  rw [joinCode, if_neg hfirst, if_neg hsecond]

/-- Tidy texts are tidy when they are joined. -/
theorem IsTidy.join {first second : String} (hfirst : IsTidy first) (hsecond : IsTidy second) :
    IsTidy (joinCode first second) := by
  rcases hfirst with rfl | ⟨⟨c, hc, hfilled⟩, hend⟩
  · rwa [joinCode_empty_left]
  · have hne : first ≠ "" := by
      rintro rfl
      cases hc
    by_cases hempty : second = ""
    · subst hempty
      rw [joinCode_empty_right]
      exact Or.inr ⟨⟨c, hc, hfilled⟩, hend⟩
    · obtain hnone | ⟨-, hlast⟩ := hsecond
      · exact absurd hnone hempty
      · have hchars : second.toList ≠ [] := by simpa using hempty
        rw [joinCode_of_ne hne hempty]
        refine Or.inr ⟨⟨c, by simp [hc], hfilled⟩, ?_⟩
        rw [String.toList_append, List.getLast?_append_of_ne_nil _ hchars]
        exact hlast

/-! ### Merged parts -/

theorem isSubstantial_iff {text : String} :
    isSubstantial text = true ↔ ∃ c ∈ text.toList, Text.isBlank c = false := by
  simp [isSubstantial, Text.isBlankText]

/-- A text that is not blank stays so when line ends are cut from its end. -/
theorem isSubstantial_trimLineEnds {text : String} (h : isSubstantial text) :
    isSubstantial (trimLineEnds text) := by
  obtain ⟨c, hc, hfilled⟩ := isSubstantial_iff.mp h
  obtain ⟨ends, htext, hends⟩ :=
    Text.exists_trimRightWhile_append (fun c ↦ c == '\r' || c == '\n') text.toList
  rw [htext, List.mem_append] at hc
  rcases hc with hkept | hcut
  · exact isSubstantial_iff.mpr ⟨c, by rwa [trimLineEnds, String.toList_ofList], hfilled⟩
  · -- a line end is blank
    have hlineEnd := hends c hcut
    rw [Bool.or_eq_true, beq_iff_eq, beq_iff_eq] at hlineEnd
    rcases hlineEnd with rfl | rfl <;> exact absurd hfilled (by decide)

theorem ne_empty_of_isSubstantial {text : String} (h : isSubstantial text) : text ≠ "" := by
  rintro rfl
  exact absurd h (by decide)

theorem isTidy_trimLineEnds {text : String} (h : isSubstantial text) :
    IsTidy (trimLineEnds text) := by
  refine Or.inr ⟨isSubstantial_iff.mp (isSubstantial_trimLineEnds h), fun c hc ↦ ?_⟩
  rw [trimLineEnds, String.toList_ofList] at hc
  simpa using Text.getLast?_trimRightWhile _ _ c hc

theorem mergeParts_singleton (part : String) :
    mergeParts [part] = if isSubstantial part then trimLineEnds part else "" := by
  unfold mergeParts
  by_cases h : isSubstantial part <;> simp [h]

/-- A merged text is empty exactly if all its parts are blank: what is kept of a part that is not
blank is never empty. -/
theorem mergeParts_eq_empty_iff {parts : List String} :
    mergeParts parts = "" ↔ ∀ part ∈ parts, isSubstantial part = false := by
  induction parts with
  | nil => simp [mergeParts]
  | cons part rest ih =>
    rw [List.forall_mem_cons, ← ih]
    by_cases hpart : isSubstantial part = true
    · have hkept := ne_empty_of_isSubstantial (isSubstantial_trimLineEnds hpart)
      have hne : mergeParts (part :: rest) ≠ "" := by
        unfold mergeParts
        rw [List.filter_cons_of_pos hpart, List.map_cons]
        cases (rest.filter isSubstantial).map trimLineEnds with
        | nil => simpa using hkept
        | cons next others => simp [hkept]
      simp [hne, hpart]
    · rw [Bool.not_eq_true] at hpart
      simp [mergeParts, hpart]

/-- Merging is done piece by piece. -/
theorem mergeParts_append (first second : List String) :
    mergeParts (first ++ second) = joinCode (mergeParts first) (mergeParts second) := by
  have hnone : ∀ parts : List String, (parts.filter isSubstantial).map trimLineEnds = [] ↔
      mergeParts parts = "" := by
    intro parts
    rw [List.map_eq_nil_iff, List.filter_eq_nil_iff, mergeParts_eq_empty_iff]
    simp
  by_cases hfirst : mergeParts first = ""
  · rw [hfirst, joinCode_empty_left]
    unfold mergeParts
    rw [List.filter_append, List.map_append, (hnone first).mpr hfirst, List.nil_append]
  · by_cases hsecond : mergeParts second = ""
    · rw [hsecond, joinCode_empty_right]
      unfold mergeParts
      rw [List.filter_append, List.map_append, (hnone second).mpr hsecond, List.append_nil]
    · rw [joinCode_of_ne hfirst hsecond]
      unfold mergeParts
      rw [List.filter_append, List.map_append, String.intercalate_append_of_ne_nil
        (fun hnil ↦ hfirst ((hnone first).mp hnil)) (fun hnil ↦ hsecond ((hnone second).mp hnil))]

/-- What is merged is tidy. -/
theorem isTidy_mergeParts (parts : List String) : IsTidy (mergeParts parts) := by
  induction parts with
  | nil => exact Or.inl rfl
  | cons part rest ih =>
    rw [← List.singleton_append, mergeParts_append, mergeParts_singleton]
    refine IsTidy.join ?_ ih
    split
    · rename_i hpart
      exact isTidy_trimLineEnds hpart
    · exact Or.inl rfl

theorem Compiled.merge_append (first second : List Compiled) :
    merge (first ++ second) = (merge first).join (merge second) := by
  simp [merge, join, mergeParts_append]

/-! ### Compiled sequences -/

namespace Registry

/-- Two sequences of calls, one after the other, compile to what each of them compiles to, joined.
If the first fails, so do both, with its error; if only the second does, with that of the second.
Whatever is compiled is tidy: its code is empty, or it has a character that is not blank and no line
end at its end, and so is its revert code. -/
theorem compile_append (r : Registry) (first second : List Call) :
    (∀ own others, r.compile first = .ok own → r.compile second = .ok others →
      r.compile (first ++ second) = .ok (own.join others)) ∧
    (∀ e, r.compile first = .error e → r.compile (first ++ second) = .error e) ∧
    (∀ own e, r.compile first = .ok own → r.compile second = .error e →
      r.compile (first ++ second) = .error e) ∧
    ∀ calls compiled, r.compile calls = .ok compiled →
      IsTidy compiled.code ∧ IsTidy compiled.revertCode := by
  refine ⟨?_, ?_, ?_, ?_⟩
  · intro own others hfirst hsecond
    obtain ⟨before, hbefore, rfl⟩ := compile_eq_ok_iff.mp hfirst
    obtain ⟨after, hafter, rfl⟩ := compile_eq_ok_iff.mp hsecond
    exact compile_eq_ok_iff.mpr ⟨before ++ after,
      expandEach_append_eq_ok_iff.mpr ⟨before, after, hbefore, hafter, rfl⟩,
      Compiled.merge_append before after⟩
  · intro e hfirst
    rw [compile_eq_error_iff, expandEach_append]
    exact bind_eq_error_iff.mpr (Or.inl (compile_eq_error_iff.mp hfirst))
  · intro own e hfirst hsecond
    obtain ⟨before, hbefore, -⟩ := compile_eq_ok_iff.mp hfirst
    rw [compile_eq_error_iff, expandEach_append]
    exact bind_eq_error_iff.mpr (Or.inr ⟨before, hbefore,
      bind_eq_error_iff.mpr (Or.inl (compile_eq_error_iff.mp hsecond))⟩)
  · intro calls compiled h
    obtain ⟨fragments, -, rfl⟩ := compile_eq_ok_iff.mp h
    exact ⟨isTidy_mergeParts _, isTidy_mergeParts _⟩

end Registry

end Scriptorium
