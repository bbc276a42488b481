import Mathlib.Data.List.TakeWhile
import Mathlib.Tactic.Common
import Scriptorium.Registry.Definition
import Scriptorium.Template.Expand

/-!
# Templates of placeholders

Code whose only tags are placeholders: print tags of a name that can be a parameter, perhaps with
filters. A `Segment` is literal text or a placeholder, and `Segment.written` is how it is written.
Code of this kind is a `Layout`, in which adjacent literals are one: a first stretch of text, and
placeholders with the text after each of them. A stretch has to be `isTagFree`, which is to say that
no tag begins in it.

A tag that begins in a stretch of text ends there if what follows `IsDetached`, which a placeholder
is: it begins with two braces and neither of them can go on with a tag (`beginsTag_append`). So a
condition on each stretch alone is enough to know what happens to the whole before it is read: every
placeholder gets one blank and all else stays (`unifyOpenings_written`), the code is a template
exactly if it has a placeholder (`hasTag_unified`), and line ends become line feeds stretch by
stretch (`unifyNewlines_unified`), which creates no tag (`isTagFree_unifyNewlines`).
-/

set_option autoImplicit false
set_option relaxedAutoImplicit false

namespace Scriptorium.Template

open Text

/-! ### Characters of names -/

/-- The characters of names are characters of ASCII. -/
theorem lt_of_isNameRest {c : Char} (h : isNameRest c) : c.toNat < 128 := by
  have hcases : ((decide (65 ≤ c.val ∧ c.val ≤ 90) ||
      decide (97 ≤ c.val) && decide (c.val ≤ 122)) ||
      decide (48 ≤ c.val) && decide (c.val ≤ 57) || c == '_') = true := h
  simp only [Bool.or_eq_true, Bool.and_eq_true, decide_eq_true_eq, beq_iff_eq,
    UInt32.le_iff_toNat_le] at hcases
  change ((65 ≤ c.toNat ∧ c.toNat ≤ 90 ∨ 97 ≤ c.toNat ∧ c.toNat ≤ 122) ∨
    48 ≤ c.toNat ∧ c.toNat ≤ 57) ∨ c = '_' at hcases
  rcases hcases with hletter | rfl
  · omega
  · decide

/-- A predicate that holds of the characters of names among the first 128 holds of every character
of a name. -/
theorem of_isNameRest {p : Char → Bool}
    (h : (List.range 128).all (fun n ↦ !isNameRest (Char.ofNat n) || p (Char.ofNat n))) {c : Char}
    (hc : isNameRest c) : p c := by
  have hchar := List.all_eq_true.mp h c.toNat (List.mem_range.mpr (lt_of_isNameRest hc))
  rw [Char.ofNat_toNat, hc] at hchar
  simpa using hchar

/-- A character that begins a name can stand in it. -/
theorem isNameRest_of_isNameStart {c : Char} (h : isNameStart c) : isNameRest c := by
  have hcases : (c.isAlpha || c == '_') = true := h
  show ((c.isAlpha || c.isDigit) || c == '_') = true
  rw [Bool.or_eq_true] at hcases ⊢
  rcases hcases with hletter | hunderscore
  · left
    rw [hletter, Bool.true_or]
  · right
    exact hunderscore

/-- Whether a text is a letter or an underscore with letters, digits and underscores after it. -/
def isPlainName : List Char → Bool
  | [] => false
  | c :: rest => isNameStart c && rest.all isNameRest

/-- The characters of a plain name. -/
theorem isNameRest_of_mem {name : List Char} (h : isPlainName name) {c : Char} (hc : c ∈ name) :
    isNameRest c := by
  cases name with
  | nil => cases hc
  | cons d rest =>
    simp only [isPlainName, Bool.and_eq_true, List.all_eq_true] at h
    rcases List.mem_cons.mp hc with rfl | hrest
    · exact isNameRest_of_isNameStart h.1
    · exact h.2 c hrest

/-- A character of a name is no brace and ends no line. -/
theorem ne_of_isNameRest {c : Char} (h : isNameRest c) : c ≠ '\x7b' ∧ c ≠ '\r' ∧ c ≠ '\n' := by
  have hchar : (c != '\x7b' && c != '\r' && c != '\n') = true :=
    of_isNameRest (p := fun c ↦ c != '\x7b' && c != '\r' && c != '\n') (by decide +kernel) h
  simpa [and_assoc] using hchar

/-! ### Placeholders and segments -/

/-- A filter of a placeholder. -/
inductive CodeFilter where
  | escapeDoubleQuotes
  | inlinePowerShell
  deriving DecidableEq

namespace CodeFilter

/-- What a filter is called. -/
def name : CodeFilter → String
  | escapeDoubleQuotes => "escape_double_quotes"
  | inlinePowerShell => "inline_powershell"

/-- What a filter makes of a text. -/
def apply : CodeFilter → List Char → List Char
  | escapeDoubleQuotes => PowerShell.escapeDoubleQuotes
  | inlinePowerShell => PowerShell.inline

/-- A filter as it is written, with the bar before it. -/
def written (f : CodeFilter) : List Char := ' ' :: '|' :: ' ' :: f.name.toList

end CodeFilter

/-- A placeholder: the blanks between its braces and the dollar sign, the name of a parameter, and
the filters that the argument goes through, the first to be applied first. -/
structure Placeholder where
  blanks : List Char
  name : String
  filters : List CodeFilter
  blank : blanks.all isBlank = true := by decide
  plain : isPlainName name.toList = true := by decide
  unreserved : name ∉ reservedNames := by decide
  deriving DecidableEq

namespace Placeholder

/-- What is written after the dollar sign. -/
def inner (p : Placeholder) : List Char :=
  p.name.toList ++ (p.filters.flatMap CodeFilter.written ++ [' ', '\x7d', '\x7d'])

/-- A placeholder as it is written. -/
def written (p : Placeholder) : List Char := '\x7b' :: '\x7b' :: (p.blanks ++ '$' :: p.inner)

/-- A placeholder with one blank before the dollar sign. -/
def unified (p : Placeholder) : List Char := printOpening ++ p.inner

/-- A text as the filters of a placeholder make it. -/
def filtered (p : Placeholder) (text : List Char) : List Char :=
  p.filters.foldl (fun t f ↦ f.apply t) text

end Placeholder

/-- A piece of code: literal text or a placeholder. -/
inductive Segment where
  | literal (text : List Char)
  | placeholder (p : Placeholder)
  deriving DecidableEq

namespace Segment

/-- A segment as it is written. -/
def written : Segment → List Char
  | literal text => text
  | placeholder p => p.written

/-- A segment with one blank before its dollar sign, if it is a placeholder. -/
def unified : Segment → List Char
  | literal text => text
  | placeholder p => p.unified

/-- What a segment stands for: literal text for itself, a placeholder for its argument as the
filters make it. -/
def filled (a : Scriptorium.Arguments) : Segment → List Char
  | literal text => text
  | placeholder p => p.filtered ((a.get? p.name).getD "").toList

end Segment

/-! ### Layouts -/

/-- Text with placeholders: a first stretch, and each placeholder with the stretch after it. -/
structure Layout where
  lead : List Char
  parts : List (Placeholder × List Char)

/-- Placeholders and the stretches after them as they are written. -/
def writtenParts (parts : List (Placeholder × List Char)) : List Char :=
  parts.flatMap fun part ↦ part.1.written ++ part.2

/-- Placeholders with one blank before the dollar sign, and the stretches after them. -/
def unifiedParts (parts : List (Placeholder × List Char)) : List Char :=
  parts.flatMap fun part ↦ part.1.unified ++ part.2

namespace Layout

/-- The layout of segments: adjacent literals are one stretch. -/
def ofSegments : List Segment → Layout
  | [] => ⟨[], []⟩
  | .literal text :: rest => { ofSegments rest with lead := text ++ (ofSegments rest).lead }
  | .placeholder p :: rest => ⟨[], (p, (ofSegments rest).lead) :: (ofSegments rest).parts⟩

/-- A layout as it is written. -/
def written (layout : Layout) : List Char := layout.lead ++ writtenParts layout.parts

/-- A layout with one blank before every dollar sign. -/
def unified (layout : Layout) : List Char := layout.lead ++ unifiedParts layout.parts

/-- The stretches of text of a layout. -/
def stretches (layout : Layout) : List (List Char) := layout.lead :: layout.parts.map (·.2)

/-- The layout with every stretch changed. -/
def mapText (layout : Layout) (change : List Char → List Char) : Layout :=
  ⟨change layout.lead, layout.parts.map fun part ↦ (part.1, change part.2)⟩

/-- Segments are written as their layout is. -/
theorem written_ofSegments (segments : List Segment) :
    (ofSegments segments).written = segments.flatMap Segment.written := by
  induction segments with
  | nil => rfl
  | cons s rest ih =>
    rw [List.flatMap_cons, ← ih]
    cases s <;> simp [ofSegments, written, writtenParts, Segment.written]

/-- Segments with one blank before every dollar sign are their layout with one. -/
theorem unified_ofSegments (segments : List Segment) :
    (ofSegments segments).unified = segments.flatMap Segment.unified := by
  induction segments with
  | nil => rfl
  | cons s rest ih =>
    rw [List.flatMap_cons, ← ih]
    cases s <;> simp [ofSegments, unified, unifiedParts, Segment.unified]

/-- The placeholders of a layout are those of the segments. -/
theorem mem_ofSegments {segments : List Segment} {p : Placeholder} :
    p ∈ (ofSegments segments).parts.map (·.1) ↔ .placeholder p ∈ segments := by
  induction segments with
  | nil => simp [ofSegments]
  | cons s rest ih => cases s <;> simp_all [ofSegments]

/-- A character of a stretch is one of some literal. -/
theorem exists_literal_of_mem {segments : List Segment} {t : List Char}
    (ht : t ∈ (ofSegments segments).stretches) {c : Char} (hc : c ∈ t) :
    ∃ text, .literal text ∈ segments ∧ c ∈ text := by
  induction segments generalizing t with
  | nil => simp_all [ofSegments, stretches]
  | cons s rest ih =>
    have hrest : ∀ u ∈ (ofSegments rest).stretches, c ∈ u →
        ∃ text, .literal text ∈ s :: rest ∧ c ∈ text := by
      intro u hu hcu
      obtain ⟨text, htext, hmem⟩ := ih hu hcu
      exact ⟨text, List.mem_cons_of_mem _ htext, hmem⟩
    cases s with
    | literal text =>
      simp only [ofSegments, stretches, List.mem_cons] at ht
      rcases ht with rfl | hpart
      · rcases List.mem_append.mp hc with hown | hlead
        · exact ⟨text, List.mem_cons_self, hown⟩
        · exact hrest _ List.mem_cons_self hlead
      · exact hrest t (List.mem_cons_of_mem _ hpart) hc
    | placeholder p =>
      simp only [ofSegments, stretches, List.map_cons, List.mem_cons] at ht
      rcases ht with rfl | hpart
      · cases hc
      · exact hrest t (List.mem_cons.mpr hpart) hc

end Layout

/-! ### Text without tags -/

/-- Whether a text begins with the opening of a statement, of a comment, or of a print tag with any
blanks. -/
def beginsTag (text : List Char) : Bool :=
  ['\x7b', '%'].isPrefixOf text || ['\x7b', '#', '#'].isPrefixOf text ||
    (afterPrintOpening? text).isSome

/-- Whether no tag begins in a text. -/
def isTagFree : List Char → Bool
  | [] => true
  | c :: rest => !beginsTag (c :: rest) && isTagFree rest

/-- Whether no tag begins in a stretch of a layout. -/
def Layout.isTagFree (layout : Layout) : Bool := layout.stretches.all Template.isTagFree

/-- What does not begin with a brace does not begin with the opening of a print tag. -/
theorem afterPrintOpening?_of_ne {c : Char} (h : c ≠ '\x7b') (rest : List Char) :
    afterPrintOpening? (c :: rest) = none := by
  unfold afterPrintOpening?
  split
  · rename_i heq
    exact absurd (List.cons.inj heq).1 h
  · rfl

/-- What begins with two braces begins with the opening of a print tag if blanks and a dollar sign
follow. -/
theorem afterPrintOpening?_braces (rest : List Char) :
    afterPrintOpening? ('\x7b' :: '\x7b' :: rest) =
      match trimLeft rest with
      | '$' :: after => some after
      | _ => none := rfl

/-- A text that does not begin with a brace begins no tag. -/
theorem beginsTag_of_ne {c : Char} (h : c ≠ '\x7b') (rest : List Char) :
    beginsTag (c :: rest) = false := by
  simp [beginsTag, afterPrintOpening?_of_ne h, List.isPrefixOf, Ne.symm h]

/-- No tag begins in a text without braces. -/
theorem isTagFree_of_forall_ne {text : List Char} (h : ∀ c ∈ text, c ≠ '\x7b') :
    isTagFree text := by
  induction text with
  | nil => rfl
  | cons c rest ih =>
    rw [isTagFree, beginsTag_of_ne (h c List.mem_cons_self),
      ih fun d hd ↦ h d (List.mem_cons_of_mem _ hd)]
    rfl

/-- After one brace a tag can only go on with a percent sign, a number sign or another brace. -/
theorem beginsTag_brace_of_ne {c : Char} (hpercent : c ≠ '%') (hnumber : c ≠ '#')
    (hbrace : c ≠ '\x7b')
    (rest : List Char) : beginsTag ('\x7b' :: c :: rest) = false := by
  have hprint : afterPrintOpening? ('\x7b' :: c :: rest) = none := by
    unfold afterPrintOpening?
    split
    · rename_i heq
      exact absurd (List.cons.inj (List.cons.inj heq).2).1 hbrace
    · rfl
  simp [beginsTag, hprint, List.isPrefixOf, Ne.symm hpercent, Ne.symm hnumber]

/-- Two braces begin a tag only with blanks and a dollar sign after them. -/
theorem beginsTag_braces (rest : List Char) :
    beginsTag ('\x7b' :: '\x7b' :: rest) = ((trimLeft rest).head? == some '$') := by
  have hprint := afterPrintOpening?_braces rest
  cases htrim : trimLeft rest with
  | nil => simp [beginsTag, hprint, htrim, List.isPrefixOf]
  | cons c after =>
    by_cases hc : c = '$'
    · subst hc
      simp [beginsTag, hprint, htrim]
    · simp [beginsTag, hprint, htrim, List.isPrefixOf, hc]

/-- A brace and a number sign begin a tag only with another number sign after them. -/
theorem beginsTag_number (rest : List Char) :
    beginsTag ('\x7b' :: '#' :: rest) = (rest.head? == some '#') := by
  have hprint : afterPrintOpening? ('\x7b' :: '#' :: rest) = none := rfl
  cases rest with
  | nil => rfl
  | cons c after => simp [beginsTag, hprint, List.isPrefixOf, eq_comm]

/-- Leading blanks of a text that has others are those of what comes first. -/
theorem trimLeft_append (first second : List Char) :
    trimLeft (first ++ second) =
      if trimLeft first = [] then trimLeft second else trimLeft first ++ second := by
  unfold trimLeft
  rw [List.dropWhile_append]
  simp

/-- Whether a text goes on with no tag that begins before it: it has no second or third character of
an opening where one could stand. -/
structure IsDetached (after : List Char) : Prop where
  percent : after.head? ≠ some '%'
  number : after.head? ≠ some '#'
  dollar : (trimLeft after).head? ≠ some '$'
  brace : ∀ more, after = '\x7b' :: more → (trimLeft more).head? ≠ some '$'

/-- Nothing goes on with no tag. -/
theorem isDetached_nil : IsDetached [] where
  percent := by decide
  number := by decide
  dollar := by decide
  brace := by
    intro more hmore
    cases hmore

/-- A placeholder goes on with no tag but its own. -/
theorem isDetached_braces (more : List Char) : IsDetached ('\x7b' :: '\x7b' :: more) where
  percent := by simp
  number := by simp
  dollar := by
    show some '\x7b' ≠ some '$'
    decide
  brace := by
    rintro _ ⟨⟩
    show some '\x7b' ≠ some '$'
    decide

/-- No tag begins in a stretch of text because of what stands behind it. -/
theorem beginsTag_append {c : Char} {rest after : List Char} (h : beginsTag (c :: rest) = false)
    (hafter : IsDetached after) : beginsTag (c :: rest ++ after) = false := by
  by_cases hc : c = '\x7b'
  swap
  · exact beginsTag_of_ne hc _
  subst hc
  cases rest with
  | nil =>
    cases after with
    | nil => exact h
    | cons d more =>
      by_cases hbrace : d = '\x7b'
      · subst hbrace
        refine (beginsTag_braces more).trans ?_
        exact beq_eq_false_iff_ne.mpr (hafter.brace more rfl)
      · have hpercent : d ≠ '%' := fun heq ↦ hafter.percent (congrArg some heq)
        have hnumber : d ≠ '#' := fun heq ↦ hafter.number (congrArg some heq)
        exact beginsTag_brace_of_ne hpercent hnumber hbrace more
  | cons d rest =>
    by_cases hpercent : d = '%'
    · subst hpercent
      cases h
    by_cases hnumber : d = '#'
    · subst hnumber
      rw [beginsTag_number] at h
      refine (beginsTag_number _).trans ?_
      cases rest with
      | nil => exact beq_eq_false_iff_ne.mpr hafter.number
      | cons e rest => exact h
    by_cases hbrace : d = '\x7b'
    · subst hbrace
      rw [beginsTag_braces] at h
      refine (beginsTag_braces (rest ++ after)).trans ?_
      rw [trimLeft_append]
      cases htrim : trimLeft rest with
      | nil => exact beq_eq_false_iff_ne.mpr hafter.dollar
      | cons e tail => simpa [htrim] using h
    · exact beginsTag_brace_of_ne hpercent hnumber hbrace _

/-- A text of which the rest begins no tag either. -/
theorem isTagFree_cons {c : Char} {rest : List Char} (h : isTagFree (c :: rest)) :
    beginsTag (c :: rest) = false ∧ isTagFree rest := by
  simpa [isTagFree] using h

/-! ### Openings with one blank -/

/-- The first character stays if no print tag opens there. -/
theorem unifyOpenings_of_none {c : Char} {rest : List Char}
    (h : afterPrintOpening? (c :: rest) = none) :
    unifyOpenings (c :: rest) = c :: unifyOpenings rest := by
  rw [unifyOpenings]
  split
  · rename_i after hafter
    rw [h] at hafter
    cases hafter
  · rfl

/-- An opening of a print tag gets one blank. -/
theorem unifyOpenings_of_some {text after : List Char} (h : afterPrintOpening? text = some after) :
    unifyOpenings text = printOpening ++ unifyOpenings after := by
  rw [unifyOpenings]
  split
  · rename_i other hother
    rw [h, Option.some.injEq] at hother
    rw [hother]
  · rename_i hnone
    rw [h] at hnone
    cases hnone

/-- Text without braces stays. -/
theorem unifyOpenings_append_of_forall_ne {first : List Char} (h : ∀ c ∈ first, c ≠ '\x7b')
    (second : List Char) : unifyOpenings (first ++ second) = first ++ unifyOpenings second := by
  induction first with
  | nil => rfl
  | cons c rest ih =>
    have hnone := afterPrintOpening?_of_ne (h c List.mem_cons_self)
    rw [List.cons_append, unifyOpenings_of_none (hnone _),
      ih fun d hd ↦ h d (List.mem_cons_of_mem _ hd), List.cons_append]

/-- What does not begin a tag does not begin with the opening of a print tag. -/
theorem afterPrintOpening?_of_beginsTag {text : List Char} (h : beginsTag text = false) :
    afterPrintOpening? text = none := by
  simp only [beginsTag, Bool.or_eq_false_iff, Option.isSome_eq_false_iff, Option.isNone_iff_eq_none]
    at h
  exact h.2

/-- A stretch of text stays. -/
theorem unifyOpenings_append_of_isTagFree {text after : List Char} (h : isTagFree text)
    (hafter : IsDetached after) :
    unifyOpenings (text ++ after) = text ++ unifyOpenings after := by
  induction text with
  | nil => rfl
  | cons c rest ih =>
    obtain ⟨hbegins, hrest⟩ := isTagFree_cons h
    have hnone := afterPrintOpening?_of_beginsTag (beginsTag_append hbegins hafter)
    rw [List.cons_append] at hnone ⊢
    rw [unifyOpenings_of_none hnone, ih hrest, List.cons_append]

/-- A filter as it is written has no brace that opens and no line end. -/
theorem CodeFilter.ne_of_mem_written {f : CodeFilter} {c : Char} (hc : c ∈ f.written) :
    c ≠ '\x7b' ∧ c ≠ '\r' ∧ c ≠ '\n' := by
  have hall : f.written.all (fun d ↦ d != '\x7b' && d != '\r' && d != '\n') = true := by
    cases f <;> decide
  simpa [and_assoc] using List.all_eq_true.mp hall c hc

/-- What is written after the dollar sign has no brace that opens and no line end. -/
theorem Placeholder.ne_of_mem_inner {p : Placeholder} {c : Char} (hc : c ∈ p.inner) :
    c ≠ '\x7b' ∧ c ≠ '\r' ∧ c ≠ '\n' := by
  simp only [inner, List.mem_append, List.mem_flatMap] at hc
  rcases hc with hname | ⟨f, -, hf⟩ | hend
  · exact ne_of_isNameRest (isNameRest_of_mem p.plain hname)
  · exact CodeFilter.ne_of_mem_written hf
  · have hmark : ∀ d ∈ [' ', '\x7d', '\x7d'], d ≠ '\x7b' ∧ d ≠ '\r' ∧ d ≠ '\n' := by simp
    exact hmark c (by simpa using hend)

/-- The opening of a print tag is recognised whatever its blanks. -/
theorem afterPrintOpening?_blanks {blanks : List Char} (h : ∀ c ∈ blanks, isBlank c)
    (after : List Char) :
    afterPrintOpening? ('\x7b' :: '\x7b' :: (blanks ++ '$' :: after)) = some after := by
  have hnil : trimLeft blanks = [] := by
    simpa [trimLeft, List.dropWhile_eq_nil_iff] using h
  have htrim : trimLeft (blanks ++ '$' :: after) = '$' :: after := by
    rw [trimLeft_append, if_pos hnil]
    rfl
  rw [afterPrintOpening?_braces, htrim]
  rfl

/-- So is that of a placeholder. -/
theorem Placeholder.afterPrintOpening?_written (p : Placeholder) (after : List Char) :
    afterPrintOpening? (p.written ++ after) = some (p.inner ++ after) := by
  have hwritten : p.written ++ after =
      '\x7b' :: '\x7b' :: (p.blanks ++ '$' :: (p.inner ++ after)) := by
    simp [written]
  rw [hwritten, afterPrintOpening?_blanks (List.all_eq_true.mp p.blank)]

/-- The placeholders of a layout go on with no tag. -/
theorem isDetached_writtenParts (parts : List (Placeholder × List Char)) {rest : List Char}
    (hrest : IsDetached rest) : IsDetached (writtenParts parts ++ rest) := by
  cases parts with
  | nil => exact hrest
  | cons part others => exact isDetached_braces _

/-- The placeholders of a layout with one blank go on with no tag. -/
theorem isDetached_unifiedParts (parts : List (Placeholder × List Char)) {rest : List Char}
    (hrest : IsDetached rest) : IsDetached (unifiedParts parts ++ rest) := by
  cases parts with
  | nil => exact hrest
  | cons part others => exact isDetached_braces _

/-- Placeholders with one blank after a first one. -/
theorem unifiedParts_cons (part : Placeholder × List Char)
    (rest : List (Placeholder × List Char)) :
    unifiedParts (part :: rest) = part.1.unified ++ (part.2 ++ unifiedParts rest) := by
  simp [unifiedParts]

/-- Every placeholder gets one blank. -/
theorem unifyOpenings_writtenParts {parts : List (Placeholder × List Char)}
    (h : ∀ part ∈ parts, isTagFree part.2) {rest : List Char} (hrest : IsDetached rest) :
    unifyOpenings (writtenParts parts ++ rest) = unifiedParts parts ++ unifyOpenings rest := by
  induction parts with
  | nil => rfl
  | cons part others ih =>
    have hwritten : writtenParts (part :: others) ++ rest =
        part.1.written ++ (part.2 ++ (writtenParts others ++ rest)) := by
      simp [writtenParts]
    have hbehind : IsDetached (writtenParts others ++ rest) := isDetached_writtenParts others hrest
    rw [hwritten, unifiedParts_cons, unifyOpenings_of_some (part.1.afterPrintOpening?_written _),
      unifyOpenings_append_of_forall_ne fun c hc ↦ (Placeholder.ne_of_mem_inner hc).1,
      unifyOpenings_append_of_isTagFree (h part List.mem_cons_self) hbehind,
      ih fun other hother ↦ h other (List.mem_cons_of_mem _ hother), Placeholder.unified]
    simp only [List.append_assoc]

/-- The stretches of a layout without tags. -/
theorem Layout.isTagFree_iff {layout : Layout} :
    layout.isTagFree ↔ Template.isTagFree layout.lead ∧
      ∀ part ∈ layout.parts, Template.isTagFree part.2 := by
  simp [Layout.isTagFree, Layout.stretches]

/-- Every placeholder of a layout gets one blank, and all else of it stays. -/
theorem unifyOpenings_written_append {layout : Layout} (h : layout.isTagFree) {rest : List Char}
    (hrest : IsDetached rest) :
    unifyOpenings (layout.written ++ rest) = layout.unified ++ unifyOpenings rest := by
  obtain ⟨hlead, hparts⟩ := Layout.isTagFree_iff.mp h
  rw [Layout.written, Layout.unified, List.append_assoc, List.append_assoc,
    unifyOpenings_append_of_isTagFree hlead (isDetached_writtenParts _ hrest),
    unifyOpenings_writtenParts hparts hrest]

/-- Every placeholder of a layout gets one blank, and all else stays. -/
theorem unifyOpenings_written {layout : Layout} (h : layout.isTagFree) :
    unifyOpenings layout.written = layout.unified := by
  have hnil : unifyOpenings [] = [] := by
    rw [unifyOpenings]
    rfl
  have happend := unifyOpenings_written_append h isDetached_nil
  rwa [hnil, List.append_nil, List.append_nil] at happend

/-! ### Whether there is a tag -/

/-- A stretch of text alone is no template. -/
theorem hasTag_of_isTagFree {text : List Char} (h : isTagFree text) : hasTag text = false := by
  induction text with
  | nil => rfl
  | cons c rest ih =>
    obtain ⟨hbegins, hrest⟩ := isTagFree_cons h
    have hprint : printOpening.isPrefixOf (c :: rest) = false := by
      by_contra hprefix
      obtain ⟨after, hafter⟩ := List.isPrefixOf_iff_prefix.mp (Bool.not_eq_false _ ▸ hprefix)
      rw [← hafter] at hbegins
      cases hbegins
    simp only [beginsTag, Bool.or_eq_false_iff] at hbegins
    rw [hasTag, hprint, hbegins.1.1, ih hrest]
    rfl

/-- Text with the opening of a print tag somewhere is a template. -/
theorem hasTag_append_printOpening (text after : List Char) :
    hasTag (text ++ (printOpening ++ after)) := by
  induction text with
  | nil => rfl
  | cons c rest ih => rw [List.cons_append, hasTag, ih, Bool.or_true]

/-- A layout is a template exactly if it has a placeholder. -/
theorem hasTag_unified {layout : Layout} (h : layout.isTagFree) :
    hasTag layout.unified = !layout.parts.isEmpty := by
  cases hparts : layout.parts with
  | nil =>
    rw [Layout.unified, hparts]
    change hasTag (layout.lead ++ []) = false
    rw [List.append_nil]
    exact hasTag_of_isTagFree (Layout.isTagFree_iff.mp h).1
  | cons part rest =>
    rw [Layout.unified, hparts]
    rw [unifiedParts_cons, Placeholder.unified, List.append_assoc]
    exact hasTag_append_printOpening _ _

/-! ### Line ends -/

/-- Leading blanks are blanks after line ends are unified, and nothing else is. -/
theorem trimLeft_unifyNewlines (text : List Char) :
    trimLeft (unifyNewlines text) = unifyNewlines (trimLeft text) := by
  have hreturn : isBlank '\r' = true := by decide
  have hfeed : isBlank '\n' = true := by decide
  fun_induction unifyNewlines text with
  | case1 => rfl
  | case2 rest ih => simpa [trimLeft, hreturn, hfeed] using ih
  | case3 rest _ ih => simpa [trimLeft, hreturn, hfeed] using ih
  | case4 c rest _ hc ih =>
    by_cases hblank : isBlank c = true
    · simpa [trimLeft, hblank] using ih
    · simp [trimLeft, hblank, unifyNewlines_cons_of_ne hc]

/-- No character but those of line ends comes first because line ends are unified. -/
theorem head?_unifyNewlines {c : Char} (hreturn : c ≠ '\r') (hfeed : c ≠ '\n') (text : List Char) :
    (unifyNewlines text).head? == some c ↔ text.head? == some c := by
  fun_cases unifyNewlines text with
  | case1 => exact Iff.rfl
  | case2 rest => simp [hreturn.symm, hfeed.symm]
  | case3 rest => simp [hreturn.symm, hfeed.symm]
  | case4 d rest => exact Iff.rfl

/-- Unifying line ends leaves it open no tag. -/
theorem beginsTag_unifyNewlines {c : Char} {rest : List Char} (hc : c ≠ '\r')
    (h : beginsTag (c :: rest) = false) : beginsTag (c :: unifyNewlines rest) = false := by
  by_cases hbrace : c = '\x7b'
  swap
  · exact beginsTag_of_ne hbrace _
  subst hbrace
  fun_cases unifyNewlines rest with
  | case1 => exact h
  | case2 => exact beginsTag_brace_of_ne (by decide) (by decide) (by decide) _
  | case3 => exact beginsTag_brace_of_ne (by decide) (by decide) (by decide) _
  | case4 d rest _ hd =>
    by_cases hpercent : d = '%'
    · subst hpercent
      cases h
    by_cases hnumber : d = '#'
    · subst hnumber
      rw [beginsTag_number] at h ⊢
      rw [← Bool.not_eq_true] at h ⊢
      rwa [head?_unifyNewlines (by decide) (by decide)]
    by_cases hbrace : d = '\x7b'
    · subst hbrace
      rw [beginsTag_braces] at h ⊢
      rw [← Bool.not_eq_true] at h ⊢
      rwa [trimLeft_unifyNewlines, head?_unifyNewlines (by decide) (by decide)]
    · exact beginsTag_brace_of_ne hpercent hnumber hbrace _

/-- Unifying line ends creates no tag. -/
theorem isTagFree_unifyNewlines {text : List Char} (h : isTagFree text) :
    isTagFree (unifyNewlines text) := by
  have hfeed : ∀ rest, beginsTag ('\n' :: rest) = false := beginsTag_of_ne (by decide)
  fun_induction unifyNewlines text with
  | case1 => rfl
  | case2 rest ih =>
    rw [isTagFree, hfeed, ih (isTagFree_cons (isTagFree_cons h).2).2]
    rfl
  | case3 rest _ ih =>
    rw [isTagFree, hfeed, ih (isTagFree_cons h).2]
    rfl
  | case4 c rest _ hc ih =>
    obtain ⟨hbegins, hrest⟩ := isTagFree_cons h
    rw [isTagFree, beginsTag_unifyNewlines hc hbegins, ih hrest]
    rfl

/-- A placeholder with one blank has no line end. -/
theorem Placeholder.ne_of_mem_unified {p : Placeholder} {c : Char} (hc : c ∈ p.unified) :
    c ≠ '\r' ∧ c ≠ '\n' := by
  have hopening : ∀ d ∈ printOpening, d ≠ '\r' ∧ d ≠ '\n' := by simp [printOpening]
  rcases List.mem_append.mp hc with hmem | hinner
  · exact hopening c hmem
  · exact (ne_of_mem_inner hinner).2

/-- Placeholders and the stretches after them with every stretch changed. -/
def mapParts (change : List Char → List Char) (parts : List (Placeholder × List Char)) :
    List (Placeholder × List Char) :=
  parts.map fun part ↦ (part.1, change part.2)

/-- Placeholders do not begin with a line feed. -/
theorem head?_unifiedParts (parts : List (Placeholder × List Char)) :
    (unifiedParts parts).head? ≠ some '\n' := by
  cases parts with
  | nil => simp [unifiedParts]
  | cons part rest =>
    show some '\x7b' ≠ some '\n'
    decide

/-- Line ends are unified stretch by stretch. -/
theorem unifyNewlines_unifiedParts (parts : List (Placeholder × List Char)) :
    unifyNewlines (unifiedParts parts) = unifiedParts (mapParts unifyNewlines parts) := by
  induction parts with
  | nil => rfl
  | cons part rest ih =>
    have hmapped : unifiedParts (mapParts unifyNewlines (part :: rest)) =
        part.1.unified ++ (unifyNewlines part.2 ++ unifiedParts (mapParts unifyNewlines rest)) := by
      simp [unifiedParts, mapParts]
    rw [unifiedParts_cons, hmapped,
      unifyNewlines_append_of_forall_ne fun c hc ↦ (Placeholder.ne_of_mem_unified hc).1,
      unifyNewlines_append (head?_unifiedParts rest), ih]

/-- Line ends of a layout are unified stretch by stretch. -/
theorem unifyNewlines_unified (layout : Layout) :
    unifyNewlines layout.unified = (layout.mapText unifyNewlines).unified := by
  rw [Layout.unified, unifyNewlines_append (head?_unifiedParts _), unifyNewlines_unifiedParts]
  rfl

/-- A layout without tags has none after line ends are unified. -/
theorem Layout.isTagFree_mapText_unifyNewlines {layout : Layout} (h : layout.isTagFree) :
    (layout.mapText unifyNewlines).isTagFree := by
  obtain ⟨hlead, hparts⟩ := Layout.isTagFree_iff.mp h
  refine Layout.isTagFree_iff.mpr ⟨isTagFree_unifyNewlines hlead, ?_⟩
  intro part hpart
  obtain ⟨original, horiginal, rfl⟩ := List.mem_map.mp hpart
  exact isTagFree_unifyNewlines (hparts original horiginal)

end Scriptorium.Template
