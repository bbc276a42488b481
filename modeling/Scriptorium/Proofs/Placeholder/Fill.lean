import Scriptorium.Proofs.Placeholder.Render

/-!
# The meaning of placeholders

Filling in code that is made of literal text and of placeholders. Such code has no tag but its
placeholders if none begins in the text of its literals, adjacent ones taken together: what stands
before or after a placeholder can begin no tag with it. Then an argument is missed if and only if
some placeholder names one that is not given, and if all are given each literal stays and each
placeholder becomes its argument as its filters make it, the first filter first
(`Arguments.fill_segments`).

The one bound is on the number of filters of a placeholder. Beyond `filterLimit` the code is refused
whatever its arguments are.
-/

set_option autoImplicit false
set_option relaxedAutoImplicit false

namespace Scriptorium.Template

open Text

/-! ### Arguments that are given -/

/-- A name has no text exactly if it is not among the names. -/
theorem lookup_eq_none_iff {entries : List (String × String)} {name : String} :
    entries.lookup name = none ↔ name ∉ entryNames entries := by
  rw [List.lookup_eq_none_iff, entryNames, List.mem_map, not_exists]
  constructor
  · intro h entry hentry
    have hne := h entry hentry.1
    rw [hentry.2] at hne
    exact absurd rfl (bne_iff_ne.mp hne)
  · intro h entry hentry
    rw [bne_iff_ne]
    exact fun hname ↦ h entry ⟨hentry, hname.symm⟩

/-- Placeholders as their arguments and filters make them, and the stretches after them. -/
def filledParts (arguments : List (String × String)) (parts : List (Placeholder × List Char)) :
    List Char :=
  parts.flatMap fun part ↦ part.1.filtered ((arguments.lookup part.1.name).getD "").toList ++ part.2

/-- If all names are given every placeholder becomes its argument. -/
theorem fillPlaceholders_eq_ok {arguments : List (String × String)}
    {parts : List (Placeholder × List Char)}
    (h : ∀ name ∈ partNames parts, name ∈ entryNames arguments) :
    fillPlaceholders arguments parts = .ok (filledParts arguments parts) := by
  induction parts with
  | nil => rfl
  | cons part rest ih =>
    obtain ⟨p, text⟩ := part
    have hrest := ih fun name hname ↦ h name (List.mem_cons_of_mem _ hname)
    have hown : arguments.lookup p.name ≠ none := by
      rw [ne_eq, lookup_eq_none_iff, not_not]
      exact h p.name List.mem_cons_self
    obtain ⟨value, hvalue⟩ := Option.ne_none_iff_exists'.mp hown
    rw [fillPlaceholders, hvalue, hrest]
    simp [filledParts, hvalue, Except.map]

/-- If some name is not given an argument is missed. -/
theorem fillPlaceholders_eq_error {arguments : List (String × String)}
    {parts : List (Placeholder × List Char)}
    (h : ∃ name ∈ partNames parts, name ∉ entryNames arguments) :
    ∃ name, fillPlaceholders arguments parts = .error (.absent (.argument name)) := by
  induction parts with
  | nil =>
    obtain ⟨name, hname, -⟩ := h
    cases hname
  | cons part rest ih =>
    obtain ⟨p, text⟩ := part
    rw [fillPlaceholders]
    cases hvalue : arguments.lookup p.name with
    | none => exact ⟨p.name, rfl⟩
    | some value =>
      have hgiven : p.name ∈ entryNames arguments := by
        by_contra hmissing
        rw [lookup_eq_none_iff.mpr hmissing] at hvalue
        cases hvalue
      obtain ⟨name, hname, hmissing⟩ := h
      have hrest : name ∈ partNames rest := by
        rcases List.mem_cons.mp hname with rfl | hrest
        · exact absurd hgiven hmissing
        · exact hrest
      obtain ⟨other, hother⟩ := ih ⟨name, hrest, hmissing⟩
      exact ⟨other, by rw [hother]; rfl⟩

/-! ### Segments -/

/-- Segments with their placeholders filled in are their layout with its placeholders filled in. -/
theorem filled_ofSegments (a : Scriptorium.Arguments) (segments : List Segment) :
    (Layout.ofSegments segments).lead ++ filledParts a.entries (Layout.ofSegments segments).parts =
      segments.flatMap (Segment.filled a) := by
  induction segments with
  | nil => rfl
  | cons s rest ih =>
    rw [List.flatMap_cons, ← ih]
    cases s <;> simp [Layout.ofSegments, filledParts, Segment.filled, Scriptorium.Arguments.get?]

/-- The names of the placeholders among segments are those of their layout. -/
theorem mem_partNames_ofSegments {segments : List Segment} {name : String} :
    name ∈ partNames (Layout.ofSegments segments).parts ↔
      ∃ p, .placeholder p ∈ segments ∧ p.name = name := by
  have hmap : partNames (Layout.ofSegments segments).parts =
      ((Layout.ofSegments segments).parts.map (·.1)).map Placeholder.name := by
    rw [List.map_map]
    rfl
  rw [hmap, List.mem_map]
  simp only [Layout.mem_ofSegments]

/-- Line ends stay where there is no carriage return. -/
theorem mapText_unifyNewlines {layout : Layout} (h : ∀ text ∈ layout.stretches, '\r' ∉ text) :
    layout.mapText unifyNewlines = layout := by
  obtain ⟨lead, parts⟩ := layout
  have hlead : unifyNewlines lead = lead := unifyNewlines_of_not_mem (h lead List.mem_cons_self)
  have hparts : parts.map (fun part ↦ (part.1, unifyNewlines part.2)) = parts.map id := by
    refine List.map_congr_left ?_
    intro part hpart
    have htext : unifyNewlines part.2 = part.2 :=
      unifyNewlines_of_not_mem (h part.2 (List.mem_cons_of_mem _ (List.mem_map_of_mem hpart)))
    rw [htext]
    rfl
  rw [Layout.mapText, hlead, hparts, List.map_id]

/-- The greatest number of filters that a placeholder can have. -/
def filterLimit : Nat := bracketLimit - 3

/-- Too many brackets are too many filters. -/
theorem isTooNested_iff {parts : List (Placeholder × List Char)} :
    isTooNested parts ↔ ∃ p ∈ parts.map (·.1), filterLimit < p.filters.length := by
  have hlimit : ∀ count, bracketLimit < count + 3 ↔ filterLimit < count := by
    intro count
    rw [filterLimit, bracketLimit]
    omega
  simp [isTooNested, hlimit]

/-- An expression that is too high has too many brackets as well. -/
theorem isTooNested_of_isTooHigh {parts : List (Placeholder × List Char)} (h : isTooHigh parts) :
    isTooNested parts := by
  obtain ⟨part, hpart, hheight⟩ := List.any_eq_true.mp h
  refine List.any_eq_true.mpr ⟨part, hpart, ?_⟩
  rw [decide_eq_true_eq, heightLimit] at hheight
  rw [decide_eq_true_eq, bracketLimit]
  omega

/-- Code is refused whatever the arguments are if a placeholder has too many filters. -/
theorem expand_written_of_isTooNested {layout : Layout} (htags : layout.isTagFree)
    (hnested : isTooNested layout.parts) (arguments : List (String × String)) :
    ∃ fault, expand layout.written arguments = .error (.fault fault) := by
  have hparts : layout.parts.isEmpty = false := by
    cases hparts : layout.parts with
    | nil =>
      rw [hparts] at hnested
      cases hnested
    | cons part rest => rfl
  rw [expand_written htags, hparts, hnested]
  cases isTooHigh layout.parts with
  | true => exact ⟨_, rfl⟩
  | false => exact ⟨_, rfl⟩

/-- Code with placeholders is filled in after its line ends are unified if no placeholder has too
many filters. -/
theorem expand_written_of_not_isTooNested {layout : Layout} (htags : layout.isTagFree)
    (hparts : layout.parts ≠ []) (hnested : isTooNested layout.parts = false)
    (arguments : List (String × String)) :
    expand layout.written arguments = (layout.mapText unifyNewlines).fill arguments := by
  have hhigh : isTooHigh layout.parts = false := by
    by_contra hhigh
    rw [isTooNested_of_isTooHigh (Bool.not_eq_false _ ▸ hhigh)] at hnested
    cases hnested
  rw [expand_written htags, hhigh, hnested, List.isEmpty_eq_false_iff.mpr hparts]
  rfl

/-- Code without placeholders stays. -/
theorem expand_written_of_parts_eq_nil {layout : Layout} (htags : layout.isTagFree)
    (hparts : layout.parts = [])
    (arguments : List (String × String)) :
    expand layout.written arguments = layout.fill arguments := by
  have hfill : layout.fill arguments = .ok layout.lead := by
    rw [Layout.fill, hparts]
    exact congrArg _ (List.append_nil layout.lead)
  rw [expand_written htags, hfill, hparts]
  rfl

/-- Code without carriage returns is filled in if no placeholder has too many filters. -/
theorem expand_written_of_not_mem {layout : Layout} (htags : layout.isTagFree)
    (hreturns : ∀ text ∈ layout.stretches, '\r' ∉ text) (hnested : isTooNested layout.parts = false)
    (arguments : List (String × String)) :
    expand layout.written arguments = layout.fill arguments := by
  by_cases hparts : layout.parts = []
  · exact expand_written_of_parts_eq_nil htags hparts arguments
  · rw [expand_written_of_not_isTooNested htags hparts hnested, mapText_unifyNewlines hreturns]

end Scriptorium.Template

namespace Scriptorium.Arguments

open Template

variable {segments : List Segment}

/-- Code is refused whatever the arguments are if a placeholder has too many filters. -/
theorem fill_eq_error_of_filterLimit_lt (htags : (Layout.ofSegments segments).isTagFree)
    (hfilters : ∃ p, .placeholder p ∈ segments ∧ filterLimit < p.filters.length) (a : Arguments) :
    ∃ fault, a.fill (String.ofList (segments.flatMap Segment.written)) =
      .error (.operation fault) := by
  obtain ⟨p, hp, hcount⟩ := hfilters
  have hnested := isTooNested_iff.mpr ⟨p, Layout.mem_ofSegments.mpr hp, hcount⟩
  obtain ⟨fault, hfault⟩ := expand_written_of_isTooNested htags hnested a.entries
  refine ⟨fault, ?_⟩
  rw [fill, String.toList_ofList, ← Layout.written_ofSegments, hfault]
  rfl

/-- Code is filled in if no placeholder has too many filters. -/
theorem expand_segments (htags : (Layout.ofSegments segments).isTagFree)
    (hreturns : ∀ text, .literal text ∈ segments → '\r' ∉ text)
    (hfilters : ∀ p, .placeholder p ∈ segments → p.filters.length ≤ filterLimit) (a : Arguments) :
    expand (segments.flatMap Segment.written) a.entries =
      (Layout.ofSegments segments).fill a.entries := by
  have hstretches : ∀ text ∈ (Layout.ofSegments segments).stretches, '\r' ∉ text := by
    intro text htext hmem
    obtain ⟨literal, hliteral, hreturn⟩ := Layout.exists_literal_of_mem htext hmem
    exact hreturns literal hliteral hreturn
  have hnested : isTooNested (Layout.ofSegments segments).parts = false := by
    rw [← Bool.not_eq_true, isTooNested_iff]
    rintro ⟨p, hp, hcount⟩
    exact absurd (hfilters p (Layout.mem_ofSegments.mp hp)) (Nat.not_le_of_lt hcount)
  rw [← Layout.written_ofSegments]
  exact expand_written_of_not_mem htags hstretches hnested a.entries

/-- The meaning of code that is made of literal text and of placeholders. It is refused if a
placeholder has too many filters. Otherwise an argument is missed exactly if a placeholder names one
that is not given, and if all are given the literals stay and each placeholder is its argument as
its filters make it.

Assumes: no tag begins in the literals, adjacent ones taken together, and they have no carriage
return. -/
theorem fill_segments (htags : (Layout.ofSegments segments).isTagFree)
    (hreturns : ∀ text, .literal text ∈ segments → '\r' ∉ text) (a : Arguments) :
    ((∃ p, .placeholder p ∈ segments ∧ filterLimit < p.filters.length) →
      ∃ fault, a.fill (String.ofList (segments.flatMap Segment.written)) =
        .error (.operation fault)) ∧
    ((∀ p, .placeholder p ∈ segments → p.filters.length ≤ filterLimit) →
      ((∃ cause, a.fill (String.ofList (segments.flatMap Segment.written)) =
        .error (.missingArgument cause)) ↔
        ∃ p, .placeholder p ∈ segments ∧ p.name ∉ a.names) ∧
      ((∀ p, .placeholder p ∈ segments → p.name ∈ a.names) →
        a.fill (String.ofList (segments.flatMap Segment.written)) =
          .ok (String.ofList (segments.flatMap (Segment.filled a))))) := by
  refine ⟨fun hmany ↦ fill_eq_error_of_filterLimit_lt htags hmany a, ?_⟩
  intro hfilters
  have hexpand := expand_segments htags hreturns hfilters a
  have hgiven : (∀ p, .placeholder p ∈ segments → p.name ∈ a.names) →
      a.fill (String.ofList (segments.flatMap Segment.written)) =
        .ok (String.ofList (segments.flatMap (Segment.filled a))) := by
    intro hnames
    have hparts : ∀ name ∈ partNames (Layout.ofSegments segments).parts,
        name ∈ entryNames a.entries := by
      intro name hname
      obtain ⟨p, hp, rfl⟩ := mem_partNames_ofSegments.mp hname
      exact hnames p hp
    rw [fill, String.toList_ofList, hexpand, Layout.fill, fillPlaceholders_eq_ok hparts,
      ← filled_ofSegments]
    rfl
  refine ⟨⟨?_, ?_⟩, hgiven⟩
  · rintro ⟨cause, hcause⟩
    by_contra hnone
    have hnames : ∀ p, .placeholder p ∈ segments → p.name ∈ a.names := by
      intro p hp
      by_contra hmissing
      exact hnone ⟨p, hp, hmissing⟩
    rw [hgiven hnames] at hcause
    cases hcause
  · rintro ⟨p, hp, hmissing⟩
    obtain ⟨name, hname⟩ := fillPlaceholders_eq_error
      ⟨p.name, mem_partNames_ofSegments.mpr ⟨p, hp, rfl⟩, hmissing⟩
    refine ⟨.argument name, ?_⟩
    rw [fill, String.toList_ofList, hexpand, Layout.fill, hname]
    rfl

/-- Text with braces of its own, and a placeholder without a blank. -/
def formatSegments : List Segment :=
  [.literal "docker ps --format '\x7b\x7b.Names\x7d\x7d' --filter name=".toList,
    .placeholder { blanks := [], name := "container", filters := [.escapeDoubleQuotes] },
    .literal ['\n']]

/-- An argument with a double quote. -/
def formatArguments : Arguments := ⟨[("container", "a\"b")], by decide⟩

/-- The braces and the line end stay, and the double quote is escaped. -/
theorem fill_formatSegments :
    formatArguments.fill ("docker ps --format '\x7b\x7b.Names\x7d\x7d' --filter name=" ++
        "\x7b\x7b$container | escape_double_quotes \x7d\x7d\n") =
      .ok "docker ps --format '\x7b\x7b.Names\x7d\x7d' --filter name=a\"^\"\"b\n" := by
  have htags : (Layout.ofSegments formatSegments).isTagFree := by decide +kernel
  have hreturns : ∀ text, .literal text ∈ formatSegments → '\r' ∉ text := by
    intro text htext
    simp only [formatSegments, List.mem_cons, Segment.literal.injEq, List.not_mem_nil, reduceCtorEq,
      or_false, false_or] at htext
    rcases htext with rfl | rfl <;> decide
  have hfilters : ∀ p, .placeholder p ∈ formatSegments → p.filters.length ≤ filterLimit := by
    intro p hp
    simp only [formatSegments, List.mem_cons, Segment.placeholder.injEq, List.not_mem_nil,
      reduceCtorEq, or_false, false_or] at hp
    subst hp
    decide
  have hnames : ∀ p, .placeholder p ∈ formatSegments → p.name ∈ formatArguments.names := by
    intro p hp
    simp only [formatSegments, List.mem_cons, Segment.placeholder.injEq, List.not_mem_nil,
      reduceCtorEq, or_false, false_or] at hp
    subst hp
    decide
  exact ((fill_segments htags hreturns formatArguments).2 hfilters).2 hnames

/-- A placeholder with one filter more than the limit. -/
def nestedSegments : List Segment :=
  [.placeholder { blanks := [' '], name := "a", filters := List.replicate 198 .escapeDoubleQuotes }]

/-- The argument of the placeholder. -/
def nestedArguments : Arguments := ⟨[("a", "v")], by decide⟩

/-- The argument of a placeholder with more filters than the limit is given, and the code is
refused. -/
theorem fill_nestedSegments :
    (Layout.ofSegments nestedSegments).isTagFree ∧
      (∀ text, .literal text ∈ nestedSegments → '\r' ∉ text) ∧
      (∀ p, .placeholder p ∈ nestedSegments → p.name ∈ nestedArguments.names) ∧
      nestedArguments.fill (String.ofList (nestedSegments.flatMap Segment.written)) ≠
        .ok (String.ofList (nestedSegments.flatMap (Segment.filled nestedArguments))) := by
  have htags : (Layout.ofSegments nestedSegments).isTagFree := by decide
  refine ⟨htags, ?_, ?_, ?_⟩
  · intro text htext
    rcases List.mem_singleton.mp htext with ⟨⟩
  · intro p hp
    rcases List.mem_singleton.mp hp with ⟨⟩
    decide
  · have hcount : filterLimit < (List.replicate 198 CodeFilter.escapeDoubleQuotes).length := by
      rw [List.length_replicate]
      decide
    obtain ⟨fault, hfault⟩ :=
      fill_eq_error_of_filterLimit_lt htags ⟨_, List.mem_cons_self, hcount⟩ nestedArguments
    rw [hfault]
    intro heq
    cases heq

end Scriptorium.Arguments
