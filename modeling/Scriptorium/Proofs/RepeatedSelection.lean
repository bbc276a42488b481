import Mathlib.Data.List.Pairwise
import Scriptorium.Proofs.SafeGeneration

/-!
# Selections that are refused as repeated

Which selections are refused because a title stands in them twice. A selection repeats another if
both are of a script of the same name and for the same purpose (`Selection.Repeats`). Titles tell
the purpose by a mark behind the name, so they are the same in one more case: a script is reverted,
and another is applied whose name is the marked name of the first (`Selection.Clashes`,
`title_eq_iff`).

Selections are added one after the other until one has the title of an earlier one. What the run
has before it are the titles that are known, so the first title that is known or stands twice is the
one it is refused for (`addSelections_eq_selectedTwice_iff`). `selectedTwice_iff` is the whole: of
selections that are ready nothing else can go wrong, and those that are not refused have a section
of their own each.
-/

set_option autoImplicit false
set_option relaxedAutoImplicit false

namespace Scriptorium

namespace Selection

/-- Whether two selections are of scripts of one name, for the same purpose. -/
def Repeats (s t : Selection) : Prop := s.script.name = t.script.name ∧ s.revert = t.revert

/-- Whether a script is reverted under the name of another that is applied. -/
def Clashes (s t : Selection) : Prop :=
  s.revert = true ∧ t.revert = false ∧ s.script.name ++ " (revert)" = t.script.name

variable {s t : Selection}

/-- Titles are the same for selections that repeat each other, and for those that clash. -/
theorem title_eq_iff : s.title = t.title ↔ s.Repeats t ∨ s.Clashes t ∨ t.Clashes s := by
  unfold title Repeats Clashes
  cases hs : s.revert <;> cases ht : t.revert <;> simp [eq_comm]

/-- Titles differ exactly if no two selections repeat each other or clash. -/
theorem nodup_title_iff {selections : List Selection} :
    (selections.map title).Nodup ↔
      ¬ ∃ s t, [s, t].Sublist selections ∧ (s.Repeats t ∨ s.Clashes t ∨ t.Clashes s) := by
  rw [List.Nodup, List.pairwise_map, List.pairwise_iff_forall_sublist]
  simp only [ne_eq, title_eq_iff]
  push Not
  rfl

end Selection

namespace Generated

variable {b : Draft} {positions : List Position} {selections : List Selection} {title : String}

/-- Whether a title is the first of selections that is known or stands before. -/
def IsFirstRepeated (known : List String) (selections : List Selection) (title : String) : Prop :=
  ∃ before s after, selections = before ++ s :: after ∧
    (∀ t ∈ before, t.title ∉ known) ∧ (before.map Selection.title).Nodup ∧
      s.title ∈ known ++ before.map Selection.title ∧ s.title = title

theorem not_isFirstRepeated_nil (known : List String) : ¬ IsFirstRepeated known [] title := by
  rintro ⟨before, s, after, h, -⟩
  exact List.append_ne_nil_of_right_ne_nil before (List.cons_ne_nil s after) h.symm

/-- The first title that is known is that of the first selection if it is known, and otherwise it is
among those of the others, once the title of the first is known as well. -/
theorem isFirstRepeated_cons {known : List String} {s : Selection} {rest : List Selection} :
    IsFirstRepeated known (s :: rest) title ↔
      if s.title ∈ known then s.title = title
      else IsFirstRepeated (known ++ [s.title]) rest title := by
  split
  · rename_i hknown
    constructor
    · rintro ⟨before, t, after, h, hfresh, -, -, htitle⟩
      cases before with
      | nil =>
        obtain ⟨rfl, rfl⟩ := List.cons.inj h
        exact htitle
      | cons first others =>
        obtain ⟨rfl, -⟩ := List.cons.inj h
        exact absurd hknown (hfresh s List.mem_cons_self)
    · exact fun htitle ↦ ⟨[], s, rest, rfl, by simp, .nil, by simpa using hknown, htitle⟩
  · rename_i hnew
    constructor
    · rintro ⟨before, t, after, h, hfresh, hnodup, hmem, htitle⟩
      cases before with
      | nil =>
        obtain ⟨rfl, rfl⟩ := List.cons.inj h
        exact absurd (by simpa using hmem) hnew
      | cons first others =>
        obtain ⟨rfl, rfl⟩ := List.cons.inj h
        obtain ⟨hfirst, hothers⟩ := List.nodup_cons.mp hnodup
        refine ⟨others, t, after, rfl, fun u hu hold ↦ ?_, hothers, by simpa using hmem, htitle⟩
        rcases List.mem_append.mp hold with hknown | hsame
        · exact hfresh u (List.mem_cons_of_mem _ hu) hknown
        · exact hfirst (List.mem_singleton.mp hsame ▸ List.mem_map_of_mem hu)
    · rintro ⟨before, t, after, rfl, hfresh, hnodup, hmem, htitle⟩
      refine ⟨s :: before, t, after, rfl, ?_, List.nodup_cons.mpr ⟨fun hsame ↦ ?_, hnodup⟩,
        by simpa using hmem, htitle⟩
      · intro u hu hold
        rcases List.mem_cons.mp hu with rfl | hu
        · exact hnew hold
        · exact hfresh u hu (List.mem_append_left _ hold)
      · obtain ⟨u, hu, heq⟩ := List.mem_map.mp hsame
        exact hfresh u hu (by simp [heq])

/-- Some title stands twice exactly if one is the first to do so. -/
theorem exists_isFirstRepeated_iff :
    (∃ title, IsFirstRepeated [] selections title) ↔
      ¬ (selections.map Selection.title).Nodup := by
  have hextend : ∀ rest known, known.Nodup →
      ((∃ title, IsFirstRepeated known rest title) ↔
        ¬ (known ++ rest.map Selection.title).Nodup) := by
    intro rest
    induction rest with
    | nil =>
      intro known hknown
      simp [not_isFirstRepeated_nil, hknown]
    | cons s rest ih =>
      intro known hknown
      simp only [isFirstRepeated_cons]
      by_cases hmem : s.title ∈ known
      · simp only [if_pos hmem]
        refine ⟨fun _ hnodup ↦ ?_, fun _ ↦ ⟨s.title, rfl⟩⟩
        exact List.disjoint_of_nodup_append hnodup hmem List.mem_cons_self
      · simp only [if_neg hmem]
        have hlonger : (known ++ [s.title]).Nodup :=
          List.nodup_append.mpr ⟨hknown, by simp, by simpa using List.forall_mem_ne'.mpr hmem⟩
        rw [ih _ hlonger, List.append_assoc]
        rfl
  exact hextend selections [] .nil

/-! ### The run -/

/-- What is ready is refused as repeated exactly for the first title that is known or stands
twice. -/
theorem addSelections_eq_selectedTwice_iff (hready : ∀ s ∈ selections, s.IsReady) :
    addSelections b positions selections = .error (.argument (.selectedTwice title)) ↔
      IsFirstRepeated (positions.map Position.title) selections title := by
  induction selections generalizing b positions with
  | nil =>
    refine iff_of_false (fun h ↦ ?_) (not_isFirstRepeated_nil _)
    cases h
  | cons s rest ih =>
    rw [isFirstRepeated_cons]
    split
    · rename_i hknown
      have htwice : addSelection b positions s = .error (.argument (.selectedTwice s.title)) :=
        if_pos hknown
      rw [addSelections, htwice]
      constructor
      · intro h
        cases h
        rfl
      · rintro rfl
        rfl
    · rename_i hnew
      obtain ⟨next, recorded, hadded, htitles⟩ :=
        exists_addSelection (b := b) (hready s List.mem_cons_self) hnew
      rw [addSelections, hadded, ← htitles]
      exact ih fun t ht ↦ hready t (List.mem_cons_of_mem s ht)

variable {w : Wrapping} {d : Dialect}

/-- A script is refused for a repeated title exactly if it is the first one. -/
theorem ofSelections?_eq_selectedTwice_iff (hd : Dialect.ofValue? w.language = .ok d)
    (hready : ∀ s ∈ selections, s.IsReady) :
    ofSelections? selections w = .error (.argument (.selectedTwice title)) ↔
      IsFirstRepeated [] selections title := by
  by_cases hnone : selections = []
  · subst hnone
    refine iff_of_false (fun h ↦ ?_) (not_isFirstRepeated_nil _)
    cases h
  · have hrun (opened : Draft) :
        addSelections opened [] selections = .error (.argument (.selectedTwice title)) ↔
          IsFirstRepeated [] selections title := addSelections_eq_selectedTwice_iff hready
    rw [ofSelections?, List.isEmpty_eq_false_iff.mpr hnone, if_neg Bool.false_ne_true, hd]
    show (addSelections _ [] selections >>= _) = _ ↔ _
    refine (bind_eq_error_iff.trans (or_iff_left ?_)).trans (hrun _)
    rintro ⟨added, -, hclosed⟩
    cases hclosed

/-- Of selections that are ready, under different titles, a script is made with a section for each;
the sections stand one behind the other. -/
theorem exists_separate_sections (hd : Dialect.ofValue? w.language = .ok d)
    (hready : ∀ s ∈ selections, s.IsReady) (hnodup : (selections.map Selection.title).Nodup) :
    ∃ g, ofSelections? selections w = .ok g ∧ g.HasSections d w selections ∧
      g.positions.Pairwise fun p q ↦ p.last < q.first := by
  obtain ⟨g, hg, hsections⟩ := exists_ofSelections? hd hready hnodup
  refine ⟨g, hg, hsections, ?_⟩
  by_cases hnone : selections = []
  · subst hnone
    obtain rfl := Except.ok.inj hg
    exact .nil
  · obtain ⟨e, -, -, hpositions⟩ := ofSelections?_eq_ok hnone hg
    rw [hpositions]
    exact pairwise_positionsFrom e _ selections

/-- Selections that are ready are refused as repeated exactly if two of them are of scripts of one
name and for the same purpose, or clash. So if none of them clash only a true repetition is refused.
All others get a section each, one behind the other, under titles that differ.

Assumes: the dialect is known, and each script has a name and code for what it is selected for. -/
theorem selectedTwice_iff (hd : Dialect.ofValue? w.language = .ok d)
    (hready : ∀ s ∈ selections, s.IsReady) :
    ((∃ title, ofSelections? selections w = .error (.argument (.selectedTwice title))) ↔
        ∃ s t, [s, t].Sublist selections ∧ (s.Repeats t ∨ s.Clashes t ∨ t.Clashes s)) ∧
      ((∀ s ∈ selections, ∀ t ∈ selections, ¬ s.Clashes t) →
        ((∃ title, ofSelections? selections w = .error (.argument (.selectedTwice title))) ↔
          ∃ s t, [s, t].Sublist selections ∧ s.Repeats t)) ∧
      ((¬ ∃ s t, [s, t].Sublist selections ∧ (s.Repeats t ∨ s.Clashes t ∨ t.Clashes s)) →
        ∃ g, ofSelections? selections w = .ok g ∧ g.HasSections d w selections ∧
          g.positions.Pairwise fun p q ↦ p.last < q.first) := by
  have hrefused :
      (∃ title, ofSelections? selections w = .error (.argument (.selectedTwice title))) ↔
        ∃ s t, [s, t].Sublist selections ∧ (s.Repeats t ∨ s.Clashes t ∨ t.Clashes s) := by
    simp only [ofSelections?_eq_selectedTwice_iff hd hready]
    rw [exists_isFirstRepeated_iff, Selection.nodup_title_iff, not_not]
  refine ⟨hrefused, fun hclash ↦ hrefused.trans ?_, fun hapart ↦ ?_⟩
  · refine exists_congr fun s ↦ exists_congr fun t ↦ and_congr_right fun hsublist ↦ ?_
    have hs : s ∈ selections := hsublist.subset (by simp)
    have ht : t ∈ selections := hsublist.subset (by simp)
    exact or_iff_left (not_or.mpr ⟨hclash s hs t ht, hclash t ht s hs⟩)
  · exact exists_separate_sections hd hready (Selection.nodup_title_iff.mpr hapart)

/-- A script that is applied and reverted has two sections; with both once more it is refused. -/
theorem selectedTwice_iff_clean :
    Dialect.ofValue? cleanWrapping.language = .ok .batch ∧
      (∀ s ∈ cleanSelections ++ cleanSelections, s.IsReady) ∧
      (∃ title, ofSelections? (cleanSelections ++ cleanSelections) cleanWrapping =
        .error (.argument (.selectedTwice title))) ∧
      ∃ g, ofSelections? cleanSelections cleanWrapping = .ok g ∧
        g.HasSections .batch cleanWrapping cleanSelections := by
  have hd : Dialect.ofValue? cleanWrapping.language = .ok .batch := rfl
  have hclean : ∀ s ∈ cleanSelections, s.IsReady :=
    List.forall_mem_cons.mpr ⟨⟨by decide, _, rfl, by decide⟩,
      List.forall_mem_singleton.mpr ⟨by decide, _, rfl, by decide⟩⟩
  have hready : ∀ s ∈ cleanSelections ++ cleanSelections, s.IsReady := fun s hs ↦
    hclean s (by simpa using hs)
  refine ⟨hd, hready, (selectedTwice_iff hd hready).1.mpr (by_contra fun hapart ↦ ?_), ?_⟩
  · exact absurd (Selection.nodup_title_iff.mpr hapart) (by decide)
  · obtain ⟨g, hg, hsections, -⟩ :=
      (selectedTwice_iff hd hclean).2.2 (Selection.nodup_title_iff.mp (by decide))
    exact ⟨g, hg, hsections⟩

/-- A script that can be reverted, and one that goes by the name under which the first is. -/
def undoDefinition : Definition.Collection where
  os := none
  scripting := some ⟨some "shellscript", none, none, none⟩
  functions := []
  actions :=
    [⟨some "Cache", none, some
      [.script ⟨some "Clear", none, some "rm cache", some "touch cache", none, none⟩,
        .script ⟨some "Clear (revert)", none, some "ls", none, none, none⟩]⟩]

/-- The script that can be reverted. -/
def clearScript : Script := ⟨"Clear", [], none, ⟨"rm cache", some "touch cache"⟩⟩

/-- The script that goes by its marked name. -/
def undoScript : Script := ⟨"Clear (revert)", [], none, ⟨"ls", none⟩⟩

/-- To revert the one script of a collection and to apply the other is refused as if a script were
selected twice, though neither the names nor the purposes are the same. -/
theorem selectedTwice_of_clash :
    ∃ c : Collection, c.IsBuilt ⟨"sample", "1.0", ""⟩ ⟨2024, 5, 17⟩ ∧
      clearScript ∈ c.scripts ∧ undoScript ∈ c.scripts ∧
      (∀ s ∈ [⟨clearScript, true⟩, ⟨undoScript, false⟩], Selection.IsReady s) ∧
      ¬ Selection.Repeats ⟨clearScript, true⟩ ⟨undoScript, false⟩ ∧
      ofSelections? [⟨clearScript, true⟩, ⟨undoScript, false⟩] c.scripting.wrapping =
        .error (.argument (.selectedTwice "Clear (revert)")) := by
  have hscripts : (undoDefinition.build ⟨"sample", "1.0", ""⟩ ⟨2024, 5, 17⟩).toOption.map
      Collection.scripts = some [clearScript, undoScript] := by
    decide +kernel
  obtain ⟨c, hbuilt, hc⟩ := exists_eq_ok_of_map_toOption hscripts
  have hready : ∀ s ∈ [⟨clearScript, true⟩, ⟨undoScript, false⟩], Selection.IsReady s :=
    List.forall_mem_cons.mpr ⟨⟨by decide, _, rfl, by decide⟩,
      List.forall_mem_singleton.mpr ⟨by decide, _, rfl, by decide⟩⟩
  refine ⟨c, .inl ⟨undoDefinition, hbuilt⟩, by simp [hc], by simp [hc], hready,
    by simp [Selection.Repeats], ?_⟩
  rw [ofSelections?_eq_selectedTwice_iff (Dialect.ofValue?_name c.scripting.dialect) hready]
  exact ⟨[⟨clearScript, true⟩], ⟨undoScript, false⟩, [], rfl, by simp, by simp, by decide, rfl⟩

end Generated

end Scriptorium
