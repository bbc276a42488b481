import Scriptorium.Command
import Scriptorium.Proofs.ScriptLayout
import Scriptorium.Proofs.ValidCollection

/-!
# Generation that cannot fail

A script is made of every selection from a collection that is built. What can go wrong in a run over
a selection is that a script has no name, no code, or none that reverts it (`Selection.IsReady`),
and that a title stands twice. Scripts of a collection have names and code, and are told apart by
their names. So are their titles, because the scripts of one run are all applied or all reverted
(`nodup_title_selectionOf`), and what cannot be reverted is left out before.

The step for one selection (`exists_addSelection`) gives the run (`exists_ofSelections?`), which
goes through for scripts of a valid collection (`exists_generated_of_isValid`).
`exists_generated_of_isBuilt` is the whole: any scripts of the collection, in any order, can be
applied or reverted, and all that a command line can choose are such scripts.
-/

set_option autoImplicit false
set_option relaxedAutoImplicit false

namespace Scriptorium

/-- Whether a selected script has a name, and code for what it is selected for. -/
structure Selection.IsReady (s : Selection) : Prop where
  named : s.script.name ≠ ""
  runs : ∃ code, s.code = .ok code ∧ code ≠ ""

theorem Selection.title_ne_empty {s : Selection} (h : s.script.name ≠ "") : s.title ≠ "" := by
  unfold title
  split
  · intro hempty
    have hlength := congrArg String.length hempty
    rw [String.length_append] at hlength
    exact absurd (Nat.add_eq_zero_iff.mp hlength).2 (by decide)
  · exact h

namespace Generated

variable {b : Draft} {positions : List Position} {selections : List Selection}

/-- A selected script that is ready is added, if its title is new. -/
theorem exists_addSelection {s : Selection} (hready : s.IsReady)
    (hnew : s.title ∉ positions.map Position.title) :
    ∃ after recorded, addSelection b positions s = .ok (after, recorded) ∧
      recorded.map Position.title = positions.map Position.title ++ [s.title] := by
  obtain ⟨code, hcode, hne⟩ := hready.runs
  let written := b.extend (sectionLines b.dialect s.title code)
  have hwritten : b.addSection s.title code = .ok written :=
    Draft.addSection_eq_ok_iff.mpr ⟨Selection.title_ne_empty hready.named, hne, rfl⟩
  have hadded : addSelection b positions s =
      .ok (written.blank, positions ++ [⟨s.title, b.size + 1, written.size⟩]) := by
    rw [addSelection, if_neg hnew]
    exact bind_eq_ok_iff.mpr ⟨code, hcode, bind_eq_ok_iff.mpr ⟨written, hwritten, rfl⟩⟩
  exact ⟨_, _, hadded, by simp⟩

/-- Selected scripts that are ready are added, if their titles are new and different. -/
theorem exists_addSelections (hready : ∀ s ∈ selections, s.IsReady)
    (hnodup : (positions.map Position.title ++ selections.map Selection.title).Nodup) :
    ∃ after recorded, addSelections b positions selections = .ok (after, recorded) := by
  induction selections generalizing b positions with
  | nil => exact ⟨b, positions, rfl⟩
  | cons s rest ih =>
    have hnew : s.title ∉ positions.map Position.title := fun hmem ↦
      List.disjoint_of_nodup_append hnodup hmem List.mem_cons_self
    obtain ⟨next, known, hfirst, hknown⟩ :=
      exists_addSelection (b := b) (hready s List.mem_cons_self) hnew
    have hlater : (known.map Position.title ++ rest.map Selection.title).Nodup := by
      rw [hknown, List.append_assoc]
      exact hnodup
    obtain ⟨after, recorded, hrest⟩ := ih (fun t ht ↦ hready t (List.mem_cons_of_mem s ht)) hlater
    exact ⟨after, recorded, bind_eq_ok_iff.mpr ⟨_, hfirst, hrest⟩⟩

/-- Whether a script that is generated in a dialect has the sections of a selection, one for each
selected script, in their order. -/
structure HasSections (g : Generated) (d : Dialect) (w : Wrapping) (selections : List Selection) :
    Prop where
  titles : g.positions.map Position.title = selections.map Selection.title
  distinct : (g.positions.map Position.title).Nodup
  code : selections ≠ [] → g.code = String.intercalate d.lineEnd (scriptLines d w selections)

/-- From selected scripts that are ready and have different titles a script is made. -/
theorem exists_ofSelections? {w : Wrapping} {d : Dialect} (hd : Dialect.ofValue? w.language = .ok d)
    (hready : ∀ s ∈ selections, s.IsReady) (hnodup : (selections.map Selection.title).Nodup) :
    ∃ g, ofSelections? selections w = .ok g ∧ g.HasSections d w selections := by
  by_cases hnone : selections = []
  · subst hnone
    exact ⟨⟨"", []⟩, rfl, rfl, List.nodup_nil, fun hsome ↦ absurd rfl hsome⟩
  · obtain ⟨g, hg⟩ : ∃ g, ofSelections? selections w = .ok g := by
      have hnew : (([] : List Position).map Position.title ++
          selections.map Selection.title).Nodup := hnodup
      obtain ⟨after, recorded, hrun⟩ := exists_addSelections
        (b := if w.startCode = "" then Draft.empty d
          else ((Draft.empty d).code w.startCode).blank) hready hnew
      rw [ofSelections?, List.isEmpty_eq_false_iff.mpr hnone, if_neg Bool.false_ne_true]
      exact ⟨_, bind_eq_ok_iff.mpr ⟨d, hd, bind_eq_ok_iff.mpr ⟨_, hrun, rfl⟩⟩⟩
    obtain ⟨e, he, hcode, hpositions⟩ := ofSelections?_eq_ok hnone hg
    obtain rfl := Except.ok.inj (hd.symm.trans he)
    have htitles : g.positions.map Position.title = selections.map Selection.title := by
      rw [hpositions, map_title_positionsFrom]
    refine ⟨g, hg, htitles, ?_, fun _ ↦ hcode⟩
    rw [htitles]
    exact hnodup

end Generated

/-! ### Scripts of a collection -/

namespace Command

variable {scripts : List Script} {c : Collection}

/-- What is selected are some of the scripts, all in the same way. -/
theorem mem_selectionOf {revert : Bool} {s : Selection} (h : s ∈ selectionOf scripts revert) :
    s.script ∈ scripts ∧ s.revert = revert ∧ (revert = true → s.script.canRevert = true) := by
  unfold selectionOf at h
  obtain ⟨script, hscript, rfl⟩ := List.mem_map.mp h
  cases revert with
  | false => exact ⟨hscript, rfl, fun hfalse ↦ absurd hfalse Bool.false_ne_true⟩
  | true =>
    obtain ⟨hmem, hcan⟩ := List.mem_filter.mp hscript
    exact ⟨hmem, rfl, fun _ ↦ hcan⟩

/-- Scripts with different names have different titles, all applied or all reverted. -/
theorem nodup_title_selectionOf (h : (scripts.map Script.name).Nodup) (revert : Bool) :
    ((selectionOf scripts revert).map Selection.title).Nodup := by
  cases revert with
  | false => simpa [selectionOf, Selection.title, Function.comp_def] using h
  | true =>
    have hkept : ((scripts.filter Script.canRevert).map Script.name).Nodup :=
      h.sublist (List.filter_sublist.map Script.name)
    have hmarked := hkept.map (f := fun name ↦ name ++ " (revert)") fun _ _ heq ↦ by
      simpa using heq
    simpa [selectionOf, Selection.title, Function.comp_def] using hmarked

/-- A script that is valid is ready to be applied, and to be reverted if it can be. -/
theorem isReady_of_isValid {d : Dialect} {s : Selection} (hvalid : s.script.IsValid d)
    (hcan : s.revert = true → s.script.canRevert = true) : s.IsReady := by
  refine ⟨hvalid.named, ?_⟩
  unfold Selection.code
  cases hrevert : s.revert with
  | false =>
    refine ⟨s.script.code.execute, by simp, fun hempty ↦ ?_⟩
    obtain ⟨c, hc, -⟩ := hvalid.runs
    rw [hempty] at hc
    cases hc
  | true =>
    have hcode := hcan hrevert
    unfold Script.canRevert at hcode
    cases hsome : s.script.code.revert with
    | none => simp [hsome] at hcode
    | some code => exact ⟨code, by simp [(hvalid.reverts code hsome).1],
        (hvalid.reverts code hsome).1⟩

/-- Different scripts of a valid collection have different names. -/
theorem nodup_name_of_subset (hvalid : c.IsValid) (hnodup : scripts.Nodup)
    (hscripts : ∀ s ∈ scripts, s ∈ c.scripts) : (scripts.map Script.name).Nodup :=
  hnodup.map_on fun s hs t ht heq ↦
    List.inj_on_of_nodup_map hvalid.distinct (hscripts s hs) (hscripts t ht) heq

/-- The scripts with names have these names, and are of the collection. -/
theorem scriptsNamed_eq_ok {names : List String} (h : scriptsNamed c names = .ok scripts) :
    scripts.map Script.name = names ∧ ∀ s ∈ scripts, s ∈ c.scripts := by
  induction names generalizing scripts with
  | nil =>
    obtain rfl := Except.ok.inj h
    simp
  | cons name rest ih =>
    rw [scriptsNamed] at h
    split at h
    · cases h
    · rename_i s hfind
      unfold Collection.find? at hfind
      obtain ⟨others, hothers, hresult⟩ := bind_eq_ok_iff.mp h
      obtain rfl := Except.ok.inj hresult
      obtain ⟨hnames, hmem⟩ := ih hothers
      have hname : s.name = name := by simpa using List.find?_some hfind
      refine ⟨by rw [List.map_cons, hnames, hname], ?_⟩
      intro t ht
      rcases List.mem_cons.mp ht with rfl | hrest
      · exact List.mem_of_find?_eq_some hfind
      · exact hmem t hrest

/-- The scripts that options choose are different scripts of the collection, if no name is given
twice. -/
theorem chosenScripts_eq_ok (hvalid : c.IsValid) {o : CompileOptions} (hnodup : o.scripts.Nodup)
    (h : chosenScripts c o = .ok scripts) : scripts.Nodup ∧ ∀ s ∈ scripts, s ∈ c.scripts := by
  have hall : c.scripts.Nodup := hvalid.distinct.of_map
  unfold chosenScripts at h
  split at h
  · split at h
    · rename_i level hlevel
      obtain rfl := Except.ok.inj h
      have hsublist := Collection.recommended_sublist (c := c) level
      exact ⟨hall.sublist hsublist, fun s hs ↦ hsublist.subset hs⟩
    · obtain rfl := Except.ok.inj h
      exact ⟨hall, fun s hs ↦ hs⟩
  · obtain ⟨hnames, hmem⟩ := scriptsNamed_eq_ok h
    refine ⟨List.Nodup.of_map Script.name ?_, hmem⟩
    rw [hnames]
    exact hnodup

/-- Of scripts of a valid collection, with different names, a script is made. -/
theorem exists_generated_of_isValid (hvalid : c.IsValid) (hnames : (scripts.map Script.name).Nodup)
    (hscripts : ∀ s ∈ scripts, s ∈ c.scripts) (revert : Bool) :
    ∃ g, Generated.ofSelections? (selectionOf scripts revert) c.scripting.wrapping = .ok g ∧
      g.HasSections c.scripting.dialect c.scripting.wrapping (selectionOf scripts revert) := by
  refine Generated.exists_ofSelections? (Dialect.ofValue?_name c.scripting.dialect) ?_
    (nodup_title_selectionOf hnames revert)
  intro s hs
  obtain ⟨hmem, hrevert, hcan⟩ := mem_selectionOf hs
  refine isReady_of_isValid (hvalid.scripts s.script (hscripts _ hmem)) ?_
  rw [hrevert]
  exact hcan

/-- Of a collection that is built every selection can be made into a script. Any different scripts
of it, in any order, can be applied; and so many of them as can be reverted can be reverted. The
result has one section for each. What options choose, if they give no name twice, are different
scripts of the collection. -/
theorem exists_generated_of_isBuilt {project : Project} {date : Date}
    (h : c.IsBuilt project date) :
    (∀ (scripts : List Script) (revert : Bool), scripts.Nodup → (∀ s ∈ scripts, s ∈ c.scripts) →
      ∃ g, Generated.ofSelections? (selectionOf scripts revert) c.scripting.wrapping = .ok g ∧
        g.HasSections c.scripting.dialect c.scripting.wrapping (selectionOf scripts revert)) ∧
      ∀ (o : CompileOptions) (scripts : List Script), o.scripts.Nodup →
        chosenScripts c o = .ok scripts → scripts.Nodup ∧ ∀ s ∈ scripts, s ∈ c.scripts := by
  have hvalid := h.isValid
  constructor
  · intro scripts revert hnodup hscripts
    exact exists_generated_of_isValid hvalid (nodup_name_of_subset hvalid hnodup hscripts) hscripts
      revert
  · exact fun o scripts hnames hchosen ↦ chosenScripts_eq_ok hvalid hnames hchosen

/-- Of the two scripts of a collection, last first, the one that has revert code is reverted. -/
theorem exists_generated_of_isBuilt_nested :
    ∃ c : Collection, c.IsBuilt ⟨"sample", "1.0", ""⟩ ⟨2024, 5, 17⟩ ∧
      c.scripts.reverse.Nodup ∧ (∀ s ∈ c.scripts.reverse, s ∈ c.scripts) ∧
      (∃ g, Generated.ofSelections? (selectionOf c.scripts.reverse true) c.scripting.wrapping =
          .ok g ∧ g.positions.map Position.title = ["Clean (revert)"]) ∧
      chosenScripts c ⟨["Clean", "Greet"], none, true, none, ""⟩ = .ok c.scripts.reverse := by
  obtain ⟨c, hbuilt, hscripts⟩ := Collection.exists_isBuilt_nested
  have hchosen : chosenScripts c ⟨["Clean", "Greet"], none, true, none, ""⟩ =
      .ok c.scripts.reverse := by
    simp only [chosenScripts, scriptsNamed, Collection.find?, hscripts]
    rfl
  obtain ⟨hmade, hoptions⟩ := exists_generated_of_isBuilt hbuilt
  obtain ⟨hnodup, hmem⟩ := hoptions _ _ (by decide) hchosen
  obtain ⟨g, hg, hsections⟩ := hmade c.scripts.reverse true hnodup hmem
  refine ⟨c, hbuilt, hnodup, hmem, ⟨g, hg, ?_⟩, hchosen⟩
  rw [hsections.titles, hscripts]
  rfl

end Command

end Scriptorium
