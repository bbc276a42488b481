import Scriptorium.Proofs.CallSequence
import Scriptorium.Proofs.KeptPieces
import Scriptorium.Proofs.SectionCode

/-!
# The code of a section that reverts

Whether the section of a script has anything to run. Three conditions on code meet there: a script
can be reverted if its revert code is not empty, code that applies has to be more than blanks, and a
section leaves out the lines that are empty. A code has a line that is not blank exactly if it is
not blank itself (`exists_substantial_filledLines_iff`), so a section has nothing to run exactly if
its code is blank.

Code that applies is never blank, and neither is revert code that calls compile to, as merging drops
the parts that are (`isSubstantial_mergeParts`). Revert code that is written out stays as it is, so
that blanks alone count for revert code (`Definition.Script.HasBlankRevert`). These are the only
scripts whose sections may have nothing to run (`section_runs_iff`), and there are such scripts
(`section_of_blankRevert`).
-/

set_option autoImplicit false
set_option relaxedAutoImplicit false

namespace Scriptorium

/-! ### Lines with more than blanks -/

theorem isBlank_of_isLineEnd {c : Char} (h : Draft.isLineEnd c = true) : Text.isBlank c = true := by
  unfold Draft.isLineEnd at h
  rw [Bool.or_eq_true, beq_iff_eq, beq_iff_eq] at h
  rcases h with rfl | rfl <;> rfl

/-- A text has a line that is not blank exactly if it is not blank. -/
theorem exists_substantial_filledLines_iff {text : String} :
    (∃ line ∈ filledLines text, isSubstantial line = true) ↔ isSubstantial text = true := by
  rw [← codePieces_eq_filledLines, isSubstantial_iff]
  constructor
  · rintro ⟨line, hline, hfilled⟩
    obtain ⟨piece, hpiece, rfl⟩ := List.mem_map.mp hline
    obtain ⟨c, hc, hblank⟩ := isSubstantial_iff.mp hfilled
    rw [String.toList_ofList] at hc
    have hkept : c ∈ (text.toList.splitOnP Draft.isLineEnd).flatten :=
      List.mem_flatten_of_mem (List.mem_filter.mp hpiece).1 hc
    rw [Text.flatten_splitOnP] at hkept
    exact ⟨c, (List.mem_filter.mp hkept).1, hblank⟩
  · rintro ⟨c, hc, hblank⟩
    -- line ends are blank, so this character stands on a line
    have hinside : Draft.isLineEnd c = false := by
      rw [← Bool.not_eq_true]
      exact fun hend ↦ by simp [isBlank_of_isLineEnd hend] at hblank
    have hkept : c ∈ (text.toList.splitOnP Draft.isLineEnd).flatten := by
      rw [Text.flatten_splitOnP]
      exact List.mem_filter.mpr ⟨hc, by rw [hinside]; rfl⟩
    obtain ⟨piece, hpiece, hmem⟩ := List.mem_flatten.mp hkept
    refine ⟨String.ofList piece, List.mem_map_of_mem (List.mem_filter.mpr ⟨hpiece, ?_⟩),
      isSubstantial_iff.mpr ⟨c, by rwa [String.toList_ofList], hblank⟩⟩
    simpa using List.ne_nil_of_mem hmem

/-- Merged parts are not blank, unless nothing is left of them. -/
theorem isSubstantial_mergeParts {parts : List String} (h : mergeParts parts ≠ "") :
    isSubstantial (mergeParts parts) = true := by
  rcases isTidy_mergeParts parts with hempty | ⟨hfilled, -⟩
  · exact absurd hempty h
  · exact isSubstantial_iff.mpr hfilled

/-! ### Revert code -/

/-- A script can be reverted if it has revert code that is not empty. -/
theorem Script.canRevert_iff {script : Script} :
    script.canRevert = true ↔ ∃ text, script.code.revert = some text ∧ text ≠ "" := by
  unfold canRevert
  cases script.code.revert <;> simp

namespace Definition.Script

variable {s : Definition.Script} {context : Context} {script : Scriptorium.Script}

/-- Whether a definition writes out a revert code that consists of blanks, one or more. -/
def HasBlankRevert (s : Definition.Script) : Prop :=
  ∃ text, s.revertCode = some text ∧ text ≠ "" ∧ isSubstantial text = false

theorem HasBlankRevert.hasText_revertCode (h : s.HasBlankRevert) :
    hasText s.revertCode = true := by
  obtain ⟨text, htext, hne, -⟩ := h
  simp [hasText, htext, hne]

/-- The code that applies a script that is built is not blank. -/
theorem isSubstantial_of_build (hbuild : s.build context = .ok script) :
    isSubstantial script.code.execute = true :=
  isSubstantial_iff.mpr (isValid_of_build hbuild).runs

/-- The revert code of a script that is built is the one that its definition writes out, or what
its calls come to. -/
theorem revert_of_build (hbuild : s.build context = .ok script) :
    (hasCalls s.calls = false ∧ script.code.revert = textOrNone (s.revertCode.getD "")) ∨
      (hasCalls s.calls = true ∧ hasText s.revertCode = false ∧
        ∃ parts, script.code.revert = textOrNone (mergeParts parts)) := by
  obtain ⟨h, code, hhead, hcode, -, hscript⟩ := build_eq_ok_iff.mp hbuild
  rcases body_of_head hhead with ⟨hown, hcalls⟩ | ⟨-, hcalls, hnone⟩
  · refine .inl ⟨hcalls, ?_⟩
    rw [buildCode, if_pos hown] at hcode
    obtain rfl := Except.ok.inj hcode
    rw [hscript]
  · obtain ⟨-, fragments, -, -, -, hrevert⟩ := exists_yieldsAll_of_build hbuild hcalls
    exact .inr ⟨hcalls, hnone, _, hrevert⟩

/-- The revert code of a script that is built is blank only if the definition has it so. -/
theorem isSubstantial_revert_iff (hbuild : s.build context = .ok script) {text : String}
    (hrevert : script.code.revert = some text) :
    isSubstantial text = true ↔ ¬ s.HasBlankRevert := by
  rcases revert_of_build hbuild with ⟨-, hown⟩ | ⟨-, hnone, parts, hparts⟩
  · obtain ⟨rfl, hne⟩ := ne_of_textOrNone (hown.symm.trans hrevert)
    cases hwritten : s.revertCode with
    | none => simp [hwritten] at hne
    | some written =>
      rw [hwritten, Option.getD_some] at hne
      simp [HasBlankRevert, hwritten, hne]
  · obtain ⟨rfl, hne⟩ := ne_of_textOrNone (hparts.symm.trans hrevert)
    refine iff_of_true (isSubstantial_mergeParts hne) fun hblank ↦ ?_
    cases hblank.hasText_revertCode.symm.trans hnone

/-- A script whose definition writes out a blank revert code has no calls, and reverts by it. -/
theorem revert_of_hasBlankRevert (hbuild : s.build context = .ok script)
    (hblank : s.HasBlankRevert) :
    hasCalls s.calls = false ∧
      ∃ text, script.code.revert = some text ∧ text ≠ "" ∧ isSubstantial text = false := by
  rcases revert_of_build hbuild with ⟨hcalls, hown⟩ | ⟨-, hnone, -⟩
  · obtain ⟨written, hwritten, hsome, hempty⟩ := hblank
    rw [hwritten, Option.getD_some, textOrNone, if_neg hsome] at hown
    exact ⟨hcalls, written, hown, hsome, hempty⟩
  · cases hblank.hasText_revertCode.symm.trans hnone

/-- A script that is built can be reverted by code that is not blank, or by blanks that its
definition writes out. -/
theorem canRevert_iff_of_build (hbuild : s.build context = .ok script) :
    script.canRevert = true ↔
      (∃ text, script.code.revert = some text ∧ isSubstantial text = true) ∨ s.HasBlankRevert := by
  constructor
  · intro hcan
    obtain ⟨text, hrevert, -⟩ := Script.canRevert_iff.mp hcan
    by_cases hblank : s.HasBlankRevert
    · exact .inr hblank
    · exact .inl ⟨text, hrevert, (isSubstantial_revert_iff hbuild hrevert).mpr hblank⟩
  · rintro (⟨text, hrevert, hfilled⟩ | hblank)
    · exact Script.canRevert_iff.mpr ⟨text, hrevert, ne_empty_of_isSubstantial hfilled⟩
    · obtain ⟨-, text, hrevert, hsome, -⟩ := revert_of_hasBlankRevert hbuild hblank
      exact Script.canRevert_iff.mpr ⟨text, hrevert, hsome⟩

/-- What is chosen of a script that is built is not blank, unless it is reverted by blanks. -/
theorem isSubstantial_chosen_iff (hbuild : s.build context = .ok script) {revert : Bool}
    (hcan : revert = true → script.canRevert = true) :
    isSubstantial (Selection.chosen ⟨script, revert⟩) = true ↔
      ¬ (revert = true ∧ s.HasBlankRevert) := by
  cases revert with
  | false => simp [Selection.chosen, isSubstantial_of_build hbuild]
  | true =>
    obtain ⟨text, hrevert, -⟩ := Script.canRevert_iff.mp (hcan rfl)
    simpa [Selection.chosen, hrevert] using isSubstantial_revert_iff hbuild hrevert

end Definition.Script

/-! ### Sections -/

namespace Generated

/-- Of a script that is built a section can be made, alone. -/
theorem exists_section_of_build {definition : Definition.Script} {context : Context}
    {script : Script} (hbuild : definition.build context = .ok script) {revert : Bool}
    (hcan : revert = true → script.canRevert = true) (d : Dialect) (startCode endCode : String) :
    ∃ g p, ofSelections? [⟨script, revert⟩] ⟨.text d.name, startCode, endCode⟩ = .ok g ∧
      g.positions = [p] := by
  have hready : ∀ s ∈ [Selection.mk script revert], s.IsReady :=
    List.forall_mem_singleton.mpr
      (Command.isReady_of_isValid (Definition.Script.isValid_of_build hbuild) hcan)
  obtain ⟨g, hg, hsections⟩ := exists_ofSelections?
    (w := ⟨.text d.name, startCode, endCode⟩) (Dialect.ofValue?_name d) hready (by simp)
  have hsingle : g.positions.length = 1 := by
    simpa using congrArg List.length hsections.titles
  obtain ⟨p, hp⟩ := List.length_eq_one_iff.mp hsingle
  exact ⟨g, p, hg, hp⟩

/-- Which sections have something to run. A script that is built can be reverted if its revert code
is not blank, and otherwise only if its definition has no calls and writes out blanks for revert
code. The scripts to be reverted are those that can be. Of a script that is selected for being
applied, or for being reverted if it can be, a section is made. Wherever it stands in a script that
is generated, it has the lines of the code of that kind that are not empty. One of them is not
blank, unless the script is reverted by blanks; then none is. -/
theorem section_runs_iff {definition : Definition.Script} {context : Context} {script : Script}
    (hbuilt : definition.Describes context script) :
    (script.canRevert = true ↔
        (∃ text, script.code.revert = some text ∧ isSubstantial text = true) ∨
          definition.HasBlankRevert) ∧
      (definition.HasBlankRevert → Definition.hasCalls definition.calls = false ∧
        ∃ text, script.code.revert = some text ∧ isSubstantial text = false) ∧
      (∀ scripts : List Script, ⟨script, true⟩ ∈ Command.selectionOf scripts true ↔
        script ∈ scripts ∧ script.canRevert = true) ∧
      ∀ revert : Bool, (revert = true → script.canRevert = true) →
        (∀ (d : Dialect) (startCode endCode : String), ∃ g p,
          ofSelections? [⟨script, revert⟩] ⟨.text d.name, startCode, endCode⟩ = .ok g ∧
            g.positions = [p]) ∧
        ∀ (selections : List Selection) (w : Wrapping) (g : Generated) (i : Nat) (p : Position),
          ofSelections? selections w = .ok g → selections[i]? = some ⟨script, revert⟩ →
          g.positions[i]? = some p →
          ∃ d title lines, Dialect.ofValue? w.language = .ok d ∧
            title = Selection.title ⟨script, revert⟩ ∧
            lines = filledLines (Selection.chosen ⟨script, revert⟩) ∧
            g.code = String.intercalate d.lineEnd (scriptLines d w selections) ∧
            linesAt (scriptLines d w selections) p =
              headingLines d title Draft.headingWidth ++ filledLines (d.echo ("--- " ++ title)) ++
                lines ++ [hyphenLine d Draft.headingWidth] ∧
            ((∃ line ∈ lines, isSubstantial line = true) ↔
              ¬ (revert = true ∧ definition.HasBlankRevert)) := by
  have hbuild := Definition.Script.build_of_describes hbuilt
  refine ⟨Definition.Script.canRevert_iff_of_build hbuild, fun hblank ↦ ?_, fun scripts ↦ ?_,
    fun revert hcan ↦ ⟨exists_section_of_build hbuild hcan, ?_⟩⟩
  · obtain ⟨hcalls, text, hrevert, -, hempty⟩ :=
      Definition.Script.revert_of_hasBlankRevert hbuild hblank
    exact ⟨hcalls, text, hrevert, hempty⟩
  · simp [Command.selectionOf]
  · intro selections w g i p hg hs hp
    obtain ⟨d, hd, hcode, hlines⟩ := linesAt_of_getElem? hg hs hp
    refine ⟨d, _, _, hd, rfl, rfl, hcode, ?_, ?_⟩
    · rw [hlines, Selection.lines, sectionLines, codePieces_eq_filledLines,
        codePieces_eq_filledLines]
    · rw [exists_substantial_filledLines_iff,
        Definition.Script.isSubstantial_chosen_iff hbuild hcan]

/-- The script of calls, applied and then reverted: both sections have something to run. -/
theorem section_runs_iff_print :
    printDefinition.Describes printContext printScript ∧ printScript.canRevert = true ∧
      ¬ printDefinition.HasBlankRevert ∧
      ∃ g own other, ofSelections? printSelections ⟨.text "batchfile", "", ""⟩ = .ok g ∧
        g.positions = [⟨"Print", 1, 8⟩, ⟨"Print (revert)", 10, 15⟩] ∧
        linesAt (scriptLines .batch ⟨.text "batchfile", "", ""⟩ printSelections)
            ⟨"Print", 1, 8⟩ =
          headingLines .batch "Print" 58 ++ ["echo --- Print"] ++ own ++ [hyphenLine .batch 58] ∧
        (∃ line ∈ own, isSubstantial line = true) ∧
        linesAt (scriptLines .batch ⟨.text "batchfile", "", ""⟩ printSelections)
            ⟨"Print (revert)", 10, 15⟩ =
          headingLines .batch "Print (revert)" 58 ++ ["echo --- Print (revert)"] ++ other ++
            [hyphenLine .batch 58] ∧
        ∃ line ∈ other, isSubstantial line = true := by
  have hbuilt : printDefinition.Describes printContext printScript :=
    .inl (eq_ok_of_toOption (by decide +kernel))
  have hblank : ¬ printDefinition.HasBlankRevert := by
    rintro ⟨text, htext, -⟩
    cases htext
  obtain ⟨g, hg⟩ : ∃ g, ofSelections? printSelections ⟨.text "batchfile", "", ""⟩ = .ok g :=
    ⟨_, rfl⟩
  have hpositions : g.positions = [⟨"Print", 1, 8⟩, ⟨"Print (revert)", 10, 15⟩] := by
    obtain rfl := Except.ok.inj hg
    rfl
  obtain ⟨-, -, -, hsections⟩ := section_runs_iff hbuilt
  obtain ⟨d, _, own, hd, rfl, -, -, hfirst, hown⟩ := (hsections false (by decide)).2
    printSelections _ g 0 ⟨"Print", 1, 8⟩ hg rfl (by rw [hpositions]; rfl)
  obtain ⟨e, _, other, he, rfl, -, -, hsecond, hother⟩ := (hsections true (by decide)).2
    printSelections _ g 1 ⟨"Print (revert)", 10, 15⟩ hg rfl (by rw [hpositions]; rfl)
  obtain rfl : Dialect.batch = d := Except.ok.inj hd
  obtain rfl : Dialect.batch = e := Except.ok.inj he
  exact ⟨hbuilt, by decide, hblank, g, own, other, hg, hpositions, hfirst,
    hown.mpr fun h ↦ hblank h.2, hsecond, hother.mpr fun h ↦ hblank h.2⟩

/-- The same functions, for the shell. -/
def shellContext : Context := { printContext with dialect := .shell }

/-- A script that is written out, with a line feed for revert code. -/
def listDefinition : Definition.Script where
  name := some "List"
  docs := none
  code := some "ls"
  revertCode := some "\n"
  calls := none
  recommend := none

/-- The script that it describes. -/
def listScript : Script := ⟨"List", [], none, ⟨"ls", some "\n"⟩⟩

/-- The script can be reverted and is chosen for it, though its section only says its name. -/
theorem section_of_blankRevert :
    listDefinition.Describes shellContext listScript ∧ listScript.canRevert = true ∧
      ∃ g, ofSelections? (Command.selectionOf [listScript] true) ⟨.text "shellscript", "", ""⟩ =
          .ok g ∧
        g.positions = [⟨"List (revert)", 1, 5⟩] ∧
        linesAt (scriptLines .shell ⟨.text "shellscript", "", ""⟩
            (Command.selectionOf [listScript] true)) ⟨"List (revert)", 1, 5⟩ =
          headingLines .shell "List (revert)" 58 ++ ["echo '--- List (revert)'"] ++
            [hyphenLine .shell 58] := by
  obtain ⟨g, hg⟩ : ∃ g, ofSelections? (Command.selectionOf [listScript] true)
      ⟨.text "shellscript", "", ""⟩ = .ok g := ⟨_, rfl⟩
  refine ⟨.inl (eq_ok_of_toOption (by decide +kernel)), by decide, g, hg, ?_, by decide +kernel⟩
  obtain rfl := Except.ok.inj hg
  rfl

end Generated

end Scriptorium
