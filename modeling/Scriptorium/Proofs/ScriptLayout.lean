import Mathlib.Data.List.Basic
import Mathlib.Tactic.Common
import Scriptorium.Generation
import Scriptorium.Proofs.CallExpansion

/-!
# The layout of a generated script

Which lines a generated script has, and where its sections stand among them. The lines of code are
its pieces between line ends that are not empty (`codePieces`). A section is a heading, the command
that prints its title, its code and a line of hyphens (`sectionLines`). A script is what is put
before the sections, each of them with an empty line behind it, and what is put after them
(`scriptLines`).

Every step of writing a draft adds lines behind those that are there, so each has one equation with
`Draft.extend`. From the step for one selection (`addSelection_eq_ok`) follows what a run over all
of them writes and records (`addSelections_eq_ok`). `generated_layout` is the whole: the code of a
script is the lines of its layout, and each position is the range of the section it belongs to.
-/

set_option autoImplicit false
set_option relaxedAutoImplicit false

namespace Scriptorium

/-! ### Lines of code -/

/-- The pieces of code between its line ends, without the empty ones. -/
def codePieces (code : String) : List String :=
  ((code.toList.splitOnP Draft.isLineEnd).filter fun piece ↦ !piece.isEmpty).map String.ofList

/-- The runs of a class are what its other characters leave between them, unless that is nothing. -/
theorem runs_eq_filter_splitOnP (p : Char → Bool) (text : List Char) :
    Text.runs p text = (text.splitOnP fun c ↦ !p c).filter fun piece ↦ !piece.isEmpty := by
  have hsplit : ∀ rest : List Char, ∃ piece others,
      rest.splitOnP (fun c ↦ !p c) = piece :: others :=
    fun rest ↦ List.exists_cons_of_ne_nil (List.splitOnP_ne_nil _ rest)
  fun_induction Text.runs p text with
  | case1 => rfl
  | case2 c hc => simp [List.splitOnP_cons_eq_if_modifyHead, hc]
  | case3 c hc => simp [List.splitOnP_cons_eq_if_modifyHead, hc]
  | case4 c d rest hc hd hruns ih =>
    -- a run that begins with `d` is one of the runs, so there is at least one
    obtain ⟨piece, others, hrest⟩ := hsplit rest
    simp [List.splitOnP_cons_eq_if_modifyHead, hd, hrest, hruns] at ih
  | case5 c d rest hc hd run others hruns ih =>
    obtain ⟨piece, more, hrest⟩ := hsplit rest
    simp [List.splitOnP_cons_eq_if_modifyHead, hd, hrest, hruns] at ih
    simp [List.splitOnP_cons_eq_if_modifyHead, hc, hd, hrest, ih]
  | case6 c d rest hc hd ih =>
    rw [List.splitOnP_cons_eq_if_modifyHead, ih, List.splitOnP_cons_eq_if_modifyHead]
    simp [hc, hd]
  | case7 c d rest hc ih =>
    rw [List.splitOnP_cons_eq_if_modifyHead, ih]
    simp [hc]

/-- The lines that code is written in are its pieces between line ends. -/
theorem codeLines_eq_codePieces (code : String) : Draft.codeLines code = codePieces code := by
  simp [Draft.codeLines, codePieces, runs_eq_filter_splitOnP]

/-! ### Sections -/

/-- A line of `count` hyphens behind the mark of a comment. -/
def hyphenLine (d : Dialect) (count : Nat) : String :=
  Draft.commentLine d (String.ofList (List.replicate count '-'))

/-- The lines of a heading: its title alone if it is as wide as the heading, and otherwise the title
between hyphens that make it so wide, the right ones one more if they cannot be as many, with a line
of hyphens before and after it. -/
def headingLines (d : Dialect) (title : String) (width : Nat) : List String :=
  if width ≤ title.length then [Draft.commentLine d title]
  else
    let padding := width - title.length
    let left := String.ofList (List.replicate (padding / 2) '-')
    let right := String.ofList (List.replicate (padding - padding / 2) '-')
    [hyphenLine d Draft.headingWidth, Draft.commentLine d (left ++ title ++ right),
      hyphenLine d Draft.headingWidth]

/-- The lines of a section with a title and code. -/
def sectionLines (d : Dialect) (title code : String) : List String :=
  headingLines d title Draft.headingWidth ++ codePieces (d.echo ("--- " ++ title)) ++
    codePieces code ++ [hyphenLine d Draft.headingWidth]

namespace Draft

variable {b after : Draft} {title text : String}

theorem extend_extend (first second : List String) :
    (b.extend first).extend second = b.extend (first ++ second) := by
  simp [extend]

theorem size_extend (lines : List String) : (b.extend lines).size = b.size + lines.length := by
  simp [extend, size]

theorem hyphens_natCast (count : Nat) :
    hyphens (count : Int) = String.ofList (List.replicate count '-') := rfl

theorem rule_headingWidth (b : Draft) :
    b.rule headingWidth = b.extend [hyphenLine b.dialect headingWidth] := rfl

theorem code_of_ne (htext : text ≠ "") : b.code text = b.extend (codePieces text) := by
  rw [code, if_neg htext, codeLines_eq_codePieces]

/-- A heading adds its lines; a width below zero is as good as none. -/
theorem heading_eq_ok (htitle : title ≠ "") (width : Int) :
    b.heading title width = .ok (b.extend (headingLines b.dialect title width.toNat)) := by
  rw [heading, if_neg htitle, headingLines]
  by_cases hwide : width.toNat ≤ title.length
  · have hint : (title.length : Int) ≥ width := by omega
    rw [if_pos hint, if_pos hwide]
    rfl
  · have hint : ¬ (title.length : Int) ≥ width := by omega
    have hleft : (width - title.length) / 2 = ((width.toNat - title.length) / 2 : Nat) := by omega
    have hright : width - title.length - ((width.toNat - title.length) / 2 : Nat) =
        (width.toNat - title.length - (width.toNat - title.length) / 2 : Nat) := by omega
    rw [if_neg hint, if_neg hwide]
    dsimp only
    rw [hleft, hright, hyphens_natCast, hyphens_natCast, rule_headingWidth]
    simp [rule, comment, extend, hyphenLine, hyphens_natCast]

/-- The command that prints a text is never empty. -/
theorem echo_ne_empty (d : Dialect) (text : String) : d.echo text ≠ "" := by
  intro hempty
  have hlist := congrArg String.toList hempty
  cases d <;> simp [Dialect.echo] at hlist

/-- A section is added exactly if it has a title and code, and adds its lines. -/
theorem addSection_eq_ok_iff {code : String} :
    b.addSection title code = .ok after ↔
      title ≠ "" ∧ code ≠ "" ∧ after = b.extend (sectionLines b.dialect title code) := by
  rw [addSection]
  by_cases htitle : title = ""
  · simp [htitle]
  · by_cases hcode : code = ""
    · simp [htitle, hcode]
    · rw [if_neg htitle, if_neg hcode, heading_eq_ok htitle]
      have hechoed := code_of_ne (b := b.extend (headingLines b.dialect title headingWidth))
        (echo_ne_empty b.dialect ("--- " ++ title))
      show Except.ok ((((b.extend (headingLines b.dialect title headingWidth)).code
        (b.dialect.echo ("--- " ++ title))).code code).rule headingWidth) = .ok after ↔ _
      rw [hechoed, code_of_ne hcode, rule_headingWidth]
      simp [sectionLines, extend, htitle, hcode, eq_comm]

end Draft

/-! ### Selections -/

namespace Selection

/-- The code of a selected script that is applied, or that reverts it. -/
def chosen (s : Selection) : String :=
  if s.revert then s.script.code.revert.getD "" else s.script.code.execute

/-- The lines of the section of a selected script. -/
def lines (d : Dialect) (s : Selection) : List String := sectionLines d s.title s.chosen

/-- The code of a selection that has any is what is chosen by it. -/
theorem code_eq_ok {s : Selection} {code : String} (h : s.code = .ok code) : code = s.chosen := by
  unfold Selection.code at h
  unfold chosen
  split at h
  · rename_i hrevert
    split at h
    · cases h
    · cases h
    · rename_i text htext
      rw [if_pos hrevert, htext]
      exact (Except.ok.inj h).symm
  · rename_i hexecute
    rw [if_neg hexecute]
    exact (Except.ok.inj h).symm

theorem lines_ne_nil (d : Dialect) (s : Selection) : s.lines d ≠ [] := by
  simp [lines, sectionLines]

end Selection

/-- The lines before the sections. -/
def openingLines (w : Wrapping) : List String :=
  if w.startCode = "" then [] else codePieces w.startCode ++ [""]

/-- The lines of sections, each with an empty line behind it. -/
def sectionsLines (d : Dialect) (selections : List Selection) : List String :=
  selections.flatMap fun s ↦ s.lines d ++ [""]

/-- The lines after the sections. -/
def closingLines (w : Wrapping) : List String :=
  if w.endCode = "" then [] else "" :: codePieces w.endCode

/-- The lines of a script. -/
def scriptLines (d : Dialect) (w : Wrapping) (selections : List Selection) : List String :=
  openingLines w ++ sectionsLines d selections ++ closingLines w

theorem scriptLines_ne_nil (d : Dialect) (w : Wrapping) {selections : List Selection}
    (h : selections ≠ []) : scriptLines d w selections ≠ [] := by
  obtain ⟨s, rest, rfl⟩ := List.exists_cons_of_ne_nil h
  simp [scriptLines, sectionsLines]

/-- Where sections stand that are written after so many lines. -/
def positionsFrom (d : Dialect) : Nat → List Selection → List Position
  | _, [] => []
  | written, s :: rest =>
    ⟨s.title, written + 1, written + (s.lines d).length⟩ ::
      positionsFrom d (written + (s.lines d).length + 1) rest

namespace Generated

variable {b after : Draft} {positions recorded : List Position} {selections : List Selection}

/-- What a selection that is accepted adds: the lines of its section and an empty one, and where the
section stands. -/
theorem addSelection_eq_ok {s : Selection}
    (h : addSelection b positions s = .ok (after, recorded)) :
    after = b.extend (s.lines b.dialect ++ [""]) ∧
      recorded = positions ++ [⟨s.title, b.size + 1, b.size + (s.lines b.dialect).length⟩] := by
  unfold addSelection at h
  split at h
  · cases h
  · obtain ⟨code, hcode, hsection⟩ := bind_eq_ok_iff.mp h
    obtain ⟨written, hwritten, hresult⟩ := bind_eq_ok_iff.mp hsection
    obtain rfl := Selection.code_eq_ok hcode
    obtain ⟨-, -, rfl⟩ := Draft.addSection_eq_ok_iff.mp hwritten
    obtain ⟨rfl, rfl⟩ := Prod.mk.inj (Except.ok.inj hresult)
    rw [Draft.blank, Draft.extend_extend, Draft.size_extend]
    exact ⟨rfl, rfl⟩

/-- What selections that are accepted add: their sections in turn, and where these stand. -/
theorem addSelections_eq_ok (h : addSelections b positions selections = .ok (after, recorded)) :
    after = b.extend (sectionsLines b.dialect selections) ∧
      recorded = positions ++ positionsFrom b.dialect b.size selections := by
  induction selections generalizing b positions with
  | nil =>
    obtain ⟨rfl, rfl⟩ := Prod.mk.inj (Except.ok.inj h)
    simp [sectionsLines, Draft.extend, positionsFrom]
  | cons s rest ih =>
    obtain ⟨⟨next, known⟩, hfirst, hrest⟩ := bind_eq_ok_iff.mp h
    obtain ⟨rfl, rfl⟩ := addSelection_eq_ok hfirst
    obtain ⟨rfl, rfl⟩ := ih hrest
    constructor
    · rw [Draft.extend_extend]
      rfl
    · rw [Draft.size_extend, List.length_append, List.length_singleton, ← Nat.add_assoc,
        positionsFrom, List.append_assoc]
      rfl

/-! ### Positions -/

/-- The lines from the first to the last of a position, counted from one. -/
def linesAt (lines : List String) (p : Position) : List String :=
  (lines.drop (p.first - 1)).take (p.last + 1 - p.first)

variable {d : Dialect} {p q : Position}

theorem map_title_positionsFrom (d : Dialect) (written : Nat) (selections : List Selection) :
    (positionsFrom d written selections).map Position.title = selections.map Selection.title := by
  induction selections generalizing written with
  | nil => rfl
  | cons s rest ih => simp [positionsFrom, ih]

/-- Every section stands after what was written before. -/
theorem lt_first_of_mem {written : Nat} (hp : p ∈ positionsFrom d written selections) :
    written < p.first := by
  induction selections generalizing written with
  | nil => cases hp
  | cons s rest ih =>
    rcases List.mem_cons.mp hp with rfl | hrest
    · exact Nat.lt_succ_self written
    · have hlater := ih hrest
      omega

/-- At the place of a position stand the lines of its section. -/
theorem linesAt_positionsFrom (before behind : List String) {i : Nat} {s : Selection}
    (hs : selections[i]? = some s)
    (hp : (positionsFrom d before.length selections)[i]? = some p) :
    p.first ≤ p.last ∧ p.last ≤ (before ++ sectionsLines d selections ++ behind).length ∧
      linesAt (before ++ sectionsLines d selections ++ behind) p = s.lines d := by
  induction selections generalizing before i with
  | nil => cases hs
  | cons first rest ih =>
    cases i with
    | zero =>
      obtain rfl : first = s := Option.some.inj hs
      obtain rfl := (Option.some.inj hp).symm
      have hpositive : 0 < (first.lines d).length :=
        List.length_pos_iff.mpr (first.lines_ne_nil d)
      have hlength : before.length + (first.lines d).length + 1 - (before.length + 1) =
          (first.lines d).length := by omega
      refine ⟨by dsimp only; omega, ?_, ?_⟩
      · simp only [sectionsLines, List.length_append, List.flatMap_cons]
        omega
      · simp [linesAt, sectionsLines, hlength]
    | succ i =>
      have hbefore : (before ++ (first.lines d ++ [""])).length =
          before.length + (first.lines d).length + 1 := by simp; omega
      have hrest := ih (before ++ (first.lines d ++ [""])) hs (by rw [hbefore]; exact hp)
      simpa [sectionsLines] using hrest

/-- Between a section and the next there is one line. -/
theorem isChain_positionsFrom (d : Dialect) (written : Nat) (selections : List Selection) :
    (positionsFrom d written selections).IsChain fun p q ↦ q.first = p.last + 2 := by
  induction selections generalizing written with
  | nil => exact .nil
  | cons s rest ih =>
    cases rest with
    | nil => exact .singleton _
    | cons t others => exact .cons_cons rfl (ih _)

/-- A section ends before any later one begins. -/
theorem pairwise_positionsFrom (d : Dialect) (written : Nat) (selections : List Selection) :
    (positionsFrom d written selections).Pairwise fun p q ↦ p.last < q.first := by
  induction selections generalizing written with
  | nil => exact .nil
  | cons s rest ih =>
    refine .cons ?_ (ih _)
    intro q hq
    have hlater := lt_first_of_mem hq
    dsimp only
    omega

/-! ### The whole script -/

/-- What a script that is made from a selection is made of. -/
theorem ofSelections?_eq_ok {w : Wrapping} {g : Generated} (hsome : selections ≠ [])
    (h : ofSelections? selections w = .ok g) :
    ∃ d, Dialect.ofValue? w.language = .ok d ∧
      g.code = String.intercalate d.lineEnd (scriptLines d w selections) ∧
      g.positions = positionsFrom d (openingLines w).length selections := by
  have hnonempty : selections.isEmpty = false := List.isEmpty_eq_false_iff.mpr hsome
  rw [ofSelections?, hnonempty, if_neg Bool.false_ne_true] at h
  obtain ⟨d, hd, hwritten⟩ := bind_eq_ok_iff.mp h
  obtain ⟨⟨sections, recorded⟩, hsections, hresult⟩ := bind_eq_ok_iff.mp hwritten
  have hopened : (if w.startCode = "" then Draft.empty d
      else ((Draft.empty d).code w.startCode).blank) = (Draft.empty d).extend (openingLines w) := by
    by_cases hstart : w.startCode = ""
    · simp [hstart, openingLines, Draft.extend]
    · rw [if_neg hstart, Draft.code_of_ne hstart, Draft.blank, Draft.extend_extend, openingLines,
        if_neg hstart]
  rw [hopened] at hsections
  obtain ⟨rfl, rfl⟩ := addSelections_eq_ok hsections
  have hclosed : ∀ b : Draft, (if w.endCode = "" then b else b.blank.code w.endCode) =
      b.extend (closingLines w) := by
    intro b
    by_cases hend : w.endCode = ""
    · simp [hend, closingLines, Draft.extend]
    · rw [if_neg hend, Draft.code_of_ne hend, Draft.blank, Draft.extend_extend, closingLines,
        if_neg hend]
      rfl
  obtain rfl := Except.ok.inj hresult
  refine ⟨d, hd, ?_, ?_⟩
  · dsimp only
    rw [hclosed]
    simp [Draft.text, Draft.extend, Draft.empty, scriptLines]
  · simp [Draft.size, Draft.extend, Draft.empty]

/-- The layout of a script that is made from a selection. Its code is the lines of the layout with
the line end of the dialect between them. Its positions are those of the selected scripts, in their
order: at each stand the lines of a section, the next section begins two lines after it, and all
later ones behind it.

Assumes: something is selected, and it is accepted. -/
theorem generated_layout {w : Wrapping} {g : Generated} (hsome : selections ≠ [])
    (h : ofSelections? selections w = .ok g) :
    ∃ d, Dialect.ofValue? w.language = .ok d ∧
      g.code = String.intercalate d.lineEnd (scriptLines d w selections) ∧
      g.positions.map Position.title = selections.map Selection.title ∧
      (∀ (i : Nat) (s : Selection) (p : Position),
        selections[i]? = some s → g.positions[i]? = some p →
          1 ≤ p.first ∧ p.first ≤ p.last ∧ p.last ≤ (scriptLines d w selections).length ∧
            linesAt (scriptLines d w selections) p = s.lines d) ∧
      (g.positions.IsChain fun p q ↦ q.first = p.last + 2) ∧
      g.positions.Pairwise fun p q ↦ p.last < q.first := by
  obtain ⟨d, hd, hcode, hpositions⟩ := ofSelections?_eq_ok hsome h
  refine ⟨d, hd, hcode, ?_, ?_, ?_, ?_⟩
  · rw [hpositions]
    exact map_title_positionsFrom d _ selections
  · intro i s p hs hp
    rw [hpositions] at hp
    have hfirst := lt_first_of_mem (List.mem_of_getElem? hp)
    exact ⟨by omega, linesAt_positionsFrom (openingLines w) (closingLines w) hs hp⟩
  · rw [hpositions]
    exact isChain_positionsFrom d _ selections
  · rw [hpositions]
    exact pairwise_positionsFrom d _ selections

/-- A script of two lines with an empty one between them, and its revert code, for the batch
processor, behind code that is put before them. -/
def cleanSelections : List Selection :=
  let script : Script := ⟨"Clean", [], none, ⟨"del a\r\n\r\ndel b", some "echo 100%"⟩⟩
  [⟨script, false⟩, ⟨script, true⟩]

/-- What is put around the script. -/
def cleanWrapping : Wrapping := ⟨.text "batchfile", "@echo off", "pause\n"⟩

/-- The second section stands from line eleven to line sixteen. -/
theorem generated_layout_clean :
    ∃ g, cleanSelections ≠ [] ∧ ofSelections? cleanSelections cleanWrapping = .ok g ∧
      g.positions = [⟨"Clean", 3, 9⟩, ⟨"Clean (revert)", 11, 16⟩] ∧
      (∃ d, Dialect.ofValue? cleanWrapping.language = .ok d ∧
        linesAt (scriptLines d cleanWrapping cleanSelections) ⟨"Clean (revert)", 11, 16⟩ =
          headingLines d "Clean (revert)" 58 ++
            ["echo --- Clean (revert)", "echo 100%", hyphenLine d 58]) := by
  have hsome : cleanSelections ≠ [] := by decide
  obtain ⟨g, hg⟩ : ∃ g, ofSelections? cleanSelections cleanWrapping = .ok g := ⟨_, rfl⟩
  have hpositions : g.positions = [⟨"Clean", 3, 9⟩, ⟨"Clean (revert)", 11, 16⟩] := by
    obtain rfl := Except.ok.inj hg
    rfl
  obtain ⟨d, hd, -, -, hsections, -⟩ := generated_layout hsome hg
  obtain ⟨-, -, -, hlines⟩ := hsections 1 _ ⟨"Clean (revert)", 11, 16⟩ rfl (by rw [hpositions]; rfl)
  obtain rfl : Dialect.batch = d := Except.ok.inj hd
  exact ⟨g, hsome, hg, hpositions, .batch, hd, hlines⟩

end Generated

end Scriptorium
