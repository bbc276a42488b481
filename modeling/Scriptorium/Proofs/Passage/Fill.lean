import Scriptorium.Proofs.Passage.Render

/-!
# The meaning of passages

Filling in code that is made of whole lines, some of them tags of branches. If every name that is
printed in a line that is kept is given, what becomes of the code is exactly the lines that are
kept, each with its placeholders filled in and with its own end. A line with a tag leaves nothing,
neither a blank line nor its indentation (`Arguments.fill_passage`).

Branches can be nested `nestingLimit` deep. Code in which they are nested deeper is refused whatever
its arguments are (`Arguments.fill_eq_error_of_nestingLimit_lt`): it is read unless its branches are
nested deeper than `openBlockLimit`, but then it is indented too deep.
-/

set_option autoImplicit false
set_option relaxedAutoImplicit false

namespace Scriptorium.Template

open Text

/-- How deep branches can be nested. -/
def nestingLimit : Nat := indentLimit - 2

/-- Branches that are indented too deep are nested beyond the limit. -/
theorem isTooDeep_one {depth : Nat} : isTooDeep 1 depth = decide (nestingLimit < depth) := by
  show (depth != 0 && decide (100 ≤ 1 + depth)) = decide (98 < depth)
  rw [Bool.eq_iff_iff, Bool.and_eq_true, bne_iff_ne, decide_eq_true_eq, decide_eq_true_eq]
  omega

variable {p : Passage}

/-- A passage with a tag is expanded as a template. -/
theorem expand_written_passage (htags : ∀ run ∈ p.runs, (runLayout run).isTagFree)
    (htag : hasTag p.unified) (arguments : List (String × String)) :
    expand p.written arguments = (do
      let statements ← readTemplate p.unified
      let ready ← checkTemplate statements
      let (rendering, _) ← (renderChecked arguments ready).run .empty
      rendering.text) := by
  have hunified : unifyOpenings p.written = p.unified := by
    have happend := unifyOpenings_printed htags isDetached_nil
    have hnil : unifyOpenings [] = [] := by
      rw [unifyOpenings]
      rfl
    rwa [hnil, List.append_nil, List.append_nil] at happend
  rw [expand, hunified]
  dsimp only
  rw [if_pos htag, renderTemplate, unifyNewlines_of_not_mem p.not_mem_unified]

/-- A passage has a tag, or it is a run of lines of text. -/
theorem Passage.hasTag_unified (p : Passage) : hasTag p.unified ∨ ∃ run, p = .text run := by
  cases p with
  | text run => exact Or.inr ⟨run, rfl⟩
  | guarded before opening name body closing rest =>
    exact Or.inl (hasTag_append_around _ _ _ _)
  | either before opening name body middle otherwise closing rest =>
    exact Or.inl (hasTag_append_around _ _ _ _)

/-- A passage is refused whatever the arguments are if its branches are nested beyond the limit. -/
theorem expand_eq_error_of_nestingLimit_lt (htags : ∀ run ∈ p.runs, (runLayout run).isTagFree)
    (hended : areEnded false p.lines)
    (hnested : ∀ run ∈ p.runs, isTooNested (runLayout run).parts = false)
    (hdeep : nestingLimit < p.depth) (arguments : List (String × String)) :
    ∃ fault, expand p.written arguments = .error (.fault fault) := by
  have htag : hasTag p.unified := by
    rcases p.hasTag_unified with htag | ⟨run, rfl⟩
    · exact htag
    · exact absurd hdeep (Nat.not_lt_zero _)
  obtain ⟨statements, hparses⟩ := parses_scan htags hended
  by_cases hread : p.depth ≤ openBlockLimit
  · refine ⟨.deepIndentation, ?_⟩
    have hcheck : checkTemplate statements = .error (.fault .deepIndentation) := by
      rw [checkTemplate_parses hparses hnested, isTooDeep_one, decide_eq_true hdeep]
      rfl
    rw [expand_written_passage htags htag, readTemplate_parses hparses hread]
    show (checkTemplate statements >>= _) = _
    rw [hcheck]
    rfl
  · refine ⟨.recursion, ?_⟩
    rw [expand_written_passage htags htag,
      readTemplate_of_openBlockLimit_lt hparses (Nat.not_le.mp hread)]
    rfl

/-- A passage is the lines that are kept if the names in them are given and its branches are not
nested beyond the limit. -/
theorem expand_eq_ok_of_le_nestingLimit (htags : ∀ run ∈ p.runs, (runLayout run).isTagFree)
    (hended : areEnded false p.lines)
    (hnested : ∀ run ∈ p.runs, isTooNested (runLayout run).parts = false)
    (hdepth : p.depth ≤ nestingLimit) {a : Scriptorium.Arguments}
    (hgiven : ∀ line ∈ p.kept a, ∀ q, .placeholder q ∈ line.segments → q.name ∈ a.names) :
    expand p.written a.entries = .ok ((p.kept a).flatMap (TextLine.filled a)) := by
  rcases p.hasTag_unified with htag | ⟨run, rfl⟩
  · obtain ⟨statements, hparses⟩ := parses_scan htags hended
    have hread : readTemplate p.unified = .ok statements := by
      have hlimit : nestingLimit ≤ openBlockLimit := by decide
      exact readTemplate_parses hparses (Nat.le_trans hdepth hlimit)
    have hcheck : checkTemplate statements = .ok statements := by
      rw [checkTemplate_parses hparses hnested, isTooDeep_one,
        decide_eq_false (Nat.not_lt.mpr hdepth)]
      rfl
    -- The cells of the names that the passage reads hold the arguments.
    have hframe := gains_ofTemplate hparses
    have hhas : ∀ name, (Frame.ofTemplate statements).has name ↔ name ∈ p.names := by
      intro name
      rw [hframe.has, ← List.contains_iff_mem]
      exact Iff.rfl
    obtain ⟨m, hload, hrender⟩ := renderChecked_of_isOfArguments
      (fun name hname ↦ (Passage.isPlainName_of_mem_names ((hhas name).mp hname)).1) hframe.after
      a.entries
    have hbody : renderBody ⟨a.entries, [Frame.ofTemplate statements]⟩ statements m =
        .ok (some ((p.kept a).flatMap (TextLine.filled a)), m) :=
      renderBody_parses hparses rfl (fun name hname ↦ hload name ((hhas name).mpr hname)) hgiven
    rw [expand_written_passage htags htag, hread]
    show (checkTemplate statements >>= _) = _
    rw [hcheck]
    show (renderChecked a.entries statements .empty >>= _) = _
    rw [hrender, hbody]
    rfl
  · have hlayout := htags run List.mem_cons_self
    exact (expand_written_of_not_mem hlayout (fun text htext ↦ not_mem_stretches htext)
      (hnested run List.mem_cons_self) a.entries).trans (fill_runLayout hgiven)

/-- No run is nested too deep if no placeholder has too many filters. -/
theorem isTooNested_of_forall
    (h : ∀ line, .text line ∈ p.lines → ∀ q, .placeholder q ∈ line.segments →
      q.filters.length ≤ filterLimit) {run : List TextLine} (hrun : run ∈ p.runs) :
    isTooNested (runLayout run).parts = false := by
  rw [← Bool.not_eq_true, isTooNested_iff]
  rintro ⟨q, hq, hcount⟩
  obtain ⟨line, hline, hsegment⟩ := placeholder_mem_pieces.mp (Layout.mem_ofSegments.mp hq)
  have hfew := h line (Passage.text_mem_lines hrun hline) q hsegment
  exact absurd hfew (Nat.not_le_of_lt hcount)

end Scriptorium.Template

namespace Scriptorium.Arguments

open Template

variable {p : Passage}

/-- Code is refused whatever the arguments are if its branches are nested beyond the limit. -/
theorem fill_eq_error_of_nestingLimit_lt (hlines : ∀ line ∈ p.lines.dropLast, line.isEnded)
    (htags : ∀ run ∈ p.runs, (runLayout run).isTagFree)
    (hfilters : ∀ line, .text line ∈ p.lines → ∀ q, .placeholder q ∈ line.segments →
      q.filters.length ≤ filterLimit)
    (hdeep : nestingLimit < p.depth) (a : Arguments) :
    ∃ fault, a.fill (String.ofList (p.lines.flatMap Line.written)) =
      .error (.operation fault) := by
  obtain ⟨fault, hfault⟩ := expand_eq_error_of_nestingLimit_lt htags (areEnded_of_forall hlines)
    (fun _ hrun ↦ isTooNested_of_forall hfilters hrun) hdeep a.entries
  refine ⟨fault, ?_⟩
  rw [fill, String.toList_ofList, flatMap_written_lines, hfault]
  rfl

/-- The meaning of code that is made of whole lines. It is refused if its branches are nested beyond
the limit. Otherwise it is the lines of text that are kept, each with its placeholders filled in, if
every name that is printed in one of them is given.

Assumes: every line but the last is ended, no tag begins in lines of text, adjacent ones taken
together, and no placeholder has too many filters. -/
theorem fill_passage (hlines : ∀ line ∈ p.lines.dropLast, line.isEnded)
    (htags : ∀ run ∈ p.runs, (runLayout run).isTagFree)
    (hfilters : ∀ line, .text line ∈ p.lines → ∀ q, .placeholder q ∈ line.segments →
      q.filters.length ≤ filterLimit) (a : Arguments) :
    (nestingLimit < p.depth →
      ∃ fault, a.fill (String.ofList (p.lines.flatMap Line.written)) =
        .error (.operation fault)) ∧
    (p.depth ≤ nestingLimit →
      (∀ line ∈ p.kept a, ∀ q, .placeholder q ∈ line.segments → q.name ∈ a.names) →
        a.fill (String.ofList (p.lines.flatMap Line.written)) =
          .ok (String.ofList ((p.kept a).flatMap (TextLine.filled a)))) := by
  refine ⟨fun hdeep ↦ fill_eq_error_of_nestingLimit_lt hlines htags hfilters hdeep a, ?_⟩
  intro hdepth hgiven
  rw [fill, String.toList_ofList, flatMap_written_lines,
    expand_eq_ok_of_le_nestingLimit htags (areEnded_of_forall hlines)
      (fun _ hrun ↦ isTooNested_of_forall hfilters hrun) hdepth hgiven]

theorem all_isBlank_space : [' '].all Text.isBlank = true := rfl

/-- A placeholder of an argument. -/
def userPlaceholder : Placeholder :=
  { blanks := [' '], name := "user", filters := [], blank := all_isBlank_space }

/-- A placeholder of an argument that need not be given. -/
def portPlaceholder : Placeholder :=
  { blanks := [], name := "port", filters := [], blank := List.all_nil }

/-- Lines with a branch in a branch, some of the tags with an indentation, the last line without an
end. -/
def serviceLines : Passage :=
  .either [] { indent := [' ', ' '] } { text := "user" }
    (.guarded [{ segments := [.literal "echo ".toList, .placeholder userPlaceholder] }]
      { indent := ['\t'] } { text := "port" }
      (.text [{ segments := [.placeholder portPlaceholder] }]) {} (.text []))
    {} (.text [{ segments := [.placeholder portPlaceholder] }]) { indent := [' '] }
    (.text [{ segments := [.literal "done".toList], ended := false }])

/-- An argument for one of the branches. -/
def serviceArguments : Arguments := ⟨[("user", "ann")], by decide⟩

/-- Of the lines those of one branch stay, and what is not given is printed in none of them. -/
theorem fill_serviceLines :
    serviceArguments.fill ("  \x7b% if user %\x7d\necho \x7b\x7b $user \x7d\x7d\n" ++
        "\t\x7b% if port %\x7d\n\x7b\x7b$port \x7d\x7d\n\x7b% endif %\x7d\n" ++
        "\x7b% else %\x7d\n\x7b\x7b$port \x7d\x7d\n \x7b% endif %\x7d\ndone") =
      .ok "echo ann\ndone" := by
  have hlines : ∀ line ∈ serviceLines.lines.dropLast, line.isEnded := by decide
  have htags : ∀ run ∈ serviceLines.runs, (runLayout run).isTagFree := by decide +kernel
  have hfilters : ∀ line, .text line ∈ serviceLines.lines → ∀ q,
      .placeholder q ∈ line.segments → q.filters.length ≤ filterLimit := by
    intro line hline q hq
    simp only [serviceLines, Passage.lines, List.map_nil, List.map_cons, List.cons_append,
      List.nil_append, List.mem_cons, reduceCtorEq, Line.text.injEq, List.not_mem_nil, or_false,
      false_or] at hline
    rcases hline with rfl | rfl | rfl | rfl
    · obtain rfl : q = userPlaceholder := by simpa using hq
      decide
    · obtain rfl : q = portPlaceholder := by simpa using hq
      decide
    · obtain rfl : q = portPlaceholder := by simpa using hq
      decide
    · cases List.mem_singleton.mp hq
  have hdepth : serviceLines.depth ≤ nestingLimit := by decide
  have hgiven : ∀ line ∈ serviceLines.kept serviceArguments, ∀ q,
      .placeholder q ∈ line.segments → q.name ∈ serviceArguments.names := by
    have hkept : serviceLines.kept serviceArguments = [
      { segments := [.literal "echo ".toList, .placeholder userPlaceholder] },
      { segments := [.literal "done".toList], ended := false }] := by decide +kernel
    intro line hline q hq
    rw [hkept, List.mem_cons, List.mem_singleton] at hline
    rcases hline with rfl | rfl
    · obtain rfl : q = userPlaceholder := by simpa using hq
      decide
    · cases List.mem_singleton.mp hq
  have hwritten : String.ofList (serviceLines.lines.flatMap Line.written) =
      "  \x7b% if user %\x7d\necho \x7b\x7b $user \x7d\x7d\n" ++
        "\t\x7b% if port %\x7d\n\x7b\x7b$port \x7d\x7d\n\x7b% endif %\x7d\n" ++
        "\x7b% else %\x7d\n\x7b\x7b$port \x7d\x7d\n \x7b% endif %\x7d\ndone" := by
    decide +kernel
  have hfilled : String.ofList ((serviceLines.kept serviceArguments).flatMap
      (TextLine.filled serviceArguments)) = "echo ann\ndone" := by
    decide +kernel
  rw [← hwritten, ← hfilled]
  exact (fill_passage hlines htags hfilters serviceArguments).2 hdepth hgiven

/-- A line of text. -/
def innermostLine : TextLine := { segments := [.literal ['x']] }

theorem isPlainName_a : isPlainName "a".toList = true := by decide

theorem not_mem_reservedNames_a : "a" ∉ reservedNames := by decide

/-- A line of text in branches that are nested as deep as given. -/
def deepLines : Nat → Passage
  | 0 => .text [innermostLine]
  | depth + 1 =>
    .guarded [] {} ⟨"a", isPlainName_a, not_mem_reservedNames_a⟩ (deepLines depth) {} (.text [])

/-- An argument for all of the branches. -/
def deepArguments : Arguments := ⟨[("a", "1")], by decide⟩

/-- The branches are nested as deep as given. -/
theorem depth_deepLines (depth : Nat) : (deepLines depth).depth = depth := by
  induction depth with
  | zero => rfl
  | succ depth ih => rw [deepLines, Passage.depth, ih, Passage.depth, Nat.max_zero]

/-- The only line of text is the innermost one. -/
theorem eq_of_text_mem_lines_deepLines {depth : Nat} {line : TextLine}
    (h : .text line ∈ (deepLines depth).lines) : line = innermostLine := by
  induction depth with
  | zero => exact Line.text.inj (List.mem_singleton.mp h)
  | succ depth ih =>
    simp only [deepLines, Passage.lines, List.map_nil, List.nil_append, List.mem_cons, reduceCtorEq,
      List.mem_append, List.not_mem_nil, or_false, false_or] at h
    exact ih h

/-- Every line is ended. -/
theorem isEnded_of_mem_lines_deepLines {depth : Nat} {line : Line}
    (h : line ∈ (deepLines depth).lines) : line.isEnded := by
  induction depth with
  | zero =>
    rw [List.mem_singleton.mp h]
    rfl
  | succ depth ih =>
    simp only [deepLines, Passage.lines, List.map_nil, List.nil_append, List.mem_cons,
      List.mem_append, List.not_mem_nil, or_false] at h
    rcases h with rfl | hinner | rfl
    · rfl
    · exact ih hinner
    · rfl

/-- The runs are the innermost line alone and empty ones. -/
theorem isTagFree_of_mem_runs_deepLines {depth : Nat} {run : List TextLine}
    (h : run ∈ (deepLines depth).runs) : (runLayout run).isTagFree := by
  induction depth with
  | zero =>
    rw [List.mem_singleton.mp h]
    decide
  | succ depth ih =>
    simp only [deepLines, Passage.runs, List.mem_cons, List.mem_append, List.not_mem_nil,
      or_false] at h
    rcases h with rfl | hinner | rfl
    · decide
    · exact ih hinner
    · decide

/-- Lines in branches that are nested deeper than the limit are refused though every branch is
taken and no placeholder is printed. -/
theorem fill_deepLines :
    (∀ line ∈ (deepLines 99).lines.dropLast, line.isEnded) ∧
      (∀ run ∈ (deepLines 99).runs, (runLayout run).isTagFree) ∧
      (∀ line, .text line ∈ (deepLines 99).lines → ∀ q, .placeholder q ∉ line.segments) ∧
      deepArguments.fill (String.ofList ((deepLines 99).lines.flatMap Line.written)) ≠
        .ok (String.ofList
          (((deepLines 99).kept deepArguments).flatMap (TextLine.filled deepArguments))) := by
  have hlines : ∀ line ∈ (deepLines 99).lines.dropLast, line.isEnded :=
    fun line hline ↦ isEnded_of_mem_lines_deepLines (List.dropLast_subset _ hline)
  have htags : ∀ run ∈ (deepLines 99).runs, (runLayout run).isTagFree :=
    fun run hrun ↦ isTagFree_of_mem_runs_deepLines hrun
  have hplain : ∀ line, .text line ∈ (deepLines 99).lines → ∀ q,
      .placeholder q ∉ line.segments := by
    intro line hline q hq
    rw [eq_of_text_mem_lines_deepLines hline] at hq
    cases List.mem_singleton.mp hq
  refine ⟨hlines, htags, hplain, ?_⟩
  have hdeep : nestingLimit < (deepLines 99).depth := by
    rw [depth_deepLines]
    decide
  obtain ⟨fault, hfault⟩ := fill_eq_error_of_nestingLimit_lt hlines htags
    (fun line hline q hq ↦ absurd hq (hplain line hline q)) hdeep deepArguments
  rw [hfault]
  intro heq
  cases heq

end Scriptorium.Arguments
