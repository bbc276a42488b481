import Scriptorium.Proofs.CallInlining
import Scriptorium.Proofs.PhysicalLines
import Scriptorium.Proofs.SafeGeneration

/-!
# The code of a section that is made of calls

Which lines stand in the section of a script that is defined by calls. What calls come to is said
without a path of open functions and without a bound: a call of code yields the code with the
arguments filled in, and a call of calls yields what these do once their arguments are filled in, in
their order (`Registry.Yields`). Calls yield at most one list of fragments
(`YieldsAll.eq_of_yieldsAll`), and what they expand to is what they yield (`yields_of_expand`).

From the fragments to the section there are three steps that look at lines: merging drops the
fragments that are blank and the line ends at the end of the others, the script keeps the code, and
the draft splits it again. None of them loses a line that is not empty, repeats it or changes it
(`codePieces_mergeParts`). `linesAt_section_of_calls` is the whole.
-/

set_option autoImplicit false
set_option relaxedAutoImplicit false

namespace Scriptorium

/-! ### What calls yield -/

/-- The code of a fragment that applies, or that reverts. -/
def Compiled.side (revert : Bool) (fragment : Compiled) : String :=
  if revert then fragment.revertCode else fragment.code

namespace Registry

mutual

/-- The fragments that a call yields, function by function and depth first. -/
inductive Yields (r : Registry) : Call → List Compiled → Prop
  | code {c : Call} {f : Function} {code : FunctionCode} {fragment : Compiled}
      (hfind : r.find? c.function = some f) (hbody : f.body = .code code)
      (hexecute : c.arguments.fill code.execute = .ok fragment.code)
      (hrevert : c.arguments.fill code.revert = .ok fragment.revertCode) : Yields r c [fragment]
  | calls {c : Call} {f : Function} {inner filled : List Call} {fragments : List Compiled}
      (hfind : r.find? c.function = some f) (hbody : f.body = .calls inner)
      (hfilled : inner.mapM (fillCall c.arguments) = .ok filled)
      (hinner : YieldsAll r filled fragments) : Yields r c fragments

/-- The fragments that calls yield one after the other. -/
inductive YieldsAll (r : Registry) : List Call → List Compiled → Prop
  | nil : YieldsAll r [] []
  | cons {c : Call} {rest : List Call} {own others : List Compiled} (hfirst : Yields r c own)
      (hrest : YieldsAll r rest others) : YieldsAll r (c :: rest) (own ++ others)

end

variable {r : Registry}

mutual

/-- A call yields no two lists of fragments. -/
theorem Yields.eq_of_yields {c : Call} {first second : List Compiled} :
    r.Yields c first → r.Yields c second → first = second
  | .code hfind hbody hexecute hrevert, .code hfind' hbody' hexecute' hrevert' => by
    obtain rfl := Option.some.inj (hfind.symm.trans hfind')
    obtain rfl := FunctionBody.code.inj (hbody.symm.trans hbody')
    rename_i fragment other
    obtain ⟨execute, revert⟩ := fragment
    obtain ⟨execute', revert'⟩ := other
    obtain rfl : execute = execute' := Except.ok.inj (hexecute.symm.trans hexecute')
    obtain rfl : revert = revert' := Except.ok.inj (hrevert.symm.trans hrevert')
    rfl
  | .code hfind hbody _ _, .calls hfind' hbody' _ _ => by
    obtain rfl := Option.some.inj (hfind.symm.trans hfind')
    cases hbody.symm.trans hbody'
  | .calls hfind hbody _ _, .code hfind' hbody' _ _ => by
    obtain rfl := Option.some.inj (hfind.symm.trans hfind')
    cases hbody.symm.trans hbody'
  | .calls hfind hbody hfilled hinner, .calls hfind' hbody' hfilled' hinner' => by
    obtain rfl := Option.some.inj (hfind.symm.trans hfind')
    obtain rfl := FunctionBody.calls.inj (hbody.symm.trans hbody')
    obtain rfl := Except.ok.inj (hfilled.symm.trans hfilled')
    exact hinner.eq_of_yieldsAll hinner'

/-- Calls yield no two lists of fragments. -/
theorem YieldsAll.eq_of_yieldsAll {calls : List Call} {first second : List Compiled} :
    r.YieldsAll calls first → r.YieldsAll calls second → first = second
  | .nil, .nil => rfl
  | .cons hfirst hrest, .cons hfirst' hrest' => by
    rw [hfirst.eq_of_yields hfirst', hrest.eq_of_yieldsAll hrest']

end

/-- A sequence of calls yields what each of its calls is expanded to. -/
theorem yieldsAll_of_forall {expandOne : Call → Except Error (List Compiled)} {calls : List Call}
    {fragments : List Compiled} (hone : ∀ c own, expandOne c = .ok own → r.Yields c own)
    (h : expandEach expandOne calls = .ok fragments) : r.YieldsAll calls fragments := by
  induction calls generalizing fragments with
  | nil =>
    obtain rfl := Except.ok.inj h
    exact .nil
  | cons c rest ih =>
    obtain ⟨own, others, hown, hothers, rfl⟩ := expandEach_cons_eq_ok_iff.mp h
    exact .cons (hone c own hown) (ih hothers)

/-- A call yields what it is expanded to. -/
theorem yields_of_expand {room : Nat} {path : List String} {c : Call} {fragments : List Compiled}
    (h : r.expand room path c = .ok fragments) : r.Yields c fragments := by
  induction room generalizing path c fragments with
  | zero =>
    obtain ⟨f, less, -, hzero, -⟩ := admitted_of_expand_eq_ok h
    omega
  | succ room ih =>
    obtain ⟨f, less, hadmitted, hless, hbody⟩ := admitted_of_expand_eq_ok h
    obtain rfl : room = less := by omega
    cases hcalls : f.body with
    | code code =>
      rw [hcalls] at hbody
      obtain ⟨fragment, hfragment, hresult⟩ := bind_eq_ok_iff.mp hbody
      obtain rfl := Except.ok.inj hresult
      obtain ⟨hexecute, hrevert⟩ := fillCode_eq_ok_iff.mp hfragment
      exact .code hadmitted.registered hcalls hexecute hrevert
    | calls inner =>
      rw [hcalls] at hbody
      obtain ⟨filled, hfilled⟩ := exists_mapM_of_expandEach_eq_ok hbody
      have hexpanded :
        expandEach (r.expand room (path ++ [c.function])) filled = .ok fragments := by
        rw [← expandEach_expandInner_of_mapM hfilled]
        exact hbody
      exact .calls hadmitted.registered hcalls hfilled
        (yieldsAll_of_forall (fun _ _ hown ↦ ih hown) hexpanded)

/-- What calls are compiled to is what they yield, merged. -/
theorem exists_yieldsAll_of_compile {calls : List Call} {compiled : Compiled}
    (h : r.compile calls = .ok compiled) :
    ∃ fragments, r.YieldsAll calls fragments ∧ compiled = Compiled.merge fragments := by
  obtain ⟨fragments, hfragments, rfl⟩ := compile_eq_ok_iff.mp h
  exact ⟨fragments, yieldsAll_of_forall (fun _ _ hown ↦ yields_of_expand hown) hfragments, rfl⟩

end Registry

/-! ### Lines that are not empty -/

/-- The lines of a text that are not empty. -/
def filledLines (text : String) : List String :=
  (physicalLines text).filter fun line ↦ !line.toList.isEmpty

/-- Unifying line ends changes only how many empty pieces stand between them. -/
theorem splitOn_unifyNewlines (text : List Char) :
    ∃ first before after, (Text.unifyNewlines text).splitOn '\n' = first :: before ∧
      text.splitOnP Draft.isLineEnd = first :: after ∧
      (before.filter fun piece ↦ !piece.isEmpty) = after.filter fun piece ↦ !piece.isEmpty := by
  fun_induction Text.unifyNewlines text with
  | case1 => exact ⟨[], [], [], rfl, rfl, rfl⟩
  | case2 rest ih =>
    obtain ⟨first, before, after, hsplit, hpieces, hfilter⟩ := ih
    refine ⟨[], first :: before, [] :: first :: after, ?_, ?_, ?_⟩
    · simp [List.splitOn_cons_eq_if_modifyHead, hsplit]
    · simp [List.splitOnP_cons_eq_if_modifyHead, Draft.isLineEnd, hpieces]
    · simp [List.filter_cons, hfilter]
  | case3 rest hrest ih =>
    obtain ⟨first, before, after, hsplit, hpieces, hfilter⟩ := ih
    refine ⟨[], first :: before, first :: after, ?_, ?_, ?_⟩
    · simp [List.splitOn_cons_eq_if_modifyHead, hsplit]
    · simp [List.splitOnP_cons_eq_if_modifyHead, Draft.isLineEnd, hpieces]
    · simp [List.filter_cons, hfilter]
  | case4 c rest _ hreturn ih =>
    obtain ⟨first, before, after, hsplit, hpieces, hfilter⟩ := ih
    by_cases hfeed : c = '\n'
    · subst hfeed
      refine ⟨[], first :: before, first :: after, ?_, ?_, ?_⟩
      · simp [List.splitOn_cons_eq_if_modifyHead, hsplit]
      · simp [List.splitOnP_cons_eq_if_modifyHead, Draft.isLineEnd, hpieces]
      · simp [List.filter_cons, hfilter]
    · have hc : c ≠ '\r' := hreturn
      refine ⟨c :: first, before, after, ?_, ?_, hfilter⟩
      · simp [List.splitOn_cons_eq_if_modifyHead, hsplit, hfeed]
      · simp [List.splitOnP_cons_eq_if_modifyHead, Draft.isLineEnd, hpieces, hfeed, hc]

/-- The pieces of code between its line ends that are not empty are its lines that are not. -/
theorem codePieces_eq_filledLines (code : String) : codePieces code = filledLines code := by
  obtain ⟨first, before, after, hsplit, hpieces, hfilter⟩ := splitOn_unifyNewlines code.toList
  rw [codePieces, filledLines, physicalLines, List.filter_map, hsplit, hpieces]
  simp [Function.comp_def, List.filter_cons, hfilter]

/-- Merging keeps the pieces of every part that is not blank, in their order. -/
theorem codePieces_mergeParts (parts : List String) :
    codePieces (mergeParts parts) = (parts.filter isSubstantial).flatMap codePieces := by
  have hreturn : Draft.isLineEnd '\r' = true := rfl
  have hfeed : Draft.isLineEnd '\n' = true := rfl
  have hkept : codePieces (mergeParts parts) = (Text.keptPieces Draft.isLineEnd
      (fun piece ↦ !piece.isEmpty) (mergeParts parts).toList).map String.ofList := rfl
  rw [hkept, keptPieces_mergeParts rfl hreturn hfeed, List.map_flatMap]
  rfl

/-! ### Sections of scripts that are made of calls -/

namespace Definition.Script

variable {s : Definition.Script} {context : Context} {script : Scriptorium.Script}

/-- Whether a script is built from a definition, or from a raw value that is read as it. -/
def Describes (s : Definition.Script) (context : Context) (script : Scriptorium.Script) : Prop :=
  s.build context = .ok script ∨
    ∃ value, Definition.accept "ScriptDefinition" (Definition.Script.read value) = .ok s ∧
      Scriptorium.Script.ofValue? (some context) value = .ok script

theorem build_of_describes (h : s.Describes context script) : s.build context = .ok script := by
  rcases h with hbuild | ⟨value, hread, hvalue⟩
  · exact hbuild
  · unfold Scriptorium.Script.ofValue? at hvalue
    split at hvalue
    · cases hvalue
    · rename_i heq
      cases heq
    · rename_i heq
      obtain rfl := Option.some.inj heq
      obtain ⟨definition, hdefinition, hbuild⟩ := bind_eq_ok_iff.mp hvalue
      obtain rfl := Except.ok.inj (hread.symm.trans hdefinition)
      exact hbuild

/-- The calls that a definition lists. -/
def listedCalls (s : Definition.Script) : List Definition.Call :=
  (s.calls.map Calls.toList).getD []

/-- A definition has either code, or calls and no revert code. -/
theorem body_of_head {h : Head} (hhead : s.head = .ok h) :
    (hasText s.code = true ∧ hasCalls s.calls = false) ∨
      (hasText s.code = false ∧ hasCalls s.calls = true ∧ hasText s.revertCode = false) := by
  rw [head] at hhead
  by_cases hname : s.name.getD "" = ""
  · simp [hname, bind, Except.bind, throw, throwThe, MonadExceptOf.throw] at hhead
  · rw [if_neg hname] at hhead
    obtain ⟨_, hbody, -⟩ := bind_eq_ok_iff.mp hhead
    unfold checkBody at hbody
    cases hcode : hasText s.code <;> cases hcalls : hasCalls s.calls <;>
      cases hrevert : hasText s.revertCode <;> simp_all

/-- A script with calls has no code of its own. -/
theorem hasText_code_of_head {h : Head} (hhead : s.head = .ok h) (hcalls : hasCalls s.calls) :
    hasText s.code = false := by
  rcases body_of_head hhead with ⟨-, hnone⟩ | ⟨hcode, -⟩
  · cases hcalls.symm.trans hnone
  · exact hcode

/-- A script that is made of calls has for its code what they compile to. -/
theorem exists_compile_of_build (hbuild : s.build context = .ok script)
    (hcalls : hasCalls s.calls) :
    ∃ calls compiled, buildCalls s.listedCalls = .ok calls ∧
      context.functions.compile calls = .ok compiled ∧
      script.code = ⟨compiled.code, textOrNone compiled.revertCode⟩ := by
  obtain ⟨h, code, hhead, hcode, -, rfl⟩ := build_eq_ok_iff.mp hbuild
  rw [buildCode, hasText_code_of_head hhead hcalls, if_neg Bool.false_ne_true] at hcode
  obtain ⟨calls, hlist, hcompiled⟩ := bind_eq_ok_iff.mp hcode
  obtain ⟨compiled, hcompile, hresult⟩ := bind_eq_ok_iff.mp hcompiled
  obtain rfl := Except.ok.inj hresult
  have hbuilt : buildCalls s.listedCalls = .ok calls := by
    unfold callList at hlist
    unfold listedCalls
    split at hlist
    · rename_i own hown
      obtain rfl := Except.ok.inj hlist
      exact hown
    · cases hlist
    · cases hlist
  exact ⟨calls, compiled, hbuilt, hcompile, rfl⟩

/-- A script that is made of calls has the merged fragments of what they yield for its code. -/
theorem exists_yieldsAll_of_build (hbuild : s.build context = .ok script)
    (hcalls : hasCalls s.calls) :
    ∃ calls fragments, buildCalls s.listedCalls = .ok calls ∧
      context.functions.YieldsAll calls fragments ∧
      script.code.execute = mergeParts (fragments.map Compiled.code) ∧
      script.code.revert = textOrNone (mergeParts (fragments.map Compiled.revertCode)) := by
  obtain ⟨calls, compiled, hbuilt, hcompile, hcode⟩ := exists_compile_of_build hbuild hcalls
  obtain ⟨fragments, hyields, rfl⟩ := Registry.exists_yieldsAll_of_compile hcompile
  rw [hcode]
  exact ⟨calls, fragments, hbuilt, hyields, rfl, rfl⟩

end Definition.Script

namespace Generated

/-- At the place of a selected script stand the lines of its section. -/
theorem linesAt_of_getElem? {selections : List Selection} {w : Wrapping} {g : Generated} {i : Nat}
    {s : Selection} {p : Position} (hg : ofSelections? selections w = .ok g)
    (hs : selections[i]? = some s) (hp : g.positions[i]? = some p) :
    ∃ d, Dialect.ofValue? w.language = .ok d ∧
      g.code = String.intercalate d.lineEnd (scriptLines d w selections) ∧
      linesAt (scriptLines d w selections) p = s.lines d := by
  have hsome : selections ≠ [] := List.ne_nil_of_mem (List.mem_of_getElem? hs)
  obtain ⟨d, hd, hcode, hpositions⟩ := ofSelections?_eq_ok hsome hg
  rw [hpositions] at hp
  exact ⟨d, hd, hcode, (linesAt_positionsFrom (openingLines w) (closingLines w) hs hp).2.2⟩

/-- The lines of a section that is made of calls. The calls of the script yield fragments, and no
other ones. Of a script that can be selected for being applied, or for being reverted, a section is
made. Wherever it stands in a script that is generated, it has the lines of the fragments of that
kind that are not blank, one fragment after the other and each line as it is, without the empty
ones. -/
theorem linesAt_section_of_calls {definition : Definition.Script} {context : Context}
    {script : Script} (hbuilt : definition.Describes context script)
    (hcalls : Definition.hasCalls definition.calls) :
    ∃ calls fragments, Definition.buildCalls definition.listedCalls = .ok calls ∧
      context.functions.YieldsAll calls fragments ∧
      (∀ others, context.functions.YieldsAll calls others → others = fragments) ∧
      ∀ revert : Bool, (revert = true → script.canRevert = true) →
        (∀ (d : Dialect) (startCode endCode : String), ∃ g p,
          ofSelections? [⟨script, revert⟩] ⟨.text d.name, startCode, endCode⟩ = .ok g ∧
            g.positions = [p]) ∧
        ∀ (selections : List Selection) (w : Wrapping) (g : Generated) (i : Nat) (p : Position),
          ofSelections? selections w = .ok g → selections[i]? = some ⟨script, revert⟩ →
          g.positions[i]? = some p →
          ∃ d title, Dialect.ofValue? w.language = .ok d ∧
            title = Selection.title ⟨script, revert⟩ ∧
            g.code = String.intercalate d.lineEnd (scriptLines d w selections) ∧
            linesAt (scriptLines d w selections) p =
              headingLines d title Draft.headingWidth ++ filledLines (d.echo ("--- " ++ title)) ++
                ((fragments.map (Compiled.side revert)).filter isSubstantial).flatMap filledLines ++
                [hyphenLine d Draft.headingWidth] := by
  have hbuild := Definition.Script.build_of_describes hbuilt
  obtain ⟨calls, fragments, hlisted, hyields, hexecute, hrevert⟩ :=
    Definition.Script.exists_yieldsAll_of_build hbuild hcalls
  refine ⟨calls, fragments, hlisted, hyields, fun others hothers ↦
    hothers.eq_of_yieldsAll hyields, fun revert hcan ↦ ⟨?_, ?_⟩⟩
  · intro d startCode endCode
    have hready : ∀ s ∈ [Selection.mk script revert], s.IsReady :=
      List.forall_mem_singleton.mpr
        (Command.isReady_of_isValid (Definition.Script.isValid_of_build hbuild) hcan)
    obtain ⟨g, hg, hsections⟩ := exists_ofSelections?
      (w := ⟨.text d.name, startCode, endCode⟩) (Dialect.ofValue?_name d) hready (by simp)
    have hsingle : g.positions.length = 1 := by
      simpa using congrArg List.length hsections.titles
    obtain ⟨p, hp⟩ := List.length_eq_one_iff.mp hsingle
    exact ⟨g, p, hg, hp⟩
  · intro selections w g i p hg hs hp
    obtain ⟨d, hd, hcode, hlines⟩ := linesAt_of_getElem? hg hs hp
    have hchosen : Selection.chosen ⟨script, revert⟩ =
        mergeParts (fragments.map (Compiled.side revert)) := by
      cases revert with
      | false => exact hexecute
      | true =>
        have hsome := hcan rfl
        unfold Script.canRevert at hsome
        rw [Selection.chosen, if_pos rfl, hrevert]
        rw [hrevert] at hsome
        unfold Definition.Script.textOrNone at hsome ⊢
        split
        · rename_i hempty
          simp [hempty] at hsome
        · rfl
    refine ⟨d, _, hd, rfl, hcode, ?_⟩
    have hfilled : codePieces = filledLines := funext codePieces_eq_filledLines
    rw [hlines, Selection.lines, sectionLines, hchosen, codePieces_mergeParts, hfilled]

/-- A function that prints a text, and one that only reverts. -/
def printFunctions : List Function :=
  [⟨"Print", [⟨"text", true⟩], .code ⟨"echo \x7b\x7b $text \x7d\x7d\r\n\r\n", " \t"⟩⟩,
    ⟨"Undo", [], .code ⟨"", "echo undo\n"⟩⟩,
    ⟨"Both", [], .calls [⟨"Print", ⟨[("text", "a\rb\r\n")], by decide⟩, by decide⟩,
      ⟨"Undo", .empty, by decide⟩]⟩]

/-- The functions, for the batch processor. -/
def printContext : Context := ⟨⟨printFunctions, by decide +kernel⟩, .batch⟩

/-- A script that is made of two calls. -/
def printDefinition : Definition.Script where
  name := some "Print"
  docs := none
  code := none
  revertCode := none
  calls := some (.many [⟨some "Both", none⟩,
    ⟨some "Print", some ⟨[("text", .text "c")], by decide⟩⟩])
  recommend := none

/-- The script that it describes. -/
def printScript : Script := ⟨"Print", [], none, ⟨"echo a\rb\necho c", some "echo undo"⟩⟩

/-- The calls of it. -/
def printCalls : List Call :=
  [⟨"Both", .empty, by decide⟩, ⟨"Print", ⟨[("text", "c")], by decide⟩, by decide⟩]

/-- What they yield. -/
def printFragments : List Compiled :=
  [⟨"echo a\rb\r\n\n\n", " \t"⟩, ⟨"", "echo undo\n"⟩, ⟨"echo c\n\n", " \t"⟩]

/-- The script, applied and then reverted. -/
def printSelections : List Selection := [⟨printScript, false⟩, ⟨printScript, true⟩]

/-- Both sections have the lines of those fragments that are not blank for them. -/
theorem linesAt_section_of_calls_print :
    printDefinition.Describes printContext printScript ∧
      Definition.hasCalls printDefinition.calls ∧
      printContext.functions.YieldsAll printCalls printFragments ∧
      ∃ g, ofSelections? printSelections ⟨.text "batchfile", "", ""⟩ = .ok g ∧
        g.positions = [⟨"Print", 1, 8⟩, ⟨"Print (revert)", 10, 15⟩] ∧
        linesAt (scriptLines .batch ⟨.text "batchfile", "", ""⟩ printSelections)
            ⟨"Print", 1, 8⟩ =
          headingLines .batch "Print" 58 ++
            ["echo --- Print", "echo a", "b", "echo c", hyphenLine .batch 58] ∧
        linesAt (scriptLines .batch ⟨.text "batchfile", "", ""⟩ printSelections)
            ⟨"Print (revert)", 10, 15⟩ =
          headingLines .batch "Print (revert)" 58 ++
            ["echo --- Print (revert)", "echo undo", hyphenLine .batch 58] := by
  have hbuilt : printDefinition.Describes printContext printScript :=
    .inl (eq_ok_of_toOption (by decide +kernel))
  obtain ⟨g, hg⟩ : ∃ g, ofSelections? printSelections ⟨.text "batchfile", "", ""⟩ = .ok g :=
    ⟨_, rfl⟩
  have hpositions : g.positions = [⟨"Print", 1, 8⟩, ⟨"Print (revert)", 10, 15⟩] := by
    obtain rfl := Except.ok.inj hg
    rfl
  obtain ⟨calls, fragments, hlisted, hyields, hunique, hsections⟩ :=
    linesAt_section_of_calls hbuilt rfl
  have hlist : Definition.buildCalls printDefinition.listedCalls = .ok printCalls :=
    eq_ok_of_toOption (by decide +kernel)
  obtain rfl : printCalls = calls := Except.ok.inj (hlist.symm.trans hlisted)
  have hexpanded : printContext.functions.expandCalls printCalls = .ok printFragments :=
    eq_ok_of_toOption (by decide +kernel)
  obtain rfl := hunique printFragments
    (Registry.yieldsAll_of_forall (fun _ _ hown ↦ Registry.yields_of_expand hown) hexpanded)
  have happlied := (hsections false (by decide)).2 printSelections _ g 0 ⟨"Print", 1, 8⟩ hg rfl
    (by rw [hpositions]; rfl)
  have hreverted := (hsections true (by decide)).2 printSelections _ g 1
    ⟨"Print (revert)", 10, 15⟩ hg rfl (by rw [hpositions]; rfl)
  obtain ⟨d, title, hd, rfl, -, hfirst⟩ := happlied
  obtain ⟨e, other, he, rfl, -, hsecond⟩ := hreverted
  obtain rfl : Dialect.batch = d := Except.ok.inj hd
  obtain rfl : Dialect.batch = e := Except.ok.inj he
  exact ⟨hbuilt, rfl, hyields, g, hg, hpositions, hfirst, hsecond⟩

end Generated

end Scriptorium
