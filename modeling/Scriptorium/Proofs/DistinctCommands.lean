import Scriptorium.Proofs.ExecutableLines
import Scriptorium.Proofs.SectionCode

/-!
# The commands of a script that is made of calls

A script is refused that repeats a line that runs. For a script that is made of calls the check is
made on one text, into which the fragments of the calls are merged. What it tells is about the
fragments: the lines that run of all of them together are those of the merged text, so no two
fragments share a command, and neither does one with itself (`nodup_commands_of_describes`).

A call that is listed twice yields its fragments twice, in every list of calls that has it twice
(`exists_expandEach_of_sublist`). So it cannot be made twice if anything runs in what applies it.
-/

set_option autoImplicit false
set_option relaxedAutoImplicit false

namespace Scriptorium

/-- The lines that run of the code that fragments apply, one fragment after the other. -/
def Compiled.commands (d : Dialect) (fragments : List Compiled) : List (List Char) :=
  fragments.flatMap fun fragment ↦ d.executableLines fragment.code.toList

/-- The lines that run of the code that reverts fragments, one fragment after the other. -/
def Compiled.revertCommands (d : Dialect) (fragments : List Compiled) : List (List Char) :=
  fragments.flatMap fun fragment ↦ d.executableLines fragment.revertCode.toList

/-- Some calls of a sequence that is expanded give some of its fragments. -/
theorem Registry.exists_expandEach_of_sublist {expandOne : Call → Except Error (List Compiled)}
    {calls picked : List Call} {fragments : List Compiled} (hpicked : picked.Sublist calls)
    (h : expandEach expandOne calls = .ok fragments) :
    ∃ own, expandEach expandOne picked = .ok own ∧ own.Sublist fragments := by
  induction hpicked generalizing fragments with
  | slnil => exact ⟨fragments, h, List.Sublist.refl _⟩
  | cons c _ ih =>
    obtain ⟨first, others, -, hothers, rfl⟩ := expandEach_cons_eq_ok_iff.mp h
    obtain ⟨own, hown, hsub⟩ := ih hothers
    exact ⟨own, hown, hsub.trans (List.sublist_append_right first others)⟩
  | cons_cons c _ ih =>
    obtain ⟨first, others, hfirst, hothers, rfl⟩ := expandEach_cons_eq_ok_iff.mp h
    obtain ⟨own, hown, hsub⟩ := ih hothers
    exact ⟨first ++ own, expandEach_cons_eq_ok_iff.mpr ⟨first, own, hfirst, hown, rfl⟩,
      hsub.append_left first⟩

namespace Definition

/-- Some definitions of calls describe some of the calls that all of them describe. -/
theorem exists_buildCalls_of_sublist {definitions picked : List Call}
    {calls : List Scriptorium.Call} (hpicked : picked.Sublist definitions)
    (h : buildCalls definitions = .ok calls) :
    ∃ own, buildCalls picked = .ok own ∧ own.Sublist calls := by
  induction hpicked generalizing calls with
  | slnil => exact ⟨calls, h, List.Sublist.refl _⟩
  | cons c _ ih =>
    obtain ⟨call, -, hrest⟩ := bind_eq_ok_iff.mp h
    obtain ⟨others, hothers, hresult⟩ := bind_eq_ok_iff.mp hrest
    obtain rfl := Except.ok.inj hresult
    obtain ⟨own, hown, hsub⟩ := ih hothers
    exact ⟨own, hown, hsub.trans (List.sublist_cons_self call others)⟩
  | cons_cons c _ ih =>
    obtain ⟨call, hcall, hrest⟩ := bind_eq_ok_iff.mp h
    obtain ⟨others, hothers, hresult⟩ := bind_eq_ok_iff.mp hrest
    obtain rfl := Except.ok.inj hresult
    obtain ⟨own, hown, hsub⟩ := ih hothers
    exact ⟨call :: own, bind_eq_ok_iff.mpr ⟨call, hcall, bind_eq_ok_iff.mpr ⟨own, hown, rfl⟩⟩,
      hsub.cons_cons call⟩

namespace Script

variable {s : Definition.Script} {context : Context} {script : Scriptorium.Script}

/-- Whether a definition lists a call twice, whichever way the two are written. -/
def CallsTwice (s : Definition.Script) (c : Scriptorium.Call) : Prop :=
  ∃ first second, [first, second].Sublist s.listedCalls ∧
    first.build = .ok c ∧ second.build = .ok c

theorem getD_textOrNone (text : String) : (textOrNone text).getD "" = text := by
  unfold textOrNone
  split
  · rename_i hempty
    exact hempty.symm
  · rfl

/-- The fragments of the calls of a script that is built share no command. -/
theorem exists_expandCalls_of_build (hbuild : s.build context = .ok script)
    (hcalls : hasCalls s.calls) :
    ∃ calls fragments, buildCalls s.listedCalls = .ok calls ∧
      context.functions.expandCalls calls = .ok fragments ∧
      (Compiled.commands context.dialect fragments).Nodup ∧
      (Compiled.revertCommands context.dialect fragments).Nodup := by
  obtain ⟨calls, compiled, hlisted, hcompile, hcode⟩ := exists_compile_of_build hbuild hcalls
  obtain ⟨fragments, hexpand, rfl⟩ := Registry.compile_eq_ok_iff.mp hcompile
  obtain ⟨h, code, -, -, hcheck, rfl⟩ := build_eq_ok_iff.mp hbuild
  obtain ⟨-, -, hexecute, hrevert⟩ := ScriptCode.check_eq_ok_iff.mp hcheck
  dsimp only at hcode
  rw [hcode, Compiled.merge, Dialect.executableLines_mergeParts, List.flatMap_map] at hexecute
  rw [hcode, getD_textOrNone, Compiled.merge, Dialect.executableLines_mergeParts,
    List.flatMap_map] at hrevert
  exact ⟨calls, fragments, hlisted, hexpand, hexecute, hrevert⟩

/-- A script is not built if it makes a call twice that applies something. -/
theorem exists_error_of_callsTwice (hcalls : hasCalls s.calls) {c : Scriptorium.Call}
    {own : List Compiled} (htwice : s.CallsTwice c)
    (hown : context.functions.expand callLimit [] c = .ok own)
    (hruns : Compiled.commands context.dialect own ≠ []) :
    ∃ e, s.build context = .error e := by
  cases hbuild : s.build context with
  | error e => exact ⟨e, rfl⟩
  | ok script =>
    obtain ⟨calls, fragments, hlisted, hexpand, hnodup, -⟩ :=
      exists_expandCalls_of_build hbuild hcalls
    obtain ⟨first, second, hsub, hfirst, hsecond⟩ := htwice
    obtain ⟨both, hboth, hpart⟩ := exists_buildCalls_of_sublist hsub hlisted
    obtain rfl : [c, c] = both := by
      simpa [buildCalls, hfirst, hsecond, bind, Except.bind, pure, Except.pure] using hboth
    obtain ⟨twice, htwice, hamong⟩ := Registry.exists_expandEach_of_sublist hpart hexpand
    obtain rfl : own ++ own = twice := by
      rw [Registry.expandEach_cons, Registry.expandEach_singleton, hown] at htwice
      exact Except.ok.inj htwice
    -- the commands of the call stand twice among those of the script
    have hdistinct := hnodup.sublist (hamong.flatMap _)
    rw [List.flatMap_append] at hdistinct
    obtain ⟨line, hline⟩ := List.exists_mem_of_ne_nil _ hruns
    exact absurd hline (List.disjoint_of_nodup_append hdistinct hline)

/-- The fragments of an accepted script that is made of calls share no command, and none has one
twice: not in what applies, and not in what reverts. The calls of the script are expanded to these
fragments, at any depth and in this order. So a script is refused that lists a call twice of which
anything runs that applies, as a definition and as any raw value that is read as it. -/
theorem nodup_commands_of_describes (hcalls : hasCalls s.calls) :
    (∀ script, s.Describes context script →
      ∃ calls fragments, buildCalls s.listedCalls = .ok calls ∧
        context.functions.expandCalls calls = .ok fragments ∧
        (Compiled.commands context.dialect fragments).Nodup ∧
        (Compiled.revertCommands context.dialect fragments).Nodup) ∧
    ∀ c own, s.CallsTwice c → context.functions.expand callLimit [] c = .ok own →
      Compiled.commands context.dialect own ≠ [] →
      (∃ e, s.build context = .error e) ∧
        ∀ value, Definition.accept "ScriptDefinition" (Definition.Script.read value) = .ok s →
          ∃ e, Scriptorium.Script.ofValue? (some context) value = .error e := by
  refine ⟨fun script h ↦ exists_expandCalls_of_build (build_of_describes h) hcalls, ?_⟩
  intro c own htwice hown hruns
  obtain ⟨e, hrefused⟩ := exists_error_of_callsTwice hcalls htwice hown hruns
  refine ⟨⟨e, hrefused⟩, fun value hread ↦ ?_⟩
  cases hvalue : Scriptorium.Script.ofValue? (some context) value with
  | error other => exact ⟨other, rfl⟩
  | ok script =>
    have hbuild := build_of_describes (Or.inr ⟨value, hread, hvalue⟩)
    cases hrefused.symm.trans hbuild

end Script

/-- A call that prints a text, as it is written. -/
def reprintItem : Definition.Call :=
  ⟨some "Print", some ⟨[("text", .text "c")], List.nodup_singleton "text"⟩⟩

/-- A script that prints the same text twice, the second time in a call of its own. -/
def reprintDefinition : Definition.Script :=
  { Generated.printDefinition with
    calls := some (.many [reprintItem, ⟨some "Undo", none⟩, reprintItem]) }

/-- The call that it makes twice. -/
def reprintCall : Scriptorium.Call := Generated.printCalls.getLast (List.cons_ne_nil _ _)

/-- A script that prints two texts is accepted, with three fragments of which no two share a
command; the one that prints a text twice is refused. -/
theorem nodup_commands_of_describes_print :
    (hasCalls Generated.printDefinition.calls ∧
      Generated.printDefinition.Describes Generated.printContext Generated.printScript ∧
      ∃ calls fragments, Generated.printContext.functions.expandCalls calls = .ok fragments ∧
        fragments.length = 3 ∧
        (Compiled.commands Generated.printContext.dialect fragments).Nodup) ∧
    hasCalls reprintDefinition.calls ∧ reprintDefinition.CallsTwice reprintCall ∧
      ∃ e, reprintDefinition.build Generated.printContext = .error e := by
  have hbuilt : Generated.printDefinition.Describes Generated.printContext Generated.printScript :=
    .inl (eq_ok_of_toOption (by decide +kernel))
  have hexpanded : Generated.printContext.functions.expandCalls Generated.printCalls =
      .ok Generated.printFragments := eq_ok_of_toOption (by decide +kernel)
  have hlist : buildCalls Generated.printDefinition.listedCalls = .ok Generated.printCalls :=
    eq_ok_of_toOption (by decide +kernel)
  obtain ⟨calls, fragments, hlisted, hexpand, hnodup, -⟩ :=
    (Script.nodup_commands_of_describes rfl).1 _ hbuilt
  obtain rfl : Generated.printCalls = calls := Except.ok.inj (hlist.symm.trans hlisted)
  obtain rfl : Generated.printFragments = fragments :=
    Except.ok.inj (hexpanded.symm.trans hexpand)
  have htwice : reprintDefinition.CallsTwice reprintCall :=
    ⟨reprintItem, reprintItem, .cons_cons _ (.cons _ (.cons_cons _ .slnil)),
      eq_ok_of_toOption (by decide +kernel),
      eq_ok_of_toOption (by decide +kernel)⟩
  have hown : Generated.printContext.functions.expand callLimit [] reprintCall =
      .ok [⟨"echo c\n\n", " \t"⟩] := eq_ok_of_toOption (by decide +kernel)
  have hrefused := (Script.nodup_commands_of_describes rfl).2 reprintCall _ htwice hown
    (by decide +kernel)
  exact ⟨⟨rfl, hbuilt, _, _, hexpand, rfl, hnodup⟩, rfl, htwice, hrefused.1⟩

end Definition

end Scriptorium
