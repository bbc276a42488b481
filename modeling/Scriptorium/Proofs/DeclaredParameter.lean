import Mathlib.Data.List.Nodup
import Scriptorium.Proofs.CallOutline
import Scriptorium.Proofs.FunctionDefinitions

/-!
# Parameters that can be used

What is declared as a parameter can be used in code. The names that pass as those of parameters are
plain, which is to say a letter or an underscore with letters, digits and underscores after it, or
plain but for a line feed at their end (`isParameterName_iff`). Those of one function are not
reserved and differ from each other (`checkParameters_eq_ok_iff`), and they are those of the
function that is built (`parameterNames_of_describes`).

A plain name that is not reserved is read as a name and as nothing else, so that a placeholder for
it is filled in with its argument, whatever the other arguments are (`fill_placeholderFor`).
`fill_of_declared` puts this together. A line feed at the end is read as a blank behind the name, so
that a parameter with one is a different name in code (`fill_of_lineFeed`).
-/

set_option autoImplicit false
set_option relaxedAutoImplicit false

namespace Scriptorium

open Template (isPlainName)

/-! ### Names -/

/-- What can follow the first character of a parameter's name: characters of names, with at most a
line feed behind them. -/
theorem isNameTail_iff {text : List Char} :
    isNameTail text ↔
      text.all isNameRest ∨ ∃ front, text = front ++ ['\n'] ∧ front.all isNameRest := by
  fun_induction isNameTail text with
  | case1 => simp
  | case2 => exact iff_of_true rfl (.inr ⟨[], rfl, rfl⟩)
  | case3 c rest hlast ih =>
    rw [Bool.and_eq_true, ih, List.all_cons, Bool.and_eq_true]
    constructor
    · rintro ⟨hc, hrest | ⟨front, rfl, hfront⟩⟩
      · exact .inl ⟨hc, hrest⟩
      · exact .inr ⟨c :: front, rfl, by rw [List.all_cons, hc, hfront]; rfl⟩
    · rintro (⟨hc, hrest⟩ | ⟨front, hfront, hall⟩)
      · exact ⟨hc, .inl hrest⟩
      · cases front with
        | nil =>
          obtain ⟨rfl, rfl⟩ := List.cons.inj hfront
          exact absurd rfl (hlast rfl)
        | cons d others =>
          obtain ⟨rfl, rfl⟩ := List.cons.inj hfront
          rw [List.all_cons, Bool.and_eq_true] at hall
          exact ⟨hall.1, .inr ⟨others, rfl, hall.2⟩⟩

/-- The names of parameters are the plain names, and the plain names with a line feed behind
them. -/
theorem isParameterName_iff {name : List Char} :
    isParameterName name ↔
      isPlainName name ∨ ∃ front, name = front ++ ['\n'] ∧ isPlainName front := by
  cases name with
  | nil => simp [isParameterName, isPlainName]
  | cons c rest =>
    rw [isParameterName, isPlainName, Bool.and_eq_true, Bool.and_eq_true, isNameTail_iff]
    constructor
    · rintro ⟨hc, hrest | ⟨front, rfl, hfront⟩⟩
      · exact .inl ⟨hc, hrest⟩
      · exact .inr ⟨c :: front, rfl, by rw [isPlainName, hc, hfront]; rfl⟩
    · rintro (⟨hc, hrest⟩ | ⟨front, hfront, hplain⟩)
      · exact ⟨hc, .inl hrest⟩
      · cases front with
        | nil => cases hplain
        | cons d others =>
          obtain ⟨rfl, rfl⟩ := List.cons.inj hfront
          rw [isPlainName, Bool.and_eq_true] at hplain
          exact ⟨hplain.1, .inr ⟨others, rfl, hplain.2⟩⟩

/-! ### Declarations -/

namespace Definition

/-- The parameters of a function pass exactly if each has a name of a parameter that is not
reserved, and these names differ from each other and from those that were seen. -/
theorem checkParameters_eq_ok_iff {function : String} {seen : List String}
    {parameters : List Parameter} :
    checkParameters function seen parameters = .ok () ↔
      (∀ p ∈ parameters, ∃ name, p.name = some name ∧ isParameterName name.toList ∧
        name ∉ reservedNames ∧ name ∉ seen) ∧ (parameters.map Parameter.name).Nodup := by
  induction parameters generalizing seen with
  | nil => simp [checkParameters]
  | cons p rest ih =>
    rw [List.forall_mem_cons, List.map_cons, List.nodup_cons, checkParameters]
    cases hname : p.name with
    | none => simp
    | some name =>
      by_cases hparameter : isParameterName name.toList = true
      swap
      · simp [hparameter]
      by_cases hreserved : name ∈ reservedNames
      · simp [hparameter, hreserved]
      by_cases hseen : name ∈ seen
      · simp [hparameter, hreserved, hseen]
      have hown : ∃ other, some name = some other ∧ isParameterName other.toList ∧
          other ∉ reservedNames ∧ other ∉ seen := ⟨name, rfl, hparameter, hreserved, hseen⟩
      simp only [hparameter, hreserved, hseen, Bool.not_true, Bool.false_eq_true, if_false, ih,
        List.mem_cons, not_or]
      constructor
      · rintro ⟨hrest, hnodup⟩
        refine ⟨⟨hown, fun q hq ↦ ?_⟩, fun hsame ↦ ?_, hnodup⟩
        · obtain ⟨other, hother, hpasses, hfree, -, hnew⟩ := hrest q hq
          exact ⟨other, hother, hpasses, hfree, hnew⟩
        · obtain ⟨q, hq, heq⟩ := List.mem_map.mp hsame
          obtain ⟨other, hother, -, -, hne, -⟩ := hrest q hq
          exact hne (Option.some.inj (hother.symm.trans heq))
      · rintro ⟨⟨-, hrest⟩, hfirst, hnodup⟩
        refine ⟨fun q hq ↦ ?_, hnodup⟩
        obtain ⟨other, hother, hpasses, hfree, hnew⟩ := hrest q hq
        refine ⟨other, hother, hpasses, hfree, fun hsame ↦ hfirst ?_, hnew⟩
        exact List.mem_map.mpr ⟨q, hq, hother.trans (congrArg some hsame)⟩

/-- The names of the parameters of a function are names of parameters that are not reserved, and
differ from each other. -/
theorem Function.parameterNames_of_describes {d : Definition.Function} {f : Scriptorium.Function}
    (h : d.Describes f) :
    f.parameterNames.Nodup ∧
      ∀ name ∈ f.parameterNames, isParameterName name.toList ∧ name ∉ reservedNames := by
  obtain ⟨hpasses, hnodup⟩ := checkParameters_eq_ok_iff.mp h.complete.parameters
  have hnames : f.parameterNames.map some = d.parameters.map Parameter.name := by
    rw [Scriptorium.Function.parameterNames, (head_of_build h.built).2, List.map_map, List.map_map]
    refine List.map_congr_left fun p hp ↦ ?_
    obtain ⟨name, hname, -⟩ := hpasses p hp
    simp [hname]
  refine ⟨List.Nodup.of_map some (hnames ▸ hnodup), fun name hname ↦ ?_⟩
  obtain ⟨p, hp, heq⟩ := List.mem_map.mp (hnames ▸ List.mem_map_of_mem hname)
  obtain ⟨other, hother, hparameter, hreserved, -⟩ := hpasses p hp
  obtain rfl := Option.some.inj (hother.symm.trans heq)
  exact ⟨hparameter, hreserved⟩

end Definition

/-! ### Placeholders -/

/-- A placeholder for a name, with a blank on either side. -/
def placeholderFor (name : String) : String := "\x7b\x7b $" ++ name ++ " \x7d\x7d"

namespace Arguments

/-- A placeholder for a plain name that is not reserved is filled in with the argument of this
name. -/
theorem fill_placeholderFor {a : Arguments} {name text : String} (hplain : isPlainName name.toList)
    (hreserved : name ∉ reservedNames) (htext : a.get? name = some text) :
    a.fill (placeholderFor name) = .ok text := by
  let p : Template.Placeholder := ⟨[' '], name, [], by decide, hplain, hreserved⟩
  have hwritten : Template.Layout.written ⟨[], [(p, [])]⟩ = (placeholderFor name).toList := by
    simp [Template.Layout.written, Template.writtenParts, Template.Placeholder.written,
      Template.Placeholder.inner, placeholderFor, p]
  have houtlines := Template.outlines_layout hwritten rfl (List.cons_ne_nil _ _)
    (List.forall_mem_singleton.mpr rfl)
  have hpieces : Template.Layout.pieces
      (Template.Layout.mapText ⟨[], [(p, [])]⟩ Text.unifyNewlines) =
        [.text [], .argument name, .text []] := rfl
  rw [hpieces] at houtlines
  have hgiven : ∀ other, .argument other ∈ [.text [], .argument name, Piece.text []] →
      other ∈ a.names := by
    intro other hother
    obtain rfl : other = name := by simpa using hother
    rw [mem_names_iff, htext]
    rfl
  rw [houtlines.filled a hgiven]
  simp [Piece.fill, htext]

end Arguments

/-- A parameter that is declared can be used. Of functions that make a registry each parameter whose
name does not end in a line feed is filled in with its argument, whatever the argument is and
whatever other arguments there are. So no two of them, whose names differ, are the same in code. -/
theorem Registry.fill_of_declared {values : List Value} {r : Registry} {f : Function}
    (h : Registry.ofValues? (some values) = .ok r) (hf : f ∈ r.functions) :
    f.parameterNames.Nodup ∧
      ∀ name ∈ f.parameterNames, name.toList.getLast? ≠ some '\n' →
        ∀ (a : Arguments) (text : String), a.get? name = some text →
          a.fill (placeholderFor name) = .ok text := by
  obtain ⟨definitions, -, -, hdescribes⟩ := Registry.ofValues?_eq_ok_iff.mp h
  obtain ⟨i, hi, rfl⟩ := List.mem_iff_getElem.mp hf
  obtain ⟨hnodup, hnames⟩ := Definition.Function.parameterNames_of_describes
    (hdescribes.get (hdescribes.length_eq ▸ hi) hi)
  refine ⟨hnodup, fun name hname hlast a text htext ↦ ?_⟩
  obtain ⟨hparameter, hreserved⟩ := hnames name hname
  have hplain : isPlainName name.toList := by
    rcases isParameterName_iff.mp hparameter with hplain | ⟨front, heq, -⟩
    · exact hplain
    · exact absurd (by rw [heq, List.getLast?_concat]) hlast
  exact Arguments.fill_placeholderFor hplain hreserved htext

/-- A function with two parameters, as a raw value. -/
def linkValue : Value :=
  .map [(.text "name", .text "Link"), (.text "code", .text "ln"),
    (.text "parameters", .list
      [.map [(.text "name", .text "_target")], .map [(.text "name", .text "Link2")]])]

/-- Arguments for both, one of which looks like a placeholder for the other. -/
def linkArguments : Arguments :=
  ⟨[("_target", "\x7b\x7b $Link2 \x7d\x7d"), ("Link2", "b")], by decide⟩

/-- The argument is put in as it is. -/
theorem fill_of_declared_link :
    ∃ (r : Registry) (f : Function), Registry.ofValues? (some [linkValue]) = .ok r ∧
      f ∈ r.functions ∧ "_target" ∈ f.parameterNames ∧
      linkArguments.get? "_target" = some "\x7b\x7b $Link2 \x7d\x7d" ∧
      linkArguments.fill (placeholderFor "_target") = .ok "\x7b\x7b $Link2 \x7d\x7d" := by
  have hfunctions : (Registry.ofValues? (some [linkValue])).toOption.map Registry.functions =
      some [⟨"Link", [⟨"_target", true⟩, ⟨"Link2", true⟩], .code ⟨"ln", ""⟩⟩] := by
    decide +kernel
  obtain ⟨r, hregistry, hr⟩ := exists_eq_ok_of_map_toOption hfunctions
  have hmem : _ ∈ r.functions := hr ▸ List.mem_cons_self
  have htext : linkArguments.get? "_target" = some "\x7b\x7b $Link2 \x7d\x7d" := by decide
  obtain ⟨-, hfill⟩ := Registry.fill_of_declared hregistry hmem
  exact ⟨r, _, hregistry, hmem, by decide, htext, hfill "_target" (by decide) (by decide) _ _ htext⟩

/-- A function with a parameter whose name ends in a line feed, and one that has the name without
it. -/
def feedValue : Value :=
  .map [(.text "name", .text "Feed"), (.text "code", .text "cat"),
    (.text "parameters", .list
      [.map [(.text "name", .text "a\n")], .map [(.text "name", .text "a")]])]

/-- A parameter whose name ends in a line feed passes, but code reads the name without the line
feed: the argument of the parameter is not found, and with both the other one is taken. -/
theorem fill_of_lineFeed :
    ∃ (r : Registry) (f : Function), Registry.ofValues? (some [feedValue]) = .ok r ∧
      f ∈ r.functions ∧ f.parameterNames = ["a\n", "a"] ∧
      Arguments.fill ⟨[("a\n", "v")], by decide⟩ (placeholderFor "a\n") ≠ .ok "v" ∧
      Arguments.fill ⟨[("a\n", "v"), ("a", "w")], by decide⟩ (placeholderFor "a\n") = .ok "w" := by
  have hfunctions : (Registry.ofValues? (some [feedValue])).toOption.map Registry.functions =
      some [⟨"Feed", [⟨"a\n", true⟩, ⟨"a", true⟩], .code ⟨"cat", ""⟩⟩] := by
    decide +kernel
  obtain ⟨r, hregistry, hr⟩ := exists_eq_ok_of_map_toOption hfunctions
  have halone : Template.expand (placeholderFor "a\n").toList [("a\n", "v")] =
      .error (.absent (.argument "a")) := by
    decide +kernel
  have hboth : Template.expand (placeholderFor "a\n").toList [("a\n", "v"), ("a", "w")] =
      .ok ['w'] := by
    decide +kernel
  refine ⟨r, _, hregistry, hr ▸ List.mem_cons_self, rfl, ?_, ?_⟩
  · rw [Arguments.fill, halone]
    intro heq
    cases heq
  · rw [Arguments.fill, hboth]

end Scriptorium
