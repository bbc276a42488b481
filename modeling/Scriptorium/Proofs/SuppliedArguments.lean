import Mathlib
import Scriptorium.Proofs.AbsentName
import Scriptorium.Proofs.CallOutline

/-!
# Which arguments a call has to give

A parameter may be left out of a call as far as the templates of its function can do without it.
Whether it is declared as required has no part in this: the flag decides nothing
(`compile_requiring`), and a required parameter that no template prints may be left out
(`compile_idleCall`). What a template always prints, though, has to be given. That holds of every
call that is expanded on the way, at any depth (`IsExpanded`), because each of its templates was
filled in with its arguments (`exists_fill_of_isExpanded`), and a template that always prints a name
is filled in only if the name is given. The result is `compile_supplied`.
-/

set_option autoImplicit false
set_option relaxedAutoImplicit false

namespace Scriptorium

open Template Text

/-- Whether arguments give a name a text, under itself or under a name that is the same in its
compatibility form. -/
def Arguments.Supplies (a : Arguments) (name : String) : Prop :=
  ∃ given ∈ a.names, compatible given.toList = compatible name.toList

/-- Among plain names a name is given under itself. -/
theorem Arguments.mem_names_of_supplies {a : Arguments} {name : String} (h : a.Supplies name)
    (hname : isPlainName name.toList) (hplain : ∀ given ∈ a.names, isPlainName given.toList) :
    name ∈ a.names := by
  obtain ⟨given, hgiven, hsame⟩ := h
  have hcell : Cell.ofName 0 given = Cell.ofName 0 name := congrArg (Cell.mk 0) hsame
  rwa [(ofName_inj (hplain given hgiven) hname).mp hcell] at hgiven

/-- The function with other parameters required. -/
def Function.requiring (f : Function) (required : Parameter → Bool) : Function :=
  { f with parameters := f.parameters.map fun p ↦ { p with isRequired := required p } }

theorem Function.parameterNames_requiring (f : Function) (required : Parameter → Bool) :
    (f.requiring required).parameterNames = f.parameterNames := by
  simp [parameterNames, requiring]

namespace Registry

variable {r : Registry} {calls : List Call}

/-! ### The flag of a parameter -/

/-- The registry with other parameters required. -/
def requiring (r : Registry) (required : Parameter → Bool) : Registry where
  functions := r.functions.map (·.requiring required)
  distinct := by
    rw [List.map_map]
    exact r.distinct

/-- The same names are registered whatever is required. -/
theorem find?_requiring (r : Registry) (required : Parameter → Bool) (name : String) :
    (r.requiring required).find? name = (r.find? name).map (·.requiring required) := by
  unfold find? requiring
  rw [List.find?_map, Option.filter_map]
  rfl

/-- A call is expanded in the same way whatever is required. -/
theorem expand_requiring (r : Registry) (required : Parameter → Bool) (room : Nat)
    (path : List String) (c : Call) :
    (r.requiring required).expand room path c = r.expand room path c := by
  have hcheck : ∀ (f : Function) (a : Arguments),
      checkArguments (f.requiring required) a = checkArguments f a := by
    intro f a
    unfold checkArguments
    rw [Function.parameterNames_requiring]
    rfl
  induction room generalizing path c with
  | zero =>
    rw [expand_eq, expand_eq, find?_requiring]
    cases r.find? c.function with
    | none => rfl
    | some f => simp only [Option.map_some, hcheck]
  | succ room ih =>
    have hbody : ∀ body, (r.requiring required).expandBody room (path ++ [c.function]) c.arguments
        body = r.expandBody room (path ++ [c.function]) c.arguments body := by
      intro body
      cases body with
      | code code => rfl
      | calls inner =>
        refine expandEach_congr fun d _ ↦ ?_
        unfold expandInner
        cases fillCall c.arguments d with
        | error e => rfl
        | ok filled => exact ih _ filled
    rw [expand_eq, expand_eq, find?_requiring]
    cases r.find? c.function with
    | none => rfl
    | some f =>
      simp only [Option.map_some, hcheck, hbody]
      rfl

/-- Calls compile to the same whatever is required. -/
theorem compile_requiring (r : Registry) (required : Parameter → Bool) (calls : List Call) :
    (r.requiring required).compile calls = r.compile calls := by
  have hexpand : expandEach ((r.requiring required).expand callLimit []) calls =
      expandEach (r.expand callLimit []) calls :=
    expandEach_congr fun c _ ↦ expand_requiring r required callLimit [] c
  unfold compile expandCalls
  rw [hexpand]

/-! ### Calls that are expanded -/

/-- The calls that are expanded on the way when calls are compiled: these, and those in the bodies
of the functions that they call, with the arguments of the call around them filled in. -/
inductive IsExpanded (r : Registry) (calls : List Call) : Call → Prop
  | top {c : Call} (hc : c ∈ calls) : IsExpanded r calls c
  | inner {outer c filled : Call} {f : Function} (houter : IsExpanded r calls outer)
      (hfind : r.find? outer.function = some f) (hc : c ∈ f.innerCalls)
      (hfilled : fillCall outer.arguments c = .ok filled) : IsExpanded r calls filled

/-- If calls compile, every call on the way was expanded somewhere. -/
theorem exists_expand_of_isExpanded {compiled : Compiled} (h : r.compile calls = .ok compiled)
    {c : Call} (hc : r.IsExpanded calls c) :
    ∃ room path fragments, r.expand room path c = .ok fragments := by
  -- Room and path are those of the run that expanded the call, so they differ from case to case.
  induction hc with
  | top hc =>
    obtain ⟨fragments, hfragments, -⟩ := compile_eq_ok_iff.mp h
    obtain ⟨own, hown⟩ := exists_of_expandEach_eq_ok hfragments hc
    exact ⟨callLimit, [], own, hown⟩
  | inner _ hfind hc hfilled ih =>
    obtain ⟨room, path, fragments, hexpand⟩ := ih
    obtain ⟨f, less, hadmitted, -, hbody⟩ := admitted_of_expand_eq_ok hexpand
    obtain rfl := Option.some.inj (hadmitted.registered.symm.trans hfind)
    obtain ⟨filled, own, hown, hinner⟩ := exists_expand_of_expandBody_eq_ok hbody hc
    obtain rfl := Except.ok.inj (hown.symm.trans hfilled)
    exact ⟨less, _, own, hinner⟩

/-- If a body was expanded, every template of its function was filled in. -/
theorem exists_fill_of_expandBody_eq_ok {room : Nat} {path : List String} {a : Arguments}
    {f : Function} {fragments : List Compiled}
    (h : r.expandBody room path a f.body = .ok fragments) {template : String}
    (htemplate : template ∈ f.templates) : ∃ text, a.fill template = .ok text := by
  unfold Function.templates at htemplate
  cases hbody : f.body with
  | code code =>
    rw [hbody] at h htemplate
    obtain ⟨compiled, hcode, -⟩ := bind_eq_ok_iff.mp h
    obtain ⟨hexecute, hrevert⟩ := fillCode_eq_ok_iff.mp hcode
    rcases List.mem_cons.mp htemplate with rfl | hsecond
    · exact ⟨_, hexecute⟩
    · obtain rfl := List.mem_singleton.mp hsecond
      exact ⟨_, hrevert⟩
  | calls inner =>
    rw [hbody] at htemplate
    obtain ⟨c, hc, hargument⟩ := List.mem_flatMap.mp htemplate
    obtain ⟨entry, hentry, rfl⟩ := List.mem_map.mp hargument
    have hinner : c ∈ f.innerCalls := by
      unfold Function.innerCalls
      rw [hbody]
      exact hc
    obtain ⟨filled, own, hfilled, -⟩ := exists_expand_of_expandBody_eq_ok h hinner
    exact (get?_of_fillCall hfilled).1 entry hentry

/-- If calls compile, every template of every call on the way was filled in with the arguments of
the call, all of which its function declares. -/
theorem exists_fill_of_isExpanded {compiled : Compiled} (h : r.compile calls = .ok compiled)
    {c : Call} (hc : r.IsExpanded calls c) :
    ∃ f, r.find? c.function = some f ∧ f.Declares c.arguments ∧
      ∀ template ∈ f.templates, ∃ text, c.arguments.fill template = .ok text := by
  obtain ⟨room, path, fragments, hexpand⟩ := exists_expand_of_isExpanded h hc
  obtain ⟨f, less, hadmitted, -, hbody⟩ := admitted_of_expand_eq_ok hexpand
  exact ⟨f, hadmitted.registered, hadmitted.declared,
    fun template htemplate ↦ exists_fill_of_expandBody_eq_ok hbody htemplate⟩

end Registry

/-- A template that always prints a name is filled in only if the name is given. -/
theorem Arguments.supplies_of_fill_eq_ok {a : Arguments} {template text name : String}
    (hprints : AlwaysPrints template.toList name) (h : a.fill template = .ok text) :
    a.Supplies name := by
  unfold fill at h
  cases hexpand : expand template.toList a.entries with
  | error failure =>
    rw [hexpand] at h
    cases h
  | ok filled => exact exists_given_of_expand_eq_ok hprints hexpand

namespace Registry

/-! ### What has to be given -/

/-- What calls that compile say of the parameters of the functions on the way. It makes no
difference which of them are required. But every call that is expanded, at any depth, gives an
argument for each parameter, required or not, that a template of its function always prints: under
the name of the parameter if the names are plain, and in any case under one that is the same in its
compatibility form.

Assumes: the calls compile. -/
theorem compile_supplied {r : Registry} {calls : List Call} {compiled : Compiled}
    (h : r.compile calls = .ok compiled) :
    (∀ required, (r.requiring required).compile calls = .ok compiled) ∧
    ∀ c, r.IsExpanded calls c → ∃ f, r.find? c.function = some f ∧
      ∀ p ∈ f.parameters, (∃ template ∈ f.templates, AlwaysPrints template.toList p.name) →
        c.arguments.Supplies p.name ∧
          ((∀ q ∈ f.parameters, isPlainName q.name.toList) → p.name ∈ c.arguments.names) := by
  refine ⟨fun required ↦ (r.compile_requiring required calls).trans h, ?_⟩
  intro c hc
  obtain ⟨f, hfind, hdeclared, hfilled⟩ := exists_fill_of_isExpanded h hc
  refine ⟨f, hfind, ?_⟩
  rintro p hp ⟨template, htemplate, hprints⟩
  obtain ⟨text, htext⟩ := hfilled template htemplate
  have hsupplies : c.arguments.Supplies p.name := Arguments.supplies_of_fill_eq_ok hprints htext
  refine ⟨hsupplies, fun hplain ↦ ?_⟩
  refine Arguments.mem_names_of_supplies hsupplies (hplain p hp) fun given hgiven ↦ ?_
  obtain ⟨q, hq, rfl⟩ := List.mem_map.mp (hdeclared given hgiven)
  exact hplain q hq

/-- A greeting needs a name, and the call inside it gets a text. -/
theorem compile_supplied_greet :
    ∃ compiled filled, greetRegistry.compile [greetCall] = .ok compiled ∧
      fillCall greetCall.arguments sayCall = .ok filled ∧
      greetCall.arguments.Supplies "name" ∧ "text" ∈ filled.arguments.names := by
  have hgreetTags : greetLayout.isTagFree := by decide
  have hsayTags : sayLayout.isTagFree := by decide
  have hgreet : AlwaysPrints (String.ofList greetLayout.written).toList "name" := by
    rw [String.toList_ofList]
    exact Layout.alwaysPrints_of_mem hgreetTags (by decide) List.mem_cons_self
  have hsay : AlwaysPrints (String.ofList sayLayout.written).toList "text" := by
    rw [String.toList_ofList]
    exact Layout.alwaysPrints_of_mem hsayTags (by decide) List.mem_cons_self
  obtain ⟨compiled, hcompiled⟩ := exists_compile_greetCall
  have houter : greetRegistry.IsExpanded [greetCall] greetCall := .top List.mem_cons_self
  have hfind : greetRegistry.find? greetCall.function = some greetFunction := by decide +kernel
  obtain ⟨f, hf, -, hfilled⟩ := exists_fill_of_isExpanded hcompiled houter
  obtain rfl := Option.some.inj (hf.symm.trans hfind)
  obtain ⟨filled, hcall⟩ : ∃ filled, fillCall greetCall.arguments sayCall = .ok filled :=
    exists_fillCall fun entry hentry ↦ hfilled entry.2 (List.mem_map_of_mem hentry)
  have hinner : greetRegistry.IsExpanded [greetCall] filled :=
    .inner houter hfind List.mem_cons_self hcall
  obtain ⟨-, hsupplied⟩ := compile_supplied hcompiled
  obtain ⟨f, hf, hgreeting⟩ := hsupplied greetCall houter
  obtain rfl := Option.some.inj (hf.symm.trans hfind)
  obtain ⟨g, hg, hsaying⟩ := hsupplied filled hinner
  have hsayFind : greetRegistry.find? filled.function = some sayFunction := by
    rw [(fillCall_eq_ok hcall).1]
    decide +kernel
  obtain rfl := Option.some.inj (hg.symm.trans hsayFind)
  refine ⟨compiled, filled, hcompiled, hcall, ?_, ?_⟩
  · exact (hgreeting ⟨"name", true⟩ List.mem_cons_self ⟨_, List.mem_cons_self, hgreet⟩).1
  · refine (hsaying ⟨"text", true⟩ List.mem_cons_self ⟨_, List.mem_cons_self, hsay⟩).2 ?_
    intro q hq
    obtain rfl := List.mem_singleton.mp hq
    decide

/-- A function with a required parameter that its code does not print. -/
def idleFunction : Function := ⟨"Idle", [⟨"text", true⟩], .code ⟨"echo note", ""⟩⟩

/-- A call of it without arguments. -/
def idleCall : Call := ⟨"Idle", .empty, by decide⟩

/-- The registry of it. -/
def idleRegistry : Registry := ⟨[idleFunction], by decide +kernel⟩

/-- A call that leaves a required parameter out compiles. -/
theorem compile_idleCall :
    idleRegistry.compile [idleCall] = .ok ⟨"echo note", ""⟩ ∧
      idleRegistry.IsExpanded [idleCall] idleCall ∧
      idleRegistry.find? idleCall.function = some idleFunction ∧
      ∃ p ∈ idleFunction.parameters, p.isRequired = true ∧ p.name ∉ idleCall.arguments.names := by
  have hcompiled : idleRegistry.compile [idleCall] = .ok ⟨"echo note", ""⟩ := by
    cbv
  refine ⟨hcompiled, .top List.mem_cons_self, by decide +kernel, ?_⟩
  exact ⟨⟨"text", true⟩, List.mem_cons_self, rfl, List.not_mem_nil⟩

end Registry

end Scriptorium
