import Scriptorium.Proofs.CallExpansion

/-!
# Which calls compile

The call graph of a registry has an edge from a function to every name that its body calls
(`Registry.Calls`). A path of the graph starts at the name of a call that is compiled (`CallPath`).
This module shows that, but for the templates, compiling asks for nothing that the graph does not
say: `IsExpandable` is what it asks for, and it speaks of reachable names alone.

While a call is expanded the stack of open functions is the static path to it. So a path of the
graph is visited if the expansion succeeds (`exists_expand_of_callPath`), from which the conditions
follow one by one, among them the bound on the length of a path, which is exact. In the other
direction no check can fail along a path if the graph is as it is asked for, and what fails is the
filling of a template (`failsInTemplate_of_expand_eq_error`). A registry that has the same functions
under the reachable names compiles the same calls in the same way (`compile_congr_of_reaches`).
-/

set_option autoImplicit false
set_option relaxedAutoImplicit false

namespace Scriptorium

/-- Whether an error says that a name is unknown, that an argument is not declared, or that
functions call each other in a circle or too deep. -/
def Error.IsOfCall : Error → Prop
  | .unknownFunction _ | .unexpectedParameters _ _ _ | .cycle _ | .callDepth _ _ => True
  | _ => False

/-- The failure of a template is no failure of a call. -/
theorem Error.not_isOfCall_ofTemplate (failure : Template.Failure) :
    ¬ (Error.ofTemplate failure).IsOfCall := by
  cases failure <;> exact id

/-- The failure of filling a template in is no failure of a call. -/
theorem not_isOfCall_of_fill_eq_error {a : Arguments} {template : String} {e : Error}
    (h : a.fill template = .error e) : ¬ e.IsOfCall := by
  unfold Arguments.fill at h
  split at h
  · cases h
  · rename_i failure _
    rw [Except.error.injEq] at h
    exact h ▸ Error.not_isOfCall_ofTemplate failure

namespace Registry

variable {r : Registry} {calls : List Call}

/-! ### The graph -/

/-- Whether the body of a function calls a name. -/
def Calls (r : Registry) (caller callee : String) : Prop :=
  ∃ f, r.find? caller = some f ∧ ∃ inner ∈ f.innerCalls, inner.function = callee

/-- The functions `names` call one another in turn, the first of them is called by one of `calls`,
and the last of them calls `name`; without any, one of `calls` does. -/
inductive CallPath (r : Registry) (calls : List Call) : List String → String → Prop
  | top {c : Call} (hc : c ∈ calls) : CallPath r calls [] c.function
  | step {names : List String} {name next : String} (hpath : CallPath r calls names name)
      (hcalls : r.Calls name next) : CallPath r calls (names ++ [name]) next

/-- Whether some path leads to a name. -/
def Reaches (r : Registry) (calls : List Call) (name : String) : Prop :=
  ∃ names, r.CallPath calls names name

/-- Whether a call is one of `calls` or stands in the body of a function whose name is reached. -/
def ReachesCall (r : Registry) (calls : List Call) (c : Call) : Prop :=
  c ∈ calls ∨ ∃ name f, r.Reaches calls name ∧ r.find? name = some f ∧ c ∈ f.innerCalls

/-- What the call graph has to be for calls to compile: every name that is reached is registered
with exactly its spelling, every call that is reached gives only arguments that its function
declares, and the names on a path are distinct and at most `callLimit`. -/
structure IsExpandable (r : Registry) (calls : List Call) : Prop where
  registered : ∀ name, r.Reaches calls name → ∃ f ∈ r.functions, f.name = name
  declared : ∀ c, r.ReachesCall calls c → ∀ f ∈ r.functions, f.name = c.function →
    f.Declares c.arguments
  distinct : ∀ names name, r.CallPath calls names name → (names ++ [name]).Nodup
  bounded : ∀ names name, r.CallPath calls names name → (names ++ [name]).length ≤ callLimit

/-- A path goes on with every call in the body of the function it leads to. -/
theorem CallPath.step_of_mem {names : List String} {name : String} {f : Function} {inner : Call}
    (hpath : r.CallPath calls names name) (hfind : r.find? name = some f)
    (hinner : inner ∈ f.innerCalls) :
    r.CallPath calls (names ++ [name]) inner.function :=
  .step hpath ⟨f, hfind, inner, hinner, rfl⟩

/-! ### What is compiled is expandable -/

/-- If all calls of a sequence were expanded, so was a call at the end of every path, with the path
on the stack and its names taken off the room. -/
theorem exists_expand_of_callPath
    (h : ∀ c ∈ calls, ∃ fragments, r.expand callLimit [] c = .ok fragments) {names : List String}
    {name : String} (hpath : r.CallPath calls names name) :
    ∃ room c fragments, room + names.length = callLimit ∧ c.function = name ∧
      r.expand room names c = .ok fragments := by
  induction hpath with
  | top hc =>
    obtain ⟨fragments, hfragments⟩ := h _ hc
    exact ⟨callLimit, _, fragments, rfl, rfl, hfragments⟩
  | step _ hcalls ih =>
    obtain ⟨room, c, fragments, hroom, rfl, hexpand⟩ := ih
    obtain ⟨f, less, hadmitted, rfl, hbody⟩ := admitted_of_expand_eq_ok hexpand
    obtain ⟨g, hfind, inner, hinner, rfl⟩ := hcalls
    obtain rfl : f = g := Option.some.inj (hadmitted.registered.symm.trans hfind)
    obtain ⟨filled, own, hfilled, hown⟩ := exists_expand_of_expandBody_eq_ok hbody hinner
    refine ⟨less, filled, own, ?_, (fillCall_eq_ok hfilled).1, hown⟩
    rw [List.length_append, List.length_singleton]
    omega

/-- If all calls of a sequence were expanded, a call at the end of every path was admitted and there
was room. -/
theorem exists_admitted_of_callPath
    (h : ∀ c ∈ calls, ∃ fragments, r.expand callLimit [] c = .ok fragments) {names : List String}
    {name : String} (hpath : r.CallPath calls names name) :
    ∃ less c f fragments, less + 1 + names.length = callLimit ∧ c.function = name ∧
      r.Admitted names c f ∧ r.expandBody less (names ++ [name]) c.arguments f.body =
        .ok fragments := by
  obtain ⟨room, c, fragments, hroom, rfl, hexpand⟩ := exists_expand_of_callPath h hpath
  obtain ⟨f, less, hadmitted, rfl, hbody⟩ := admitted_of_expand_eq_ok hexpand
  exact ⟨less, c, f, fragments, hroom, rfl, hadmitted, hbody⟩

/-- If all calls of a sequence were expanded, the names on every path are distinct. -/
theorem nodup_of_callPath (h : ∀ c ∈ calls, ∃ fragments, r.expand callLimit [] c = .ok fragments)
    {names : List String} {name : String} (hpath : r.CallPath calls names name) :
    (names ++ [name]).Nodup := by
  have hfresh : ∀ {before : List String} {last : String}, r.CallPath calls before last →
      last ∉ before := by
    intro before last hbefore
    obtain ⟨-, c, f, -, -, rfl, hadmitted, -⟩ := exists_admitted_of_callPath h hbefore
    exact hadmitted.fresh
  induction hpath with
  | top _ => exact List.nodup_singleton _
  | step hpath hcalls ih =>
    rw [← List.concat_eq_append, List.nodup_concat]
    exact ⟨hfresh (.step hpath hcalls), ih⟩

/-- What is compiled is expandable: every condition is a check that was passed at the end of some
path. -/
theorem isExpandable_of_expand
    (h : ∀ c ∈ calls, ∃ fragments, r.expand callLimit [] c = .ok fragments) :
    r.IsExpandable calls where
  registered := by
    rintro name ⟨names, hpath⟩
    obtain ⟨-, c, f, -, -, rfl, hadmitted, -⟩ := exists_admitted_of_callPath h hpath
    exact ⟨f, find?_eq_some_iff.mp hadmitted.registered⟩
  declared := by
    intro c hc f hf hname
    have hfind : r.find? c.function = some f := find?_eq_some_iff.mpr ⟨hf, hname⟩
    rcases hc with hc | ⟨name, g, ⟨names, hpath⟩, hg, hinner⟩
    · obtain ⟨fragments, hexpand⟩ := h c hc
      obtain ⟨f', -, hadmitted, -, -⟩ := admitted_of_expand_eq_ok hexpand
      obtain rfl : f' = f := Option.some.inj (hadmitted.registered.symm.trans hfind)
      exact hadmitted.declared
    · obtain ⟨less, outer, g', fragments, -, rfl, houter, hbody⟩ :=
        exists_admitted_of_callPath h hpath
      obtain rfl : g' = g := Option.some.inj (houter.registered.symm.trans hg)
      obtain ⟨filled, own, hfilled, hown⟩ := exists_expand_of_expandBody_eq_ok hbody hinner
      obtain ⟨f', -, hadmitted, -, -⟩ := admitted_of_expand_eq_ok hown
      have hregistered := hadmitted.registered
      rw [(fillCall_eq_ok hfilled).1, hfind, Option.some.injEq] at hregistered
      rw [hregistered, ← declares_of_fillCall hfilled]
      exact hadmitted.declared
  distinct := fun _ _ hpath ↦ nodup_of_callPath h hpath
  bounded := by
    intro names name hpath
    obtain ⟨less, -, -, -, hroom, -, -, -⟩ := exists_admitted_of_callPath h hpath
    rw [List.length_append, List.length_singleton]
    omega

/-! ### What is expandable fails at most in a template -/

/-- The failure of the codes of a function is the failure of one of its templates. -/
theorem exists_fill_of_fillCode_eq_error {code : FunctionCode} {a : Arguments} {e : Error}
    (h : fillCode code a = .error e) :
    ∃ template ∈ [code.execute, code.revert], a.fill template = .error e := by
  rcases bind_eq_error_iff.mp h with hexecute | ⟨execute, -, hothers⟩
  · exact ⟨code.execute, List.mem_cons_self, hexecute⟩
  · rcases bind_eq_error_iff.mp hothers with hrevert | ⟨revert, -, hcompiled⟩
    · exact ⟨code.revert, List.mem_cons_of_mem _ List.mem_cons_self, hrevert⟩
    · cases hcompiled

/-- The failure of a body is the failure of a template of its function, or of a call in it that was
filled in. -/
theorem expandBody_eq_error {room : Nat} {path : List String} {a : Arguments} {f : Function}
    {e : Error}
    (h : r.expandBody room path a f.body = .error e) :
    (∃ template ∈ f.templates, a.fill template = .error e) ∨
      ∃ inner ∈ f.innerCalls, ∃ filled, fillCall a inner = .ok filled ∧
        r.expand room path filled = .error e := by
  unfold Function.templates Function.innerCalls
  cases hbody : f.body with
  | code code =>
    rw [hbody] at h
    rcases bind_eq_error_iff.mp h with hcode | ⟨compiled, -, hfragments⟩
    · exact Or.inl (exists_fill_of_fillCode_eq_error hcode)
    · cases hfragments
  | calls inner =>
    rw [hbody] at h
    obtain ⟨c, hc, hfail⟩ := exists_of_expandEach_eq_error h
    rcases bind_eq_error_iff.mp hfail with hfilled | ⟨filled, hfilled, hexpand⟩
    · obtain ⟨entry, hentry, hfill⟩ := exists_of_fillCall_eq_error hfilled
      left
      exact ⟨entry.2, List.mem_flatMap.mpr ⟨c, hc, List.mem_map_of_mem hentry⟩, hfill⟩
    · exact Or.inr ⟨c, hc, filled, hfilled, hexpand⟩

/-- A template of a function that is reached fails with an error. -/
def FailsInTemplate (r : Registry) (calls : List Call) (e : Error) : Prop :=
  ∃ f ∈ r.functions, r.Reaches calls f.name ∧ ∃ template ∈ f.templates, ∃ a : Arguments,
    a.fill template = .error e

/-- Along a path of an expandable graph no check fails, so a failure is that of a template. -/
theorem failsInTemplate_of_expand_eq_error (hgraph : r.IsExpandable calls) {room : Nat}
    {path : List String}
    {c : Call}
    (hpath : r.CallPath calls path c.function) (hroom : room + path.length = callLimit)
    (hdeclared : ∀ f ∈ r.functions, f.name = c.function → f.Declares c.arguments) {e : Error}
    (h : r.expand room path c = .error e) : r.FailsInTemplate calls e := by
  induction room generalizing path c with
  | zero =>
    have hbound := hgraph.bounded _ _ hpath
    rw [List.length_append, List.length_singleton] at hbound
    omega
  | succ room ih =>
    obtain ⟨f, hf, hname⟩ := hgraph.registered _ ⟨path, hpath⟩
    have hfind : r.find? c.function = some f := find?_eq_some_iff.mpr ⟨hf, hname⟩
    have hfresh : c.function ∉ path := by
      have hdistinct := hgraph.distinct _ _ hpath
      rw [← List.concat_eq_append, List.nodup_concat] at hdistinct
      exact hdistinct.1
    rw [expand_succ_of_admitted ⟨hfind, hdeclared f hf hname, hfresh⟩] at h
    have hreached : r.Reaches calls c.function := ⟨path, hpath⟩
    rcases expandBody_eq_error h with ⟨template, htemplate, hfill⟩ |
      ⟨inner, hinner, filled, hfilled, hfail⟩
    · exact ⟨f, hf, hname ▸ hreached, template, htemplate, c.arguments, hfill⟩
    · have hfunction := (fillCall_eq_ok hfilled).1
      have hstep : r.CallPath calls (path ++ [c.function]) filled.function := by
        rw [hfunction]
        exact hpath.step_of_mem hfind hinner
      refine ih hstep ?_ ?_ hfail
      · rw [List.length_append, List.length_singleton]
        omega
      · intro g hg hgname
        rw [declares_of_fillCall hfilled]
        exact hgraph.declared inner (Or.inr ⟨_, f, hreached, hfind, hinner⟩) g hg
          (hgname.trans hfunction)

/-! ### What is not reached does not count -/

/-- Registries that have the same functions under the reachable names expand a call on a path
alike. -/
theorem expand_congr_of_callPath {other : Registry}
    (hsame : ∀ name, r.Reaches calls name → other.find? name = r.find? name) {room : Nat}
    {path : List String} {c : Call} (hpath : r.CallPath calls path c.function) :
    other.expand room path c = r.expand room path c := by
  induction room generalizing path c with
  | zero => simp only [expand_eq, hsame _ ⟨path, hpath⟩]
  | succ room ih =>
    have hbody : ∀ f, r.find? c.function = some f →
        other.expandBody room (path ++ [c.function]) c.arguments f.body =
          r.expandBody room (path ++ [c.function]) c.arguments f.body := by
      intro f hfind
      cases hcalls : f.body with
      | code code => rfl
      | calls inner =>
        refine expandEach_congr fun d hd ↦ ?_
        unfold expandInner
        cases hfilled : fillCall c.arguments d with
        | error e => rfl
        | ok filled =>
          refine ih ?_
          rw [(fillCall_eq_ok hfilled).1]
          exact hpath.step_of_mem hfind (by rw [Function.innerCalls, hcalls]; exact hd)
    rw [expand_eq, expand_eq, hsame _ ⟨path, hpath⟩]
    cases hfind : r.find? c.function with
    | none => rfl
    | some f => simp only [hbody f hfind]

/-- Registries that have the same functions under the reachable names compile calls alike. -/
theorem compile_congr_of_reaches {other : Registry}
    (hsame : ∀ name, r.Reaches calls name → other.find? name = r.find? name) :
    other.compile calls = r.compile calls := by
  have hexpand : expandEach (other.expand callLimit []) calls =
      expandEach (r.expand callLimit []) calls :=
    expandEach_congr fun c hc ↦ expand_congr_of_callPath hsame (.top hc)
  unfold compile expandCalls
  rw [hexpand]

/-! ### The characterisation -/

/-- Calls compile only if their call graph is expandable. If it is, nothing can go wrong but the
filling of a template, so that no error is one of a call. What is not reached has no part in it. -/
theorem compile_characterisation (r : Registry) (calls : List Call) :
    ((∃ compiled, r.compile calls = .ok compiled) → r.IsExpandable calls) ∧
    (r.IsExpandable calls →
      ∀ e, r.compile calls = .error e → ¬ e.IsOfCall ∧ r.FailsInTemplate calls e) ∧
    (∀ other : Registry, (∀ name, r.Reaches calls name → other.find? name = r.find? name) →
      other.compile calls = r.compile calls) := by
  refine ⟨?_, ?_, ?_⟩
  · rintro ⟨compiled, h⟩
    obtain ⟨fragments, hfragments, -⟩ := compile_eq_ok_iff.mp h
    exact isExpandable_of_expand fun c hc ↦ exists_of_expandEach_eq_ok hfragments hc
  · intro hgraph e h
    obtain ⟨c, hc, hfail⟩ := exists_of_expandEach_eq_error (compile_eq_error_iff.mp h)
    have htemplate := failsInTemplate_of_expand_eq_error hgraph (.top hc) rfl
      (hgraph.declared c (Or.inl hc)) hfail
    refine ⟨?_, htemplate⟩
    obtain ⟨-, -, -, template, -, a, hfill⟩ := htemplate
    exact not_isOfCall_of_fill_eq_error hfill
  · exact fun other hsame ↦ compile_congr_of_reaches hsame

end Registry

end Scriptorium
