import Mathlib.Data.List.Chain
import Scriptorium.Proofs.CallGraph

/-!
# Cycles that are reported

When compiling calls ends in a cycle or in too many open functions, and what is reported then. The
run that compiles a sequence comes to its calls one after the other, and inside a function that it
has entered to the calls of the body (`Registry.Visits`). It comes to a call only if everything
before it was expanded. So if a call fails that the run comes to, the run fails in the same way
(`compile_eq_error_of_visits`), and if the run ends in a cycle, it came to a call that was refused
(`exists_visits_of_compile_eq_error`).

Wherever the run is, the functions that are open are a path of the call graph, without repetitions
and at most `callLimit` of them (`callPath_of_visits`, `nodup_of_visits`, `length_le_of_visits`),
also after the calls before the current one were left again. The path that is reported is this path
with the function behind it that could not be entered, so it is real. Whether a function is open is
looked at before the room for it, so that one that is open is never reported as one too many, even
with no room left.
-/

set_option autoImplicit false
set_option relaxedAutoImplicit false

namespace Scriptorium.Registry

variable {r : Registry} {calls : List Call} {path : List String} {c : Call} {e : Error}

/-! ### The run -/

/-- Whether the run that compiles `calls` comes to a call while the functions `path` are open. -/
inductive Visits (r : Registry) (calls : List Call) : List String → Call → Prop
  | top {before after : List Call} {c : Call} {fragments : List Compiled}
      (hcalls : calls = before ++ c :: after)
      (hbefore : expandEach (r.expand callLimit []) before = .ok fragments) : Visits r calls [] c
  | inner {path : List String} {outer c filled : Call} {f : Function} {before after : List Call}
      {fragments : List Compiled} (houter : Visits r calls path outer)
      (hadmitted : r.Admitted path outer f) (hroom : path.length < callLimit)
      (hbody : f.body = .calls (before ++ c :: after))
      (hbefore : expandEach (r.expandInner (callLimit - (path.length + 1))
        (path ++ [outer.function]) outer.arguments) before = .ok fragments)
      (hfilled : fillCall outer.arguments c = .ok filled) :
      Visits r calls (path ++ [outer.function]) filled

/-- The functions that are open are a path to the call. -/
theorem callPath_of_visits (h : r.Visits calls path c) : r.CallPath calls path c.function := by
  induction h with
  | top hcalls _ => exact .top (hcalls ▸ List.mem_append_right _ List.mem_cons_self)
  | inner _ hadmitted _ hbody _ hfilled ih =>
    rw [(fillCall_eq_ok hfilled).1]
    refine ih.step_of_mem hadmitted.registered ?_
    rw [Function.innerCalls, hbody]
    exact List.mem_append_right _ List.mem_cons_self

/-- No function is open twice. -/
theorem nodup_of_visits (h : r.Visits calls path c) : path.Nodup := by
  induction h with
  | top _ _ => exact .nil
  | inner _ hadmitted _ _ _ _ ih =>
    rw [← List.concat_eq_append, List.nodup_concat]
    exact ⟨hadmitted.fresh, ih⟩

theorem length_le_of_visits (h : r.Visits calls path c) : path.length ≤ callLimit := by
  cases h with
  | top _ _ => exact Nat.zero_le _
  | inner _ _ hroom _ _ _ =>
    rw [List.length_append, List.length_singleton]
    exact hroom

/-- A function that is open is registered. -/
theorem exists_find?_of_visits (h : r.Visits calls path c) :
    ∀ name ∈ path, ∃ f, r.find? name = some f := by
  induction h with
  | top _ _ => simp
  | inner _ hadmitted _ _ _ _ ih =>
    intro name hname
    rcases List.mem_append.mp hname with hbefore | hlast
    · exact ih name hbefore
    · exact ⟨_, List.mem_singleton.mp hlast ▸ hadmitted.registered⟩

/-- If a call fails that the run comes to, the run fails in the same way. -/
theorem compile_eq_error_of_visits (h : r.Visits calls path c)
    (hfail : r.expand (callLimit - path.length) path c = .error e) :
    r.compile calls = .error e := by
  induction h with
  | top hcalls hbefore =>
    rw [compile_eq_error_iff, expandEach_eq_error_iff]
    exact ⟨_, _, _, _, hcalls, hbefore, hfail⟩
  | @inner path outer c filled f before after fragments _ hadmitted hroom hbody hbefore hfilled
      ih =>
    -- the failure of the call is that of the body around it, and so that of the call of this body
    refine ih ?_
    have hroom : callLimit - path.length = callLimit - (path.length + 1) + 1 := by omega
    rw [List.length_append, List.length_singleton] at hfail
    rw [hroom, expand_succ_of_admitted hadmitted, hbody]
    refine expandEach_eq_error_iff.mpr ⟨before, c, after, fragments, rfl, hbefore, ?_⟩
    exact bind_eq_error_iff.mpr (.inr ⟨filled, hfilled, hfail⟩)

/-! ### Where it stops -/

/-- Whether a call asks for a function that has to be declared what it is given. -/
def Fits (r : Registry) (c : Call) : Prop :=
  ∃ f, r.find? c.function = some f ∧ f.Declares c.arguments

/-- The failure of filling a template in is no cycle. -/
theorem not_isCyclic_of_fill_eq_error {a : Arguments} {template : String}
    (h : a.fill template = .error e) : ¬ e.IsCyclic := by
  have hcall := not_isOfCall_of_fill_eq_error h
  cases e <;> simp_all [Error.IsCyclic, Error.IsOfCall]

/-- Whether an error is what comes of entering a function that is open, or one for which there is
no room. -/
inductive Refuses (path : List String) (name : String) : Error → Prop
  | cycle (hopen : name ∈ path) : Refuses path name (.cycle (path ++ [name]))
  | callDepth (hnew : name ∉ path) (hfull : path.length = callLimit) :
      Refuses path name (.callDepth callLimit (path ++ [name]))

/-- A call that fails with a cycle is refused itself, or it enters its function and a call in the
body fails so, behind others that were expanded. -/
theorem refuses_or_enters_of_expand_eq_error {room : Nat} (hroom : room + path.length = callLimit)
    (h : r.expand room path c = .error e) (hcyclic : e.IsCyclic) :
    r.Fits c ∧ Refuses path c.function e ∨
    ∃ f less before inner after fragments filled, r.Admitted path c f ∧ room = less + 1 ∧
      f.body = .calls (before ++ inner :: after) ∧
      expandEach (r.expandInner less (path ++ [c.function]) c.arguments) before = .ok fragments ∧
      fillCall c.arguments inner = .ok filled ∧
      r.expand less (path ++ [c.function]) filled = .error e := by
  rcases r.expand_cases room path c with ⟨-, heq⟩ | ⟨f, unexpected, -, -, heq⟩ |
    ⟨f, hfind, hdeclared, hopen, heq⟩ | ⟨f, hadmitted, hzero, heq⟩ |
    ⟨f, less, hadmitted, hless, heq⟩
  · obtain rfl := Except.error.inj (h.symm.trans heq)
    exact hcyclic.elim
  · obtain rfl := Except.error.inj (h.symm.trans heq)
    exact hcyclic.elim
  · obtain rfl := Except.error.inj (h.symm.trans heq)
    exact .inl ⟨⟨f, hfind, hdeclared⟩, .cycle hopen⟩
  · obtain rfl := Except.error.inj (h.symm.trans heq)
    refine .inl ⟨⟨f, hadmitted.registered, hadmitted.declared⟩, .callDepth hadmitted.fresh ?_⟩
    omega
  · rw [heq] at h
    cases hbody : f.body with
    | code code =>
      rw [hbody] at h
      rcases bind_eq_error_iff.mp h with hcode | ⟨compiled, -, hfragments⟩
      · obtain ⟨template, -, hfill⟩ := exists_fill_of_fillCode_eq_error hcode
        exact absurd hcyclic (not_isCyclic_of_fill_eq_error hfill)
      · cases hfragments
    | calls inner =>
      rw [hbody] at h
      obtain ⟨before, inner, after, fragments, rfl, hbefore, hinner⟩ :=
        expandEach_eq_error_iff.mp h
      rcases bind_eq_error_iff.mp hinner with hfilled | ⟨filled, hfilled, hfail⟩
      · obtain ⟨entry, -, hfill⟩ := exists_of_fillCall_eq_error hfilled
        exact absurd hcyclic (not_isCyclic_of_fill_eq_error hfill)
      · exact .inr ⟨f, less, before, inner, after, fragments, filled, hadmitted, hless, hbody,
          hbefore, hfilled, hfail⟩

/-- If a call that the run comes to fails with a cycle, the run comes to one that is refused
itself. -/
theorem exists_visits_of_expand_eq_error {room : Nat} (hvisits : r.Visits calls path c)
    (hroom : room + path.length = callLimit) (h : r.expand room path c = .error e)
    (hcyclic : e.IsCyclic) :
    ∃ path c, r.Visits calls path c ∧ r.Fits c ∧ Refuses path c.function e := by
  -- with each function that is entered there is room for one less
  induction room generalizing path c with
  | zero =>
    rcases refuses_or_enters_of_expand_eq_error hroom h hcyclic with ⟨hfits, hrefuses⟩ |
      ⟨-, less, -, -, -, -, -, -, hless, -⟩
    · exact ⟨path, c, hvisits, hfits, hrefuses⟩
    · cases hless
  | succ room ih =>
    rcases refuses_or_enters_of_expand_eq_error hroom h hcyclic with ⟨hfits, hrefuses⟩ |
      ⟨f, less, before, inner, after, fragments, filled, hadmitted, hless, hbody, hbefore, hfilled,
        hfail⟩
    · exact ⟨path, c, hvisits, hfits, hrefuses⟩
    · obtain rfl := Nat.succ.inj hless
      have hleft : room = callLimit - (path.length + 1) := by omega
      have hinner : r.Visits calls (path ++ [c.function]) filled :=
        .inner hvisits hadmitted (by omega) hbody (hleft ▸ hbefore) hfilled
      refine ih hinner ?_ hfail
      rw [List.length_append, List.length_singleton]
      omega

/-- A run that ends in a cycle comes to a call that is refused. -/
theorem exists_visits_of_compile_eq_error (h : r.compile calls = .error e) (hcyclic : e.IsCyclic) :
    ∃ path c, r.Visits calls path c ∧ r.Fits c ∧ Refuses path c.function e := by
  obtain ⟨before, c, after, fragments, hcalls, hbefore, hfail⟩ :=
    expandEach_eq_error_iff.mp (compile_eq_error_iff.mp h)
  exact exists_visits_of_expand_eq_error (.top hcalls hbefore) rfl hfail hcyclic

/-- A run that comes to a call that is refused ends there. -/
theorem compile_eq_error_of_refuses (hvisits : r.Visits calls path c) (hfits : r.Fits c)
    (hrefuses : Refuses path c.function e) : r.compile calls = .error e := by
  obtain ⟨f, hfind, hdeclared⟩ := hfits
  refine compile_eq_error_of_visits hvisits ?_
  rw [expand_eq, hfind]
  simp only [checkArguments_eq_ok_iff.mpr hdeclared]
  cases hrefuses with
  | cycle hopen => rw [if_pos hopen]
  | callDepth hnew hfull => rw [if_neg hnew, hfull, Nat.sub_self]

/-! ### What is reported -/

/-- Whether names are those of functions that call each other in turn, the first of them called by
one of `calls`. -/
structure IsCallChain (r : Registry) (calls : List Call) (names : List String) : Prop where
  begins : ∃ c ∈ calls, names.head? = some c.function
  steps : names.IsChain r.Calls

/-- A path of the call graph is a chain up to the name that it leads to. -/
theorem CallPath.isCallChain {names : List String} {name : String}
    (h : r.CallPath calls names name) : r.IsCallChain calls (names ++ [name]) := by
  induction h with
  | top hc => exact ⟨⟨_, hc, rfl⟩, .singleton _⟩
  | @step names name next _ hcalls ih =>
    obtain ⟨c, hc, hhead⟩ := ih.begins
    refine ⟨⟨c, hc, by rw [List.head?_append, hhead]; rfl⟩, ?_⟩
    rw [List.append_assoc, List.singleton_append, List.isChain_append_cons_cons]
    exact ⟨ih.steps, hcalls, .singleton _⟩

/-- What a cycle that is reported says. The path that is told is real: its first name is called by
the sequence, and each other one in the body of the function before it, all of which are different
but for the last name. If that one was open, it stands once before, and the path has at most one
name more than functions can be open. If there was no room for it, it is new, and the path has
exactly one name more. A call of a function that is open is never one too many: wherever the run
comes to one, it ends in the cycle that the call closes, unless the call gives what the function
does not declare, which is looked at before. -/
theorem compile_cyclic (r : Registry) (calls : List Call) :
    (∀ p, r.compile calls = .error (.cycle p) →
      ∃ names last, p = names ++ [last] ∧ r.IsCallChain calls p ∧ names.Nodup ∧
        names.count last = 1 ∧ p.length ≤ callLimit + 1) ∧
    (∀ limit p, r.compile calls = .error (.callDepth limit p) →
      limit = callLimit ∧ r.IsCallChain calls p ∧ p.Nodup ∧ p.length = callLimit + 1) ∧
    ∀ path c, r.Visits calls path c → c.function ∈ path →
      ∃ f, r.find? c.function = some f ∧
        (f.Declares c.arguments → r.compile calls = .error (.cycle (path ++ [c.function]))) ∧
        (¬ f.Declares c.arguments → ∃ unexpected,
          r.compile calls = .error (.unexpectedParameters f.name unexpected f.parameterNames)) := by
  refine ⟨fun p h ↦ ?_, fun limit p h ↦ ?_, fun path c hvisits hopen ↦ ?_⟩
  · obtain ⟨path, c, hvisits, -, hrefuses⟩ := exists_visits_of_compile_eq_error h trivial
    cases hrefuses with
    | cycle hopen =>
      have hdistinct := nodup_of_visits hvisits
      have hlength := length_le_of_visits hvisits
      exact ⟨path, c.function, rfl, (callPath_of_visits hvisits).isCallChain, hdistinct,
        List.count_eq_one_of_mem hdistinct hopen, by simpa using hlength⟩
  · obtain ⟨path, c, hvisits, -, hrefuses⟩ := exists_visits_of_compile_eq_error h trivial
    cases hrefuses with
    | callDepth hnew hfull =>
      refine ⟨rfl, (callPath_of_visits hvisits).isCallChain, ?_, by simp [hfull]⟩
      rw [← List.concat_eq_append, List.nodup_concat]
      exact ⟨hnew, nodup_of_visits hvisits⟩
  · obtain ⟨f, hfind⟩ := exists_find?_of_visits hvisits _ hopen
    refine ⟨f, hfind, fun hdeclared ↦ ?_, fun hundeclared ↦ ?_⟩
    · exact compile_eq_error_of_refuses hvisits ⟨f, hfind, hdeclared⟩ (.cycle hopen)
    · obtain ⟨unexpected, hcheck⟩ := checkArguments_of_not_declares hundeclared
      refine ⟨unexpected, compile_eq_error_of_visits hvisits ?_⟩
      rw [expand_eq, hfind]
      simp only [hcheck]

/-- A call of `Ping`. -/
def pingCall : Call := ⟨"Ping", .empty, by decide⟩

/-- A call of `Pong`. -/
def pongCall : Call := ⟨"Pong", .empty, by decide⟩

/-- A call of `Log`. -/
def logCall : Call := ⟨"Log", .empty, by decide⟩

/-- Two functions that call each other, one of them behind a call of code. -/
def ringRegistry : Registry where
  functions :=
    [⟨"Ping", [], .calls [logCall, pongCall]⟩, ⟨"Pong", [], .calls [pingCall]⟩,
      ⟨"Log", [], .code ⟨"echo log", ""⟩⟩]
  distinct := by decide +kernel

/-- The run comes from one to the other, and there to a call of the first. -/
theorem visits_ring : ringRegistry.Visits [pingCall] ["Ping", "Pong"] pingCall := by
  have hping : ringRegistry.Admitted [] pingCall ⟨"Ping", [], .calls [logCall, pongCall]⟩ :=
    ⟨by decide +kernel, List.forall_mem_nil _, by decide⟩
  have hpong : ringRegistry.Admitted ["Ping"] pongCall ⟨"Pong", [], .calls [pingCall]⟩ :=
    ⟨by decide +kernel, List.forall_mem_nil _, by decide⟩
  have hlog : (expandEach (ringRegistry.expandInner (callLimit - 1) ["Ping"] .empty)
      [logCall]).toOption = some [⟨"echo log", ""⟩] := by
    decide +kernel
  have hfirst : ringRegistry.Visits [pingCall] [] pingCall :=
    @Visits.top ringRegistry [pingCall] [] [] pingCall [] rfl rfl
  have hsecond : ringRegistry.Visits [pingCall] ["Ping"] pongCall :=
    @Visits.inner ringRegistry [pingCall] [] pingCall pongCall pongCall _ [logCall] [] _ hfirst
      hping (by decide) rfl (eq_ok_of_toOption hlog) rfl
  exact @Visits.inner ringRegistry [pingCall] ["Ping"] pongCall pingCall pingCall _ [] [] [] hsecond
    hpong (by decide) rfl rfl rfl

/-- The name of a step. -/
def stepName (i : Nat) : String :=
  String.ofList [Char.ofNat (48 + i / 10), Char.ofNat (48 + i % 10)]

/-- A call of a step. -/
def stepCall (i : Nat) : Call := ⟨stepName i, .empty, by simp [stepName]⟩

/-- A step, on which the next one is called. -/
def stepFunction (i : Nat) : Function := ⟨stepName i, [], .calls [stepCall (i + 1)]⟩

/-- Steps that each call the next one, one more than can be open. -/
def stairsRegistry : Registry where
  functions := (List.range (callLimit + 1)).map stepFunction
  distinct := by decide +kernel

theorem find?_stairs :
    ∀ i < callLimit + 1, stairsRegistry.find? (stepName i) = some (stepFunction i) := by
  decide +kernel

theorem stepName_not_mem :
    ∀ i < callLimit + 1, stepName i ∉ (List.range i).map stepName := by
  decide +kernel

/-- The run comes to each step, with those before it open. -/
theorem visits_stairs {i : Nat} (hi : i ≤ callLimit) :
    stairsRegistry.Visits [stepCall 0] ((List.range i).map stepName) (stepCall i) := by
  induction i with
  | zero => exact @Visits.top stairsRegistry [stepCall 0] [] [] (stepCall 0) [] rfl rfl
  | succ i ih =>
    have hadmitted :
        stairsRegistry.Admitted ((List.range i).map stepName) (stepCall i) (stepFunction i) :=
      ⟨find?_stairs i (by omega), List.forall_mem_nil _, stepName_not_mem i (by omega)⟩
    have hroom : ((List.range i).map stepName).length < callLimit := by
      rwa [List.length_map, List.length_range]
    rw [List.range_succ, List.map_append]
    exact @Visits.inner stairsRegistry [stepCall 0] _ (stepCall i) (stepCall (i + 1))
      (stepCall (i + 1)) _ [] [] [] (ih (by omega)) hadmitted hroom rfl rfl rfl

/-- The last step is one too many. -/
theorem compile_stairs :
    stairsRegistry.compile [stepCall 0] =
      .error (.callDepth callLimit ((List.range (callLimit + 1)).map stepName)) := by
  have hlast : callLimit < callLimit + 1 := Nat.lt_succ_self _
  rw [List.range_succ, List.map_append]
  exact compile_eq_error_of_refuses (visits_stairs le_rfl)
    ⟨stepFunction callLimit, find?_stairs callLimit hlast, List.forall_mem_nil _⟩
    (.callDepth (stepName_not_mem callLimit hlast) rfl)

/-- The path from one to the other and back is told, and it is told as a cycle. The stairs are told
as too deep, with all their different steps. -/
theorem compile_cyclic_ring :
    ringRegistry.compile [pingCall] = .error (.cycle ["Ping", "Pong", "Ping"]) ∧
      ringRegistry.IsCallChain [pingCall] ["Ping", "Pong", "Ping"] ∧
      ((List.range (callLimit + 1)).map stepName).Nodup := by
  obtain ⟨hcycle, -, hopen⟩ := compile_cyclic ringRegistry [pingCall]
  obtain ⟨-, hdepth, -⟩ := compile_cyclic stairsRegistry [stepCall 0]
  obtain ⟨f, hfind, hclosed, -⟩ := hopen _ _ visits_ring (by decide)
  have hdeclared : f.Declares pingCall.arguments := List.forall_mem_nil _
  have hcompile := hclosed hdeclared
  obtain ⟨-, -, -, hchain, -⟩ := hcycle _ hcompile
  obtain ⟨-, -, hnodup, -⟩ := hdepth _ _ compile_stairs
  exact ⟨hcompile, hchain, hnodup⟩

end Scriptorium.Registry
