import Mathlib
import Scriptorium.Proofs.CallExpansion

/-!
# Inlining a call

A call of a function with calls can be replaced by those calls, each with its arguments filled in
from the arguments of the call that is replaced. The inlined calls are expanded with one function
less on the path and one more place, and the two runs are compared in both directions.

A shorter path and more room never change what a call expands to (`expand_of_subset`): they can only
remove errors. In the other direction an expansion that succeeded somewhere succeeds with the same
fragments on every other path, unless a function is open there already or there is too little room
(`expand_okOrCyclic`), since the path and the room decide about nothing else. `compile_inlining`
puts both together around the body of the function, where the inlined calls take the place of the
body (`expandEach_expandInner_of_mapM`).
-/

set_option autoImplicit false
set_option relaxedAutoImplicit false

namespace Scriptorium.Registry

variable {r : Registry}

/-- A result is a given value, unless a function was entered while it was open or one function too
many. -/
def OkOrCyclic {α : Type} (result : Except Error α) (value : α) : Prop :=
  result = .ok value ∨ ∃ e, result = .error e ∧ e.IsCyclic

/-! ### Another way to expand single calls -/

section Transfer

variable {expandOne expandOther : Call → Except Error (List Compiled)}

/-- If another way to expand calls gives what the first gave, it does so for a sequence. -/
theorem expandEach_eq_ok_of_forall {calls : List Call} {fragments : List Compiled}
    (hone : ∀ c own, expandOne c = .ok own → expandOther c = .ok own)
    (h : expandEach expandOne calls = .ok fragments) :
    expandEach expandOther calls = .ok fragments := by
  induction calls generalizing fragments with
  | nil => exact h
  | cons c rest ih =>
    obtain ⟨own, others, hown, hothers, happend⟩ := expandEach_cons_eq_ok_iff.mp h
    exact expandEach_cons_eq_ok_iff.mpr ⟨own, others, hone c own hown, ih hothers, happend⟩

/-- If another way to expand calls gives what the first gave or a cyclic error, it does so for a
sequence. -/
theorem expandEach_okOrCyclic_of_forall {calls : List Call} {fragments : List Compiled}
    (hone : ∀ c own, expandOne c = .ok own → OkOrCyclic (expandOther c) own)
    (h : expandEach expandOne calls = .ok fragments) :
    OkOrCyclic (expandEach expandOther calls) fragments := by
  induction calls generalizing fragments with
  | nil => exact Or.inl h
  | cons c rest ih =>
    obtain ⟨own, others, hown, hothers, rfl⟩ := expandEach_cons_eq_ok_iff.mp h
    rw [expandEach_cons]
    rcases hone c own hown with hfirst | ⟨e, hfirst, he⟩
    · rcases ih hothers with hrest | ⟨e, hrest, he⟩
      · left
        rw [hfirst, hrest]
        rfl
      · right
        refine ⟨e, ?_, he⟩
        rw [hfirst, hrest]
        rfl
    · right
      refine ⟨e, ?_, he⟩
      rw [hfirst]
      rfl

end Transfer

/-! ### Another path -/

/-- A shorter path and more room leave the fragments of a call as they are. -/
theorem expand_of_subset {room room' : Nat} {path path' : List String} {c : Call}
    {fragments : List Compiled}
    (h : r.expand room path c = .ok fragments) (hroom : room ≤ room') (hpath : path' ⊆ path) :
    r.expand room' path' c = .ok fragments := by
  induction room generalizing room' path path' c fragments with
  | zero =>
    obtain ⟨f, less, -, hzero, -⟩ := admitted_of_expand_eq_ok h
    omega
  | succ room ih =>
    obtain ⟨f, less, hadmitted, hless, hbody⟩ := admitted_of_expand_eq_ok h
    obtain ⟨room', rfl⟩ : ∃ n, room' = n + 1 := ⟨room' - 1, by omega⟩
    obtain rfl : room = less := by omega
    have hadmitted' : r.Admitted path' c f :=
      ⟨hadmitted.registered, hadmitted.declared, fun hmem ↦ hadmitted.fresh (hpath hmem)⟩
    rw [expand_succ_of_admitted hadmitted']
    cases hcalls : f.body with
    | code code => rwa [hcalls] at hbody
    | calls inner =>
      rw [hcalls] at hbody
      refine expandEach_eq_ok_of_forall (fun d own hown ↦ ?_) hbody
      obtain ⟨filled, hfilled, hexpand⟩ := expandInner_eq_ok_iff.mp hown
      have hsubset : path' ++ [c.function] ⊆ path ++ [c.function] :=
        List.append_subset.mpr ⟨List.subset_append_of_subset_left _ hpath,
          List.subset_append_right _ _⟩
      exact expandInner_eq_ok_iff.mpr ⟨filled, hfilled, ih hexpand (by omega) hsubset⟩

/-- A call that was expanded on some path expands to the same fragments on every other, unless a
function is open on that one already or there is too little room. -/
theorem expand_okOrCyclic {room : Nat} {path : List String} {c : Call} {fragments : List Compiled}
    (h : r.expand room path c = .ok fragments) (room' : Nat) (path' : List String) :
    OkOrCyclic (r.expand room' path' c) fragments := by
  induction room generalizing room' path path' c fragments with
  | zero =>
    obtain ⟨f, less, -, hzero, -⟩ := admitted_of_expand_eq_ok h
    omega
  | succ room ih =>
    obtain ⟨f, less, hadmitted, hless, hbody⟩ := admitted_of_expand_eq_ok h
    obtain rfl : room = less := by omega
    rcases r.expand_cases room' path' c with ⟨hfind, -⟩ | ⟨g, -, hfind, hdeclared, -⟩ |
      ⟨g, -, -, -, hfail⟩ | ⟨g, -, -, hfail⟩ | ⟨g, less', hadmitted', -, hexpand⟩
    · rw [hadmitted.registered] at hfind
      cases hfind
    · obtain rfl : f = g := Option.some.inj (hadmitted.registered.symm.trans hfind)
      exact absurd hadmitted.declared hdeclared
    · exact Or.inr ⟨_, hfail, trivial⟩
    · exact Or.inr ⟨_, hfail, trivial⟩
    · obtain rfl : f = g := Option.some.inj (hadmitted.registered.symm.trans hadmitted'.registered)
      rw [hexpand]
      cases hcalls : f.body with
      | code code =>
        rw [hcalls] at hbody
        exact Or.inl hbody
      | calls inner =>
        rw [hcalls] at hbody
        refine expandEach_okOrCyclic_of_forall (fun d own hown ↦ ?_) hbody
        obtain ⟨filled, hfilled, hinner⟩ := expandInner_eq_ok_iff.mp hown
        unfold expandInner
        rw [hfilled]
        exact ih hinner less' _

/-! ### The inlined calls -/

/-- A body is expanded as its calls are once their arguments are filled in. -/
theorem expandEach_expandInner_of_mapM {room : Nat} {path : List String} {a : Arguments}
    {inner inlined : List Call} (h : inner.mapM (fillCall a) = .ok inlined) :
    expandEach (r.expandInner room path a) inner = expandEach (r.expand room path) inlined := by
  induction inner generalizing inlined with
  | nil =>
    rw [List.mapM_nil] at h
    cases h
    rfl
  | cons c rest ih =>
    rw [List.mapM_cons] at h
    obtain ⟨filled, hfilled, hothers⟩ := bind_eq_ok_iff.mp h
    obtain ⟨others, hrest, hinlined⟩ := bind_eq_ok_iff.mp hothers
    obtain rfl := Except.ok.inj hinlined
    rw [expandEach_cons, expandEach_cons, ih hrest]
    unfold expandInner
    rw [hfilled]
    rfl

/-- The arguments of all calls in a body were filled in if the body was expanded. -/
theorem exists_mapM_of_expandEach_eq_ok {room : Nat} {path : List String} {a : Arguments}
    {inner : List Call}
    {fragments : List Compiled} (h : expandEach (r.expandInner room path a) inner = .ok fragments) :
    ∃ inlined, inner.mapM (fillCall a) = .ok inlined := by
  induction inner generalizing fragments with
  | nil => exact ⟨[], rfl⟩
  | cons c rest ih =>
    obtain ⟨own, others, hown, hothers, -⟩ := expandEach_cons_eq_ok_iff.mp h
    obtain ⟨filled, hfilled, -⟩ := expandInner_eq_ok_iff.mp hown
    obtain ⟨inlined, hinlined⟩ := ih hothers
    refine ⟨filled :: inlined, ?_⟩
    rw [List.mapM_cons, hfilled, hinlined]
    rfl

/-- Inlining keeps the meaning of a sequence of calls. Assumes: a call of a registered function
whose body is a sequence of calls. If the sequence around the call compiles, the calls of the body
can be filled in, and the sequence with them in the place of the call compiles to the same code.
Conversely, if the function declares the arguments of the call and the inlined sequence compiles,
the original one compiles to the same code or fails because functions call each other in a circle or
too deep. -/
theorem compile_inlining {c : Call} {f : Function} {inner : List Call}
    (hfind : r.find? c.function = some f) (hcalls : f.body = .calls inner)
    (before after : List Call) :
    (∀ compiled, r.compile (before ++ [c] ++ after) = .ok compiled →
      ∃ inlined, inner.mapM (fillCall c.arguments) = .ok inlined ∧
        r.compile (before ++ inlined ++ after) = .ok compiled) ∧
    (f.Declares c.arguments → ∀ inlined, inner.mapM (fillCall c.arguments) = .ok inlined →
      ∀ compiled, r.compile (before ++ inlined ++ after) = .ok compiled →
        OkOrCyclic (r.compile (before ++ [c] ++ after)) compiled) := by
  constructor
  · intro compiled h
    obtain ⟨fragments, hfragments, rfl⟩ := compile_eq_ok_iff.mp h
    obtain ⟨front, behind, hfront, hbehind, rfl⟩ := expandEach_append_eq_ok_iff.mp hfragments
    obtain ⟨first, own, hfirst, hown, rfl⟩ := expandEach_append_eq_ok_iff.mp hfront
    rw [expandEach_singleton] at hown
    obtain ⟨g, less, hadmitted, hroom, hbody⟩ := admitted_of_expand_eq_ok hown
    obtain rfl : f = g := Option.some.inj (hfind.symm.trans hadmitted.registered)
    rw [hcalls] at hbody
    obtain ⟨inlined, hinlined⟩ := exists_mapM_of_expandEach_eq_ok hbody
    have hexpanded : expandEach (r.expand less ([] ++ [c.function])) inlined = .ok own := by
      rw [← expandEach_expandInner_of_mapM hinlined]
      exact hbody
    have htop : expandEach (r.expand callLimit []) inlined = .ok own :=
      expandEach_eq_ok_of_forall
        (fun d ownOf hd ↦ expand_of_subset hd (by omega) (List.nil_subset _)) hexpanded
    refine ⟨inlined, hinlined, compile_eq_ok_iff.mpr ⟨_, ?_, rfl⟩⟩
    exact expandEach_append_eq_ok_iff.mpr
      ⟨_, _, expandEach_append_eq_ok_iff.mpr ⟨_, _, hfirst, htop, rfl⟩, hbehind, rfl⟩
  · intro hdeclared inlined hinlined compiled h
    obtain ⟨fragments, hfragments, rfl⟩ := compile_eq_ok_iff.mp h
    obtain ⟨front, behind, hfront, hbehind, rfl⟩ := expandEach_append_eq_ok_iff.mp hfragments
    obtain ⟨first, own, hfirst, hown, rfl⟩ := expandEach_append_eq_ok_iff.mp hfront
    have hcall : OkOrCyclic (r.expand callLimit [] c) own := by
      have hadmitted : r.Admitted [] c f := ⟨hfind, hdeclared, List.not_mem_nil⟩
      obtain ⟨room, hroom⟩ : ∃ room, callLimit = room + 1 := ⟨callLimit - 1, rfl⟩
      rw [hroom, expand_succ_of_admitted hadmitted, hcalls]
      show OkOrCyclic (expandEach (r.expandInner room ([] ++ [c.function]) c.arguments) inner) own
      rw [expandEach_expandInner_of_mapM hinlined]
      exact expandEach_okOrCyclic_of_forall (fun d ownOf hd ↦ expand_okOrCyclic hd _ _) hown
    rcases hcall with hok | ⟨e, hfail, he⟩
    · left
      refine compile_eq_ok_iff.mpr ⟨_, ?_, rfl⟩
      refine expandEach_append_eq_ok_iff.mpr ⟨_, _, ?_, hbehind, rfl⟩
      refine expandEach_append_eq_ok_iff.mpr ⟨_, _, hfirst, ?_, rfl⟩
      rw [expandEach_singleton]
      exact hok
    · right
      refine ⟨e, compile_eq_error_iff.mpr ?_, he⟩
      rw [expandEach_append, expandEach_append, hfirst, expandEach_singleton, hfail]
      rfl

/-- A text that is printed. -/
def textParameter : Parameter := ⟨"text", true⟩

/-- A function that prints a text. -/
def noteFunction : Function := ⟨"Note", [textParameter], .code ⟨"echo \x7b\x7b $text \x7d\x7d", ""⟩⟩

/-- A call of it. -/
def noteCall (text : String) : Call := ⟨"Note", ⟨[("text", text)], by simp [entryNames]⟩, by decide⟩

/-- The calls that pass a text on, the second in brackets. -/
def passingCalls : List Call :=
  [noteCall "\x7b\x7b $text \x7d\x7d", noteCall "(\x7b\x7b $text \x7d\x7d)"]

/-- A function that passes its text on. -/
def pairFunction : Function := ⟨"Pair", [textParameter], .calls passingCalls⟩

/-- The registry of both. -/
def pairRegistry : Registry := ⟨[noteFunction, pairFunction], by decide +kernel⟩

/-- A call of the second. -/
def pairCall : Call := ⟨"Pair", ⟨[("text", "b")], by simp [entryNames]⟩, by decide⟩

/-- Between a call before and a call behind, a call gives the lines of the calls that its body makes
with the text that is passed on. -/
theorem compile_inlining_pair :
    passingCalls.mapM (fillCall pairCall.arguments) = .ok [noteCall "b", noteCall "(b)"] ∧
      (∃ inlined, passingCalls.mapM (fillCall pairCall.arguments) = .ok inlined ∧
        pairRegistry.compile ([noteCall "a"] ++ inlined ++ [noteCall "c"]) =
          .ok ⟨"echo a\necho b\necho (b)\necho c", ""⟩) ∧
      OkOrCyclic (pairRegistry.compile ([noteCall "a"] ++ [pairCall] ++ [noteCall "c"]))
        ⟨"echo a\necho b\necho (b)\necho c", ""⟩ := by
  have hfind : pairRegistry.find? pairCall.function = some pairFunction := by decide +kernel
  have hdeclared : pairFunction.Declares pairCall.arguments := by
    intro name hname
    obtain rfl : name = "text" := List.mem_singleton.mp hname
    exact List.mem_cons_self
  have hinlined : passingCalls.mapM (fillCall pairCall.arguments) =
      .ok [noteCall "b", noteCall "(b)"] := eq_ok_of_toOption (by decide +kernel)
  have horiginal : pairRegistry.compile ([noteCall "a"] ++ [pairCall] ++ [noteCall "c"]) =
      .ok ⟨"echo a\necho b\necho (b)\necho c", ""⟩ := eq_ok_of_toOption (by decide +kernel)
  have hcompiled :
      pairRegistry.compile ([noteCall "a"] ++ [noteCall "b", noteCall "(b)"] ++ [noteCall "c"]) =
        .ok ⟨"echo a\necho b\necho (b)\necho c", ""⟩ := eq_ok_of_toOption (by decide +kernel)
  obtain ⟨hinline, hcall⟩ := compile_inlining hfind rfl [noteCall "a"] [noteCall "c"]
  exact ⟨hinlined, hinline _ horiginal, hcall hdeclared _ hinlined _ hcompiled⟩

end Scriptorium.Registry
