import Mathlib.Data.List.Perm.Basic
import Scriptorium.Proofs.CallGraph
import Scriptorium.Proofs.FunctionDefinitions

/-!
# The order of definitions

In which order functions are defined makes no difference, nor do functions that nothing calls. What
a list of definitions has to be is said of its members and of pairs of them, in both orders alike
(`ofValues?_eq_ok_iff`). So a list in another order makes a registry too, of the same functions in
another order (`exists_perm_of_ofValues?`), and a list cut in two makes two, whose functions are
those of the whole (`exists_append_of_ofValues?`).

A registry is only ever asked for the function of a name. Registries with the same functions give
the same answers (`find?_eq_of_mem_iff`), and so they compile alike. With further functions the
answers stay the same for the names that are called (`IsCalled`), by the sequence or by a function
that was there before; no other name is reached.
-/

set_option autoImplicit false
set_option relaxedAutoImplicit false

namespace Scriptorium.Registry

variable {r s : Registry} {values others added : List Value} {calls : List Call}

/-! ### Lists of definitions -/

/-- What is related to two lists one after the other is two lists one after the other. -/
theorem exists_append_of_forall₂ {α β : Type} {R : α → β → Prop} {first second : List α}
    {all : List β} (h : List.Forall₂ R (first ++ second) all) :
    ∃ before after, List.Forall₂ R first before ∧ List.Forall₂ R second after ∧
      all = before ++ after := by
  induction first generalizing all with
  | nil => exact ⟨[], all, .nil, h, rfl⟩
  | cons a rest ih =>
    obtain ⟨b, others, hb, hothers, rfl⟩ := List.forall₂_cons_left_iff.mp h
    obtain ⟨before, after, hbefore, hafter, rfl⟩ := ih hothers
    exact ⟨b :: before, after, .cons hb hbefore, hafter, rfl⟩

/-- Definitions in another order make a registry of the same functions in another order. -/
theorem exists_perm_of_ofValues? (hperm : others.Perm values)
    (h : ofValues? (some values) = .ok r) :
    ∃ s, ofValues? (some others) = .ok s ∧ s.functions.Perm r.functions := by
  obtain ⟨definitions, hread, hapart, hdescribes⟩ := ofValues?_eq_ok_iff.mp h
  obtain ⟨ordered, hordered, hdefinitions⟩ := List.perm_comp_forall₂ hperm hread
  obtain ⟨functions, hfunctions, hsame⟩ := List.perm_comp_forall₂ hdefinitions hdescribes
  let s : Registry := ⟨functions, (hsame.map Function.key).nodup_iff.mpr r.distinct⟩
  refine ⟨s, ofValues?_eq_ok_iff.mpr ⟨ordered, hordered, ?_, hfunctions⟩, hsame⟩
  exact (hdefinitions.pairwise_iff fun hxy ↦ hxy.symm).mpr hapart

/-- Of definitions that make a registry the first ones make one, and so do the others. -/
theorem exists_append_of_ofValues? (h : ofValues? (some (values ++ added)) = .ok s) :
    ∃ r t, ofValues? (some values) = .ok r ∧ ofValues? (some added) = .ok t ∧
      s.functions = r.functions ++ t.functions := by
  obtain ⟨definitions, hread, hapart, hdescribes⟩ := ofValues?_eq_ok_iff.mp h
  obtain ⟨first, second, hfirst, hsecond, rfl⟩ := exists_append_of_forall₂ hread
  obtain ⟨before, after, hbefore, hafter, hfunctions⟩ := exists_append_of_forall₂ hdescribes
  obtain ⟨hapartFirst, hapartSecond, -⟩ := List.pairwise_append.mp hapart
  have hdistinct := s.distinct
  rw [hfunctions, List.map_append] at hdistinct
  let r : Registry := ⟨before, hdistinct.of_append_left⟩
  let t : Registry := ⟨after, hdistinct.of_append_right⟩
  exact ⟨r, t, ofValues?_eq_ok_iff.mpr ⟨first, hfirst, hapartFirst, hbefore⟩,
    ofValues?_eq_ok_iff.mpr ⟨second, hsecond, hapartSecond, hafter⟩, hfunctions⟩

/-! ### What is looked up -/

/-- Registries that hold the same functions of a name find the same one. -/
theorem find?_eq_of_mem_iff {name : String}
    (h : ∀ f, f.name = name → (f ∈ s.functions ↔ f ∈ r.functions)) :
    s.find? name = r.find? name := by
  refine Option.ext fun f ↦ ?_
  rw [find?_eq_some_iff, find?_eq_some_iff]
  exact and_congr_left (h f)

/-- Whether a name is called, by one of `calls` or in the body of a function of a registry. -/
def IsCalled (r : Registry) (calls : List Call) (name : String) : Prop :=
  (∃ c ∈ calls, c.function = name) ∨
    ∃ f ∈ r.functions, ∃ inner ∈ f.innerCalls, inner.function = name

/-- A name that is reached is called. -/
theorem isCalled_of_reaches {name : String} (h : r.Reaches calls name) :
    r.IsCalled calls name := by
  obtain ⟨names, hpath⟩ := h
  cases hpath with
  | top hc => exact Or.inl ⟨_, hc, rfl⟩
  | step _ hcalls =>
    obtain ⟨f, hfind, inner, hinner, hname⟩ := hcalls
    exact Or.inr ⟨f, (find?_eq_some_iff.mp hfind).1, inner, hinner, hname⟩

/-- Registries of the same functions in any order compile alike. -/
theorem compile_eq_of_perm (h : s.functions.Perm r.functions) (calls : List Call) :
    s.compile calls = r.compile calls :=
  compile_congr_of_reaches fun _ _ ↦ find?_eq_of_mem_iff fun _ _ ↦ h.mem_iff

/-! ### Order and additions -/

/-- Definitions of functions can stand in any order, and further ones do not matter. A list in
another order makes a registry exactly if the list does, and both compile every sequence of calls
alike, to the same code or with the same error. If definitions are added anywhere and the list still
makes a registry, so did it without them, and the added ones by themselves; and it compiles alike
every sequence of calls such that no added name is called by the sequence or by a function that was
there before. -/
theorem compile_definitions (values : List Value) :
    (∀ others : List Value, others.Perm values →
      ((∃ r, ofValues? (some values) = .ok r) ↔ ∃ s, ofValues? (some others) = .ok s) ∧
      ∀ r s, ofValues? (some values) = .ok r → ofValues? (some others) = .ok s →
        ∀ calls, s.compile calls = r.compile calls) ∧
    ∀ added all : List Value, all.Perm (values ++ added) →
      ∀ s, ofValues? (some all) = .ok s →
        ∃ r t, ofValues? (some values) = .ok r ∧ ofValues? (some added) = .ok t ∧
          ∀ calls, (∀ f ∈ t.functions, ¬ r.IsCalled calls f.name) →
            s.compile calls = r.compile calls := by
  constructor
  · intro others hperm
    constructor
    · constructor
      · rintro ⟨r, hr⟩
        obtain ⟨s, hs, -⟩ := exists_perm_of_ofValues? hperm hr
        exact ⟨s, hs⟩
      · rintro ⟨s, hs⟩
        obtain ⟨r, hr, -⟩ := exists_perm_of_ofValues? hperm.symm hs
        exact ⟨r, hr⟩
    · intro r s hr hs calls
      obtain ⟨other, hother, hsame⟩ := exists_perm_of_ofValues? hperm hr
      obtain rfl := Except.ok.inj (hs.symm.trans hother)
      exact compile_eq_of_perm hsame calls
  · intro added all hperm s hs
    obtain ⟨whole, hwhole, hsame⟩ := exists_perm_of_ofValues? hperm.symm hs
    obtain ⟨r, t, hr, ht, hfunctions⟩ := exists_append_of_ofValues? hwhole
    refine ⟨r, t, hr, ht, fun calls hadded ↦ ?_⟩
    rw [← compile_eq_of_perm hsame]
    refine compile_congr_of_reaches fun name hreached ↦ find?_eq_of_mem_iff fun f hname ↦ ?_
    -- an added function of this name would be called
    have hnot : f ∉ t.functions := fun hf ↦
      hadded f hf (hname ▸ isCalled_of_reaches hreached)
    rw [hfunctions, List.mem_append, or_iff_left hnot]

end Scriptorium.Registry
