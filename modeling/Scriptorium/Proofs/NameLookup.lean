import Scriptorium.Proofs.FunctionDefinitions

/-!
# Looking up names

A registry is asked in two ways for a name: whether it has a function of the name, and for the
function. Both look for the name in lower case and compare the spelling of what they come upon.
There is one function at most for a name in lower case, as all definitions were compared with each
other before any function was built. So the comparison is with the only function that could have
been meant, and both answers depend on the spelling alone (`contains_iff`, `get_eq_ok_iff`,
`get_eq_unknownFunction_iff`).

The functions of a registry are built from its definitions one by one, under the same names. With
this the answers are about the definitions (`IsLookup`), for definitions and for the raw values that
they are read from (`isLookup_of_definitions`).
-/

set_option autoImplicit false
set_option relaxedAutoImplicit false

namespace Scriptorium

/-- What is related to a list item by item has an item for each of it. -/
theorem exists_mem_of_forall₂ {α β : Type} {R : α → β → Prop} {as : List α} {bs : List β}
    (h : List.Forall₂ R as bs) {a : α} (ha : a ∈ as) : ∃ b ∈ bs, R a b := by
  induction h with
  | nil => cases ha
  | cons hfirst _ ih =>
    rcases List.mem_cons.mp ha with rfl | hrest
    · exact ⟨_, List.mem_cons_self, hfirst⟩
    · obtain ⟨b, hb, hR⟩ := ih hrest
      exact ⟨b, List.mem_cons_of_mem _ hb, hR⟩

namespace Registry

variable {r : Registry} {name : String} {f : Function}

/-! ### By spelling -/

/-- There is a function with a name exactly if one is found. -/
theorem contains_eq_isSome_find? (r : Registry) (name : String) :
    r.contains name = (r.find? name).isSome := by
  unfold contains find?
  cases r.functions.find? fun f ↦ f.key == Text.lowercase name.toList with
  | none => rfl
  | some f => cases hspelling : f.name == name <;> simp [hspelling]

/-- There is a function with a name exactly if one is spelled so. -/
theorem contains_iff : r.contains name = true ↔ ∃ f ∈ r.functions, f.name = name := by
  rw [contains_eq_isSome_find?, Option.isSome_iff_exists]
  exact exists_congr fun _ ↦ find?_eq_some_iff

/-- What is got under a name is the function that is spelled so. -/
theorem get_eq_ok_iff : r.get name = .ok f ↔ name ≠ "" ∧ f ∈ r.functions ∧ f.name = name := by
  rw [get, ← find?_eq_some_iff]
  split
  · rename_i hempty
    simp [hempty]
  · rename_i hsome
    cases hfind : r.find? name <;> simp [hsome]

/-- Nothing is got under a name that is not spelled so. -/
theorem get_eq_unknownFunction_iff :
    r.get name = .error (.unknownFunction name) ↔ name ≠ "" ∧ ∀ f ∈ r.functions, f.name ≠ name := by
  have hnone : r.find? name = none ↔ ∀ f ∈ r.functions, f.name ≠ name := by
    rw [Option.eq_none_iff_forall_ne_some]
    refine forall_congr' fun f ↦ ?_
    rw [ne_eq, find?_eq_some_iff, not_and]
  rw [get, ← hnone]
  split
  · rename_i hempty
    simp [hempty]
  · rename_i hsome
    cases hfind : r.find? name <;> simp [hsome]

/-! ### By definition -/

/-- How a registry answers to a name, by the definitions that it is made of. It has the name, and a
function to get, exactly if a definition has the name, and the function is the one that is built
from this definition. To every other name it says that this name is unknown, also to one that is the
name of a definition in another case. -/
structure IsLookup (r : Registry) (definitions : List Definition.Function) (name : String) :
    Prop where
  contains_iff : r.contains name = true ↔ ∃ d ∈ definitions, d.name = some name
  get_iff : (∃ f, r.get name = .ok f) ↔ ∃ d ∈ definitions, d.name = some name
  built : ∀ d ∈ definitions, d.name = some name → ∃ f, d.build = .ok f ∧ r.get name = .ok f
  unknown : name ≠ "" → (∀ d ∈ definitions, d.name ≠ some name) →
    r.get name = .error (.unknownFunction name)
  otherCase : name ≠ "" → ∀ d ∈ definitions, d.key = Text.lowercase name.toList →
    d.name ≠ some name → r.contains name = false ∧ r.get name = .error (.unknownFunction name)

open Definition in
/-- The answers of a registry are those that its definitions call for. -/
theorem isLookup_of_ofDefinitions? {definitions : List Definition.Function}
    (h : ofDefinitions? definitions = .ok r) (name : String) : r.IsLookup definitions name := by
  obtain ⟨hapart, hdescribes⟩ := ofDefinitions?_eq_ok_iff.mp h
  have hkeys : (definitions.map Definition.Function.key).Nodup :=
    List.pairwise_map.mpr (hapart.imp fun h ↦ h.key)
  have hspelled : (∃ f ∈ r.functions, f.name = name) ↔ ∃ d ∈ definitions, d.name = some name := by
    constructor
    · rintro ⟨f, hf, rfl⟩
      obtain ⟨d, hd, hdf⟩ := exists_mem_of_forall₂ hdescribes.flip hf
      exact ⟨d, hd, hdf.complete.named⟩
    · rintro ⟨d, hd, hname⟩
      obtain ⟨f, hf, hdf⟩ := exists_mem_of_forall₂ hdescribes hd
      exact ⟨f, hf, Option.some.inj (hdf.complete.named.symm.trans hname)⟩
  have hbuilt : ∀ d ∈ definitions, d.name = some name →
      ∃ f, d.build = .ok f ∧ r.get name = .ok f := by
    intro d hd hname
    obtain ⟨f, hf, hdf⟩ := exists_mem_of_forall₂ hdescribes hd
    have hown : f.name = name := Option.some.inj (hdf.complete.named.symm.trans hname)
    exact ⟨f, hdf.built, get_eq_ok_iff.mpr ⟨hown ▸ hdf.complete.name_ne, hf, hown⟩⟩
  have hunknown : name ≠ "" → (∀ d ∈ definitions, d.name ≠ some name) →
      r.get name = .error (.unknownFunction name) := by
    intro hsome hnone
    refine get_eq_unknownFunction_iff.mpr ⟨hsome, fun f hf hown ↦ ?_⟩
    obtain ⟨d, hd, hname⟩ := hspelled.mp ⟨f, hf, hown⟩
    exact hnone d hd hname
  refine ⟨contains_iff.trans hspelled, ?_, hbuilt, hunknown, ?_⟩
  · constructor
    · rintro ⟨f, hf⟩
      exact hspelled.mp ⟨f, (get_eq_ok_iff.mp hf).2⟩
    · rintro ⟨d, hd, hname⟩
      obtain ⟨f, -, hf⟩ := hbuilt d hd hname
      exact ⟨f, hf⟩
  · intro hsome d hd hkey hname
    -- a definition of this spelling would be the one that has the name in lower case
    have hnone : ∀ e ∈ definitions, e.name ≠ some name := by
      intro e he hown
      have hsame : d.key = e.key := by
        rw [hkey, Definition.Function.key, hown, Option.getD_some]
      exact hname (List.inj_on_of_nodup_map hkeys hd he hsame ▸ hown)
    refine ⟨?_, hunknown hsome hnone⟩
    rw [← Bool.not_eq_true, contains_iff, hspelled]
    rintro ⟨e, he, hown⟩
    exact hnone e he hown

/-- The answers of a registry to every name are those that its definitions call for, and those that
the raw values call for that the definitions are read from. -/
theorem isLookup_of_definitions (r : Registry) :
    (∀ definitions, ofDefinitions? definitions = .ok r → ∀ name, r.IsLookup definitions name) ∧
    ∀ values, ofValues? (some values) = .ok r →
      ∃ definitions,
        List.Forall₂ (fun v d ↦ Definition.Function.read v = .accepted d) values definitions ∧
          ∀ name, r.IsLookup definitions name := by
  refine ⟨fun definitions h name ↦ isLookup_of_ofDefinitions? h name, fun values h ↦ ?_⟩
  obtain ⟨definitions, hread, hmade⟩ := ofValues?_eq_ok_iff.mp h
  exact ⟨definitions, hread, isLookup_of_ofDefinitions? (ofDefinitions?_eq_ok_iff.mpr hmade)⟩

/-- A function with code, and one that calls it. -/
def killDefinitions : List Definition.Function :=
  [⟨some "Kill", [], some "kill -9", none, none⟩,
    ⟨some "KillAll", [], none, none, some (.one ⟨some "Kill", none⟩)⟩]

/-- The first one is got under its name, and nothing under a name that begins with a Kelvin sign,
which is the same letter in lower case. -/
theorem isLookup_of_definitions_kill :
    ∃ r, ofDefinitions? killDefinitions = .ok r ∧ r.contains "Kill" = true ∧
      r.get "Kill" = .ok ⟨"Kill", [], .code ⟨"kill -9", ""⟩⟩ ∧
      Text.lowercase "\u212aill".toList = Text.lowercase "Kill".toList ∧
      r.contains "\u212aill" = false ∧
      r.get "\u212aill" = .error (.unknownFunction "\u212aill") := by
  have hsize : (ofDefinitions? killDefinitions).toOption.map size = some 2 := by decide +kernel
  obtain ⟨r, hr, -⟩ := exists_eq_ok_of_map_toOption hsize
  have hlower : Text.lowercase "\u212aill".toList = Text.lowercase "Kill".toList := by
    decide +kernel
  obtain ⟨hlookup, -⟩ := isLookup_of_definitions r
  have hfirst : ⟨some "Kill", [], some "kill -9", none, none⟩ ∈ killDefinitions :=
    List.mem_cons_self
  obtain ⟨f, hbuilt, hget⟩ := (hlookup _ hr "Kill").built _ hfirst rfl
  obtain rfl := Except.ok.inj hbuilt
  obtain ⟨habsent, hunknown⟩ :=
    (hlookup _ hr "\u212aill").otherCase (by decide) _ hfirst hlower.symm (by decide)
  exact ⟨r, hr, (hlookup _ hr "Kill").contains_iff.mpr ⟨_, hfirst, rfl⟩, hget, hlower, habsent,
    hunknown⟩

end Registry

end Scriptorium
