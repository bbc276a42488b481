import Scriptorium.Function

/-!
# Registries

A registry holds shared functions whose names differ in more than case. A function is found under
exactly its own name: the search goes by the name without regard to case and then compares the
spelling.
-/

set_option autoImplicit false
set_option relaxedAutoImplicit false

namespace Scriptorium

/-- Shared functions, in order, no two with names that differ only in case. -/
structure Registry where
  functions : List Function
  distinct : (functions.map Function.key).Nodup := by decide

namespace Registry

/-- The registry without functions. -/
def empty : Registry := ⟨[], by simp⟩

/-- The first function whose key one of the keys or an earlier function has. -/
def firstRepeated? (keys : List (List Char)) : List Function → Option Function
  | [] => none
  | f :: rest => if f.key ∈ keys then some f else firstRepeated? (f.key :: keys) rest

theorem nodup_of_firstRepeated? {keys : List (List Char)} {functions : List Function}
    (h : firstRepeated? keys functions = none) :
    (functions.map Function.key).Nodup ∧ ∀ f ∈ functions, f.key ∉ keys := by
  induction functions generalizing keys with
  | nil => simp
  | cons f rest ih =>
    simp only [firstRepeated?] at h
    split at h
    · cases h
    · rename_i hf
      obtain ⟨hn, hk⟩ := ih h
      refine ⟨?_, ?_⟩
      · rw [List.map_cons, List.nodup_cons]
        refine ⟨?_, hn⟩
        intro hm
        obtain ⟨g, hg, hgf⟩ := List.mem_map.1 hm
        exact hk g hg (hgf ▸ List.mem_cons_self)
      · intro g hg
        rcases List.mem_cons.1 hg with rfl | hg
        · exact hf
        · exact fun hm ↦ hk g hg (List.mem_cons_of_mem _ hm)

/-- The registry of functions, unless two of them have names that differ at most in case. -/
def ofFunctions? (functions : List Function) : Except Error Registry :=
  match h : firstRepeated? [] functions with
  | some f => .error (.repeatedFunction f.name)
  | none => .ok ⟨functions, (nodup_of_firstRepeated? h).1⟩

/-- The function with a name. -/
def find? (r : Registry) (name : String) : Option Function :=
  (r.functions.find? fun f ↦ f.key == Text.lowercase name.toList).filter (·.name == name)

/-- Whether there is a function with a name. -/
def contains (r : Registry) (name : String) : Bool :=
  match r.functions.find? fun f ↦ f.key == Text.lowercase name.toList with
  | some f => f.name == name
  | none => false

/-- The function with a name, which must not be empty. -/
def get (r : Registry) (name : String) : Except Error Function :=
  if name = "" then .error (.argument .emptyFunctionName)
  else match r.find? name with
    | some f => .ok f
    | none => .error (.unknownFunction name)

/-- The function that a raw value names. What counts as nothing is no name, and all else that is no
text cannot be looked for. -/
def getNamed (r : Registry) : Value → Except Error Function
  | .text name => r.get name
  | v => .error (if v.isNothing then .argument .emptyFunctionName else .operation .noMember)

/-- The number of functions. -/
def size (r : Registry) : Nat := r.functions.length

end Registry

end Scriptorium
