import Scriptorium.Error

/-!
# Arguments

The arguments of a call: names with their texts, in the order in which they were given, no name
twice. Two collections of arguments are the same if they give every name the same text, whatever the
order.
-/

set_option autoImplicit false
set_option relaxedAutoImplicit false

namespace Scriptorium

/-- The names of entries, in order. -/
def entryNames {α : Type} (entries : List (String × α)) : List String := entries.map (·.1)

/-- Sets what a name has, in its place if the name is there and at the end if it is not. -/
def setEntry {α : Type} (entries : List (String × α)) (name : String) (new : α) :
    List (String × α) :=
  match entries with
  | [] => [(name, new)]
  | (n, old) :: rest => if n = name then (name, new) :: rest else (n, old) :: setEntry rest name new

theorem entryNames_setEntry {α : Type} (entries : List (String × α)) (name : String) (new : α) :
    entryNames (setEntry entries name new)
      = if name ∈ entryNames entries then entryNames entries else entryNames entries ++ [name] := by
  induction entries with
  | nil => simp [setEntry, entryNames]
  | cons entry rest ih =>
    obtain ⟨n, t⟩ := entry
    by_cases h : n = name
    · simp [setEntry, entryNames, h]
    · have h' : name ≠ n := fun e ↦ h e.symm
      simp only [entryNames] at ih
      by_cases hm : name ∈ rest.map (·.1) <;> simp [setEntry, entryNames, h, h', ih, hm]

/-- What a name has after it was set, and what the others have. -/
theorem lookup_setEntry {α : Type} (entries : List (String × α)) (name : String) (new : α)
    (other : String) :
    (setEntry entries name new).lookup other =
      if other = name then some new else entries.lookup other := by
  induction entries with
  | nil =>
    rw [setEntry, List.lookup_cons]
    by_cases hname : other = name
    · simp [hname]
    · simp [hname, beq_eq_false_iff_ne.mpr hname]
  | cons entry rest ih =>
    obtain ⟨n, old⟩ := entry
    rw [setEntry]
    split
    · rename_i hn
      subst hn
      by_cases hname : other = n
      · simp [hname]
      · simp [List.lookup_cons, hname, beq_eq_false_iff_ne.mpr hname]
    · rename_i hn
      rw [List.lookup_cons, List.lookup_cons, ih]
      by_cases hother : other = n
      · simp [hother, hn]
      · simp [beq_eq_false_iff_ne.mpr hother]

theorem nodup_setEntry {α : Type} {entries : List (String × α)} (h : (entryNames entries).Nodup)
    (name : String) (new : α) : (entryNames (setEntry entries name new)).Nodup := by
  rw [entryNames_setEntry]
  split
  · exact h
  · rename_i hm
    refine List.nodup_append.2 ⟨h, by simp, ?_⟩
    intro a ha b hb
    rw [List.mem_singleton.1 hb]
    exact fun e ↦ hm (e ▸ ha)

/-- Setting a name that is new puts it at the end. -/
theorem setEntry_of_not_mem {α : Type} {entries : List (String × α)} {name : String}
    (h : name ∉ entryNames entries) (new : α) :
    setEntry entries name new = entries ++ [(name, new)] := by
  induction entries with
  | nil => rfl
  | cons entry rest ih =>
    rw [entryNames, List.map_cons, List.mem_cons, not_or] at h
    rw [setEntry, if_neg (Ne.symm h.1), ih h.2, List.cons_append]

/-- The arguments of a call. -/
structure Arguments where
  entries : List (String × String)
  nodup : (entryNames entries).Nodup := by decide
  deriving DecidableEq

namespace Arguments

/-- No arguments. -/
def empty : Arguments := ⟨[], by simp [entryNames]⟩

/-- The names of the arguments, in order. -/
def names (a : Arguments) : List String := entryNames a.entries

/-- The text of an argument. -/
def get? (a : Arguments) (name : String) : Option String := a.entries.lookup name

/-- Sets the text of an argument. -/
def set (a : Arguments) (name text : String) : Arguments :=
  ⟨setEntry a.entries name text, nodup_setEntry a.nodup name text⟩

/-- The arguments that raw entries give after those already there. Every name has to be a text that
is not empty, and every value has to be there and to have a text. -/
def addValues (a : Arguments) : List (Value × Value) → Except Error Arguments
  | [] => .ok a
  | (key, value) :: rest =>
    match key with
    | .text name =>
      if name = "" then .error (.argument .unnamedArgument)
      else
        match value with
        | .null => .error (.argument (.noValue name))
        | value =>
          if value.isWritable then (a.set name value.argumentText).addValues rest
          else .error (.operation .badValue)
    | _ => .error (.argument .unnamedArgument)

/-- The arguments that raw entries give. -/
def ofValues? (entries : List (Value × Value)) : Except Error Arguments := empty.addValues entries

/-- Applies a function that can fail to every text, first to last. -/
def mapEntriesM {ε : Type} (f : String → Except ε String) :
    List (String × String) → Except ε (List (String × String))
  | [] => .ok []
  | (name, text) :: rest => do
    let new ← f text
    let others ← mapEntriesM f rest
    return (name, new) :: others

theorem entryNames_mapEntriesM {ε : Type} {f : String → Except ε String}
    {entries new : List (String × String)}
    (h : mapEntriesM f entries = .ok new) : entryNames new = entryNames entries := by
  induction entries generalizing new with
  | nil => simp only [mapEntriesM, Except.ok.injEq] at h; simp [← h]
  | cons entry rest ih =>
    obtain ⟨n, t⟩ := entry
    simp only [mapEntriesM, bind, Except.bind] at h
    split at h
    · cases h
    · split at h
      · cases h
      · rename_i others ho
        simp only [pure, Except.pure, Except.ok.injEq] at h
        have := ih ho
        simp only [entryNames] at this
        simp [← h, entryNames, this]

/-- The arguments with a function that can fail applied to every text. -/
def mapM {ε : Type} (a : Arguments) (f : String → Except ε String) : Except ε Arguments :=
  match h : mapEntriesM f a.entries with
  | .ok entries => .ok ⟨entries, by rw [entryNames_mapEntriesM h]; exact a.nodup⟩
  | .error e => .error e

/-- Whether two collections of arguments give every name the same text. -/
def same (a b : Arguments) : Bool :=
  a.entries.length == b.entries.length && a.entries.all fun (name, text) ↦ b.get? name == some text

/-- Whether two collections of arguments hash alike. The hash is that of the sequence of entries. -/
def hashAlike (a b : Arguments) : Bool := a.entries == b.entries

/-- How a collection of arguments is shown. -/
def shown (a : Arguments) : String :=
  "FunctionCallArgumentCollection("
    ++ (Value.map (a.entries.map fun (name, text) ↦ (.text name, .text text))).shown ++ ")"

end Arguments

end Scriptorium
