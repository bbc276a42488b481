import Mathlib.Data.List.Perm.Subperm
import Scriptorium.Proofs.AcceptedFunctions

/-!
# Arguments that are the same

When two collections of arguments are the same, and when they hash alike. Being the same is being
the same finite map: the collections give every name the same text (`same_iff_get?`), or have the
same entries in some order (`same_iff_perm`). It is an equivalence relation, and for collections
that raw mappings are read into it is that of the mappings (`same_iff_gives`).

The hash is that of the sequence of entries, so it tells collections apart that are the same but
were given in another order (`hashAlike_iff_of_same`). A set of calls finds a call only under its
hash; `Call.isAmong_congr_iff` says which calls it takes for each other. `same_hash_iff` is the
whole: collections that are the same hash alike exactly if their names were given in one order, and
only the collections of at most one argument hash like all that are the same
(`hashAlike_of_length_le_one`, `exists_same_of_two_le_length`).
-/

set_option autoImplicit false
set_option relaxedAutoImplicit false

namespace Scriptorium

namespace Arguments

variable {a b : Arguments}

/-! ### The same finite map -/

theorem nodup_entries (a : Arguments) : a.entries.Nodup := List.Nodup.of_map _ a.nodup

/-- The entries are the names with the texts that they have. -/
theorem get?_eq_some_iff {name text : String} :
    a.get? name = some text ↔ (name, text) ∈ a.entries := by
  obtain ⟨entries, hnodup⟩ := a
  unfold get?
  dsimp only
  induction entries with
  | nil => simp
  | cons entry rest ih =>
    obtain ⟨own, value⟩ := entry
    obtain ⟨hnew, hrest⟩ := List.nodup_cons.mp hnodup
    rw [List.lookup_cons]
    by_cases hname : name = own
    · subst hname
      -- the name is not among the others
      have hout : (name, text) ∉ rest := fun hmem ↦ hnew (List.mem_map.mpr ⟨_, hmem, rfl⟩)
      simp [hout, eq_comm]
    · simp [hname, ih hrest, beq_false_of_ne hname]

/-- Each entry is its name with what the name has. -/
theorem entries_eq_map_names (a : Arguments) :
    a.entries = a.names.map fun name ↦ (name, (a.get? name).getD "") := by
  rw [names, entryNames, List.map_map]
  refine (List.map_id _).symm.trans (List.map_congr_left ?_)
  rintro ⟨name, text⟩ hentry
  simp [get?_eq_some_iff.mpr hentry]

theorem same_iff_perm : a.same b = true ↔ a.entries.Perm b.entries := by
  have hsame : a.same b = true ↔
      a.entries.length = b.entries.length ∧ ∀ entry ∈ a.entries, entry ∈ b.entries := by
    rw [same, Bool.and_eq_true, beq_iff_eq, List.all_eq_true]
    refine and_congr_right fun _ ↦ forall₂_congr fun entry _ ↦ ?_
    rw [beq_iff_eq, get?_eq_some_iff]
  rw [hsame]
  constructor
  · rintro ⟨hlength, hsubset⟩
    exact (List.subperm_of_subset a.nodup_entries hsubset).perm_of_length_le hlength.ge
  · intro hperm
    exact ⟨hperm.length_eq, fun entry hentry ↦ hperm.mem_iff.mp hentry⟩

theorem same_iff_get? : a.same b = true ↔ ∀ name, a.get? name = b.get? name := by
  rw [same_iff_perm, List.perm_ext_iff_of_nodup a.nodup_entries b.nodup_entries]
  constructor
  · intro h name
    refine Option.ext fun text ↦ ?_
    rw [get?_eq_some_iff, get?_eq_some_iff, h]
  · rintro h ⟨name, text⟩
    rw [← get?_eq_some_iff, h, get?_eq_some_iff]

theorem equivalence_same : Equivalence fun a b : Arguments ↦ a.same b = true := by
  simp only [same_iff_perm]
  exact ⟨fun _ ↦ .refl _, .symm, .trans⟩

/-! ### The same hash -/

theorem hashAlike_iff : a.hashAlike b = true ↔ a = b := by
  obtain ⟨entries, hnodup⟩ := a
  obtain ⟨others, hothers⟩ := b
  simp [hashAlike]

/-- Collections that are the same hash alike exactly if they have their names in the same order. -/
theorem hashAlike_iff_of_same (h : a.same b = true) :
    a.hashAlike b = true ↔ a.names = b.names := by
  rw [hashAlike_iff]
  refine ⟨congrArg names, fun hnames ↦ ?_⟩
  have hsame : a.entries = b.entries := by
    rw [entries_eq_map_names a, entries_eq_map_names b, hnames]
    simp only [same_iff_get?.mp h]
  obtain ⟨entries, hnodup⟩ := a
  obtain ⟨others, hothers⟩ := b
  obtain rfl : entries = others := hsame
  rfl

/-- Few arguments have only one order. -/
theorem hashAlike_of_length_le_one (hlength : a.entries.length ≤ 1) (h : a.same b = true) :
    a.hashAlike b = true := by
  have hperm := same_iff_perm.mp h
  rw [hashAlike_iff_of_same h, names, names, entryNames, entryNames]
  match hentries : a.entries with
  | [] =>
    rw [hentries] at hperm
    rw [hperm.symm.eq_nil]
  | [entry] =>
    rw [hentries] at hperm
    rw [hperm.symm.eq_singleton]
  | _ :: _ :: _ => simp [hentries] at hlength

/-- More arguments have another one. -/
theorem exists_same_of_two_le_length (hlength : 2 ≤ a.entries.length) :
    ∃ other : Arguments, a.same other = true ∧ a.hashAlike other = false := by
  match hentries : a.entries with
  | [] => simp [hentries] at hlength
  | [entry] => simp [hentries] at hlength
  | first :: second :: rest =>
    have hswap : (first :: second :: rest).Perm (second :: first :: rest) := .swap _ _ _
    have hnodup : (entryNames (second :: first :: rest)).Nodup := by
      have hown := a.nodup
      rw [hentries] at hown
      exact (hswap.map Prod.fst).nodup_iff.mp hown
    refine ⟨⟨_, hnodup⟩, same_iff_perm.mpr (hentries ▸ hswap), ?_⟩
    rw [← Bool.not_eq_true, hashAlike_iff]
    intro heq
    have hfirst : first = second := by
      have hsame := congrArg entries heq
      rw [hentries] at hsame
      exact (List.cons.inj hsame).1
    simp [hfirst, entryNames] at hnodup

/-! ### What is read from mappings -/

/-- Whether a raw mapping gives a name a text. -/
def Gives (m : List (Value × Value)) (name text : String) : Prop :=
  ∃ value, (.text name, value) ∈ m ∧ value.argumentText = text

/-- The names of a mapping that arguments are read from are texts. -/
theorem exists_names_of_addValues {m : List (Value × Value)} (h : a.addValues m = .ok b) :
    ∃ entries : List (String × Value), m = entries.map fun (name, value) ↦ (.text name, value) := by
  induction m generalizing a with
  | nil => exact ⟨[], rfl⟩
  | cons entry rest ih =>
    obtain ⟨key, value⟩ := entry
    cases key with
    | text name =>
      obtain ⟨-, hrest⟩ := addValues_cons_eq_ok_iff.mp h
      obtain ⟨entries, rfl⟩ := ih hrest
      exact ⟨(name, value) :: entries, rfl⟩
    | _ => simp [addValues] at h

/-- Arguments have the entries of the mapping that they are read from, in its order. -/
theorem exists_entries_of_ofValues? {m : List (Value × Value)} (hdistinct : (m.map Prod.fst).Nodup)
    (h : ofValues? m = .ok a) :
    ∃ entries : List (String × Value), m = entries.map (fun (name, value) ↦ (.text name, value)) ∧
      a.entries = entries.map fun entry ↦ (entry.1, entry.2.argumentText) := by
  obtain ⟨entries, rfl⟩ := exists_names_of_addValues h
  have hnodup : (entryNames entries).Nodup := by
    rw [List.map_map] at hdistinct
    refine List.Nodup.of_map Value.text ?_
    rw [entryNames, List.map_map]
    exact hdistinct
  exact ⟨entries, rfl, ((ofValues?_eq_ok_iff hnodup).mp h).2⟩

/-- Arguments give the texts that the mapping gives that they are read from. -/
theorem get?_eq_some_iff_gives {m : List (Value × Value)} (hdistinct : (m.map Prod.fst).Nodup)
    (h : ofValues? m = .ok a) {name text : String} :
    a.get? name = some text ↔ Gives m name text := by
  obtain ⟨entries, rfl, hentries⟩ := exists_entries_of_ofValues? hdistinct h
  rw [get?_eq_some_iff, hentries]
  simp [Gives]

/-- Arguments have the names of the mapping that they are read from, in its order. -/
theorem map_names_of_ofValues? {m : List (Value × Value)} (hdistinct : (m.map Prod.fst).Nodup)
    (h : ofValues? m = .ok a) : a.names.map Value.text = m.map Prod.fst := by
  obtain ⟨entries, rfl, hentries⟩ := exists_entries_of_ofValues? hdistinct h
  rw [names, hentries, entryNames, List.map_map, List.map_map, List.map_map]
  rfl

end Arguments

/-! ### Calls in sets -/

namespace Call

/-- Whether two calls are of one function with the same arguments. -/
def same (c d : Call) : Bool := c.function == d.function && c.arguments.same d.arguments

/-- Whether two calls hash alike. The hash is that of the name with the hash of the arguments. -/
def hashAlike (c d : Call) : Bool := c.function == d.function && c.arguments.hashAlike d.arguments

/-- Whether a call is found in a set of calls: under its hash, one that is the same. -/
def isAmong (c : Call) (stored : List Call) : Bool :=
  stored.any fun d ↦ c.hashAlike d && c.same d

variable {c d : Call}

theorem hashAlike_iff : c.hashAlike d = true ↔ c = d := by
  obtain ⟨function, arguments, named⟩ := c
  obtain ⟨function', arguments', named'⟩ := d
  simp [hashAlike, Arguments.hashAlike_iff]

theorem same_self (c : Call) : c.same c = true := by
  simp [same, Arguments.equivalence_same.refl c.arguments]

/-- As calls that hash alike have the same entries in one order, only the call itself is found. -/
theorem isAmong_iff {stored : List Call} : c.isAmong stored = true ↔ c ∈ stored := by
  rw [isAmong, List.any_eq_true]
  constructor
  · rintro ⟨d, hd, hfound⟩
    rw [Bool.and_eq_true, hashAlike_iff] at hfound
    exact hfound.1 ▸ hd
  · intro hc
    exact ⟨c, hc, by rw [hashAlike_iff.mpr rfl, same_self, Bool.and_self]⟩

/-- Calls are found in the same sets exactly if they hash alike. -/
theorem isAmong_congr_iff :
    (∀ stored, c.isAmong stored = d.isAmong stored) ↔ c.hashAlike d = true := by
  rw [hashAlike_iff]
  constructor
  · intro h
    have hown : c.isAmong [d] = true := by
      rw [h [d], isAmong_iff]
      exact List.mem_cons_self
    exact List.mem_singleton.mp (isAmong_iff.mp hown)
  · rintro rfl stored
    rfl

end Call

namespace Arguments

variable {a b : Arguments}

/-- When arguments that are read from two mappings are the same, and when they hash alike. They are
the same if the mappings give the same names the same texts, an equivalence relation. Those that are
the same hash alike exactly if the mappings have their names in the same order, and exactly then are
calls with them found in the same sets. Only arguments that are at most one hash like all that are
the same. -/
theorem same_hash_iff {m n : List (Value × Value)} (hm : (m.map Prod.fst).Nodup)
    (hn : (n.map Prod.fst).Nodup) (ha : ofValues? m = .ok a) (hb : ofValues? n = .ok b) :
    (a.same b = true ↔ ∀ name text, Gives m name text ↔ Gives n name text) ∧
      (Equivalence fun c d : Arguments ↦ c.same d = true) ∧
      (a.same b = true →
        (a.hashAlike b = true ↔ m.map Prod.fst = n.map Prod.fst) ∧
          ∀ (function : String) (named : function ≠ ""),
            Call.same ⟨function, a, named⟩ ⟨function, b, named⟩ = true ∧
              ((∀ stored, Call.isAmong ⟨function, a, named⟩ stored =
                  Call.isAmong ⟨function, b, named⟩ stored) ↔
                m.map Prod.fst = n.map Prod.fst)) ∧
      ((∀ other : Arguments, a.same other = true → a.hashAlike other = true) ↔ m.length ≤ 1) := by
  have hhash : a.same b = true → (a.hashAlike b = true ↔ m.map Prod.fst = n.map Prod.fst) := by
    intro hsame
    rw [hashAlike_iff_of_same hsame, ← map_names_of_ofValues? hm ha, ← map_names_of_ofValues? hn hb]
    exact (List.map_injective_iff.mpr fun _ _ ↦ Value.text.inj).eq_iff.symm
  refine ⟨?_, equivalence_same, fun hsame ↦ ⟨hhash hsame, fun function named ↦ ⟨?_, ?_⟩⟩, ?_⟩
  · rw [same_iff_get?]
    refine forall_congr' fun name ↦ ?_
    rw [Option.ext_iff]
    simp only [get?_eq_some_iff_gives hm ha, get?_eq_some_iff_gives hn hb]
  · simp [Call.same, hsame]
  · rw [Call.isAmong_congr_iff, ← hhash hsame]
    simp [Call.hashAlike]
  · have hlength : m.length = a.entries.length := by
      simpa [names, entryNames] using congrArg List.length (map_names_of_ofValues? hm ha).symm
    rw [hlength]
    constructor
    · intro hall
      by_contra hmany
      obtain ⟨other, hsame, hdiffers⟩ := exists_same_of_two_le_length (a := a) (by omega)
      cases (hall other hsame).symm.trans hdiffers
    · intro hfew other hsame
      exact hashAlike_of_length_le_one hfew hsame

/-- Two arguments. -/
def ownerFirst : Arguments := ⟨[("owner", "root"), ("mode", "644")], by decide⟩

/-- The same arguments in the other order. -/
def modeFirst : Arguments := ⟨[("mode", "644"), ("owner", "root")], by decide⟩

/-- Two mappings that give the same texts in different orders, one of them by a number. -/
theorem same_hash_iff_ownerFirst :
    ofValues? [(.text "owner", .text "root"), (.text "mode", .int 644)] = .ok ownerFirst ∧
      ofValues? [(.text "mode", .text "644"), (.text "owner", .text "root")] = .ok modeFirst ∧
      ownerFirst.same modeFirst = true ∧ modeFirst.same ownerFirst = true ∧
      ownerFirst.hashAlike modeFirst = false ∧
      ¬ ∀ other : Arguments, ownerFirst.same other = true → ownerFirst.hashAlike other = true := by
  have ha : ofValues? [(.text "owner", .text "root"), (.text "mode", .int 644)] =
      .ok ownerFirst := eq_ok_of_toOption (by decide +kernel)
  have hb : ofValues? [(.text "mode", .text "644"), (.text "owner", .text "root")] =
      .ok modeFirst := eq_ok_of_toOption (by decide +kernel)
  have hnumber : Value.argumentText (.int 644) = Value.argumentText (.text "644") := by
    decide +kernel
  obtain ⟨hsame, hequivalence, hhash, hfew⟩ := same_hash_iff (by simp) (by simp) ha hb
  have hown : ownerFirst.same modeFirst = true := by
    refine hsame.mpr fun name text ↦ ?_
    simp [Gives, or_and_right, exists_or, hnumber, or_comm]
  refine ⟨ha, hb, hown, hequivalence.symm hown, ?_, fun hall ↦ ?_⟩
  · rw [← Bool.not_eq_true, (hhash hown).1]
    simp
  · exact absurd (hfew.mp hall) (by simp)

/-- Calls with the same arguments in different orders are the same, and a set that has the one does
not find the other. -/
theorem isAmong_of_reordered :
    ownerFirst.same modeFirst = true ∧ ownerFirst.hashAlike modeFirst = false ∧
      Call.same ⟨"chown", ownerFirst, by decide⟩ ⟨"chown", modeFirst, by decide⟩ = true ∧
      Call.isAmong ⟨"chown", ownerFirst, by decide⟩ [⟨"chown", modeFirst, by decide⟩] = false := by
  decide

end Arguments

end Scriptorium
