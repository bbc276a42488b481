import Mathlib.Data.List.Forall2
import Mathlib.Data.List.Nodup
import Scriptorium.Expansion

/-!
# One step of expanding a call

`Registry.expand` checks a call, enters its function and goes on with the body. This module says
once what such a step can do, so that no later proof opens the definition. A call passes its checks
on a path of open functions if it is `Admitted` there: its name is registered, its arguments are
declared and the function is not open already. `expand_succ_of_admitted` is the step of an admitted
call, `admitted_of_expand_eq_ok` its inversion, and `expand_cases` lists the ways in which the
expansion of a call begins.

Names are looked up by exact spelling (`find?_eq_some_iff`). A sequence of calls is expanded piece
by piece (`expandEach_append`), it succeeds only if every call of it does
(`exists_of_expandEach_eq_ok`), and its failure is the failure of one of them
(`exists_of_expandEach_eq_error`).
-/

set_option autoImplicit false
set_option relaxedAutoImplicit false

namespace Scriptorium

section Bind

variable {ε α β : Type} {x : Except ε α} {next : α → Except ε β}

/-- A step with a next one succeeds exactly if both do. -/
theorem bind_eq_ok_iff {b : β} : (x >>= next) = .ok b ↔ ∃ a, x = .ok a ∧ next a = .ok b := by
  cases x <;> simp [bind, Except.bind]

/-- A step with a next one fails exactly if it does, or if it succeeds and the next one fails. -/
theorem bind_eq_error_iff {e : ε} :
    (x >>= next) = .error e ↔ x = .error e ∨ ∃ a, x = .ok a ∧ next a = .error e := by
  cases x <;> simp [bind, Except.bind]

/-- Steps that are made for the items of a list in turn succeed exactly if each does, and give the
results in order. -/
theorem sequence_eq_ok_iff (step : α → Except ε β) (run : List α → Except ε (List β))
    (hnil : run [] = .ok [])
    (hcons : ∀ a rest, run (a :: rest) = step a >>= fun b ↦ run rest >>= fun bs ↦ .ok (b :: bs))
    {as : List α} {bs : List β} :
    run as = .ok bs ↔ List.Forall₂ (fun a b ↦ step a = .ok b) as bs := by
  induction as generalizing bs with
  | nil =>
    rw [hnil, List.forall₂_nil_left_iff]
    exact ⟨fun h ↦ (Except.ok.inj h).symm, fun h ↦ h ▸ rfl⟩
  | cons a rest ih =>
    rw [hcons, bind_eq_ok_iff, List.forall₂_cons_left_iff]
    refine exists_congr fun b ↦ ?_
    constructor
    · rintro ⟨hb, hothers⟩
      obtain ⟨others, hrest, hresults⟩ := bind_eq_ok_iff.mp hothers
      exact ⟨others, hb, ih.mp hrest, (Except.ok.inj hresults).symm⟩
    · rintro ⟨others, hb, hrest, rfl⟩
      exact ⟨hb, bind_eq_ok_iff.mpr ⟨others, ih.mpr hrest, rfl⟩⟩

/-- The items of a list have related ones in order exactly if each has one. -/
theorem exists_forall₂_iff {R : α → β → Prop} {as : List α} :
    (∃ bs, List.Forall₂ R as bs) ↔ ∀ a ∈ as, ∃ b, R a b := by
  induction as with
  | nil => exact iff_of_true ⟨[], .nil⟩ (List.forall_mem_nil _)
  | cons a rest ih =>
    rw [List.forall_mem_cons, ← ih]
    constructor
    · rintro ⟨_, _ | ⟨hb, hrest⟩⟩
      exact ⟨⟨_, hb⟩, ⟨_, hrest⟩⟩
    · rintro ⟨⟨b, hb⟩, ⟨others, hrest⟩⟩
      exact ⟨b :: others, .cons hb hrest⟩

/-- A result is the value that there is of it. -/
theorem eq_ok_of_toOption {a : α} (h : x.toOption = some a) : x = .ok a := by
  cases x with
  | error e => cases h
  | ok b => rw [Option.some.inj h]

/-- There is a result of which a part is known. -/
theorem exists_eq_ok_of_map_toOption {part : α → β} {b : β} (h : x.toOption.map part = some b) :
    ∃ a, x = .ok a ∧ part a = b := by
  obtain ⟨a, hvalue, hpart⟩ := Option.map_eq_some_iff.mp h
  exact ⟨a, eq_ok_of_toOption hvalue, hpart⟩

end Bind

/-- Whether a function declares every argument that it is given. -/
def Function.Declares (f : Function) (a : Arguments) : Prop :=
  ∀ name ∈ a.names, name ∈ f.parameterNames

/-- The calls in the body of a function; there are none in code. -/
def Function.innerCalls (f : Function) : List Call :=
  match f.body with
  | .code _ => []
  | .calls calls => calls

/-- The templates of a function: its codes, or the arguments of the calls in its body. -/
def Function.templates (f : Function) : List String :=
  match f.body with
  | .code code => [code.execute, code.revert]
  | .calls calls => calls.flatMap fun c ↦ c.arguments.entries.map (·.2)

/-- Whether an error says that a function was entered while it was open, or one function too
many. -/
def Error.IsCyclic : Error → Prop
  | .cycle _ | .callDepth _ _ => True
  | _ => False

namespace Arguments

/-- The entries of arguments that are filled in. -/
theorem mapEntriesM_of_mapM_eq_ok {a b : Arguments} {fill : String → Except Error String}
    (h : a.mapM fill = .ok b) : mapEntriesM fill a.entries = .ok b.entries := by
  unfold mapM at h
  split at h
  · rename_i entries hentries
    obtain rfl := Except.ok.inj h
    exact hentries
  · cases h

/-- Filling arguments in leaves their names as they are. -/
theorem names_of_mapM_eq_ok {a b : Arguments} {fill : String → Except Error String}
    (h : a.mapM fill = .ok b) : b.names = a.names :=
  entryNames_mapEntriesM (mapEntriesM_of_mapM_eq_ok h)

/-- Filling entries in succeeds only if each of them can be filled in, and gives the text of
each. -/
theorem of_mapEntriesM_eq_ok {ε : Type} {fill : String → Except ε String}
    {entries new : List (String × String)}
    (h : mapEntriesM fill entries = .ok new) :
    (∀ entry ∈ entries, ∃ text, fill entry.2 = .ok text) ∧
      ∀ name, new.lookup name = (entries.lookup name).bind fun text ↦ (fill text).toOption := by
  induction entries generalizing new with
  | nil =>
    cases h
    refine ⟨?_, fun name ↦ rfl⟩
    intro entry hentry
    cases hentry
  | cons entry rest ih =>
    obtain ⟨own, text⟩ := entry
    rw [mapEntriesM] at h
    obtain ⟨filled, hfirst, hothers⟩ := bind_eq_ok_iff.mp h
    obtain ⟨others, hrest, hnew⟩ := bind_eq_ok_iff.mp hothers
    obtain rfl := Except.ok.inj hnew
    obtain ⟨hall, hlookup⟩ := ih hrest
    refine ⟨?_, ?_⟩
    · intro other hother
      rcases List.mem_cons.mp hother with rfl | hmem
      · exact ⟨filled, hfirst⟩
      · exact hall other hmem
    · intro name
      by_cases hname : name = own
      · simp [hname, hfirst, Except.toOption]
      · rw [List.lookup_cons, List.lookup_cons, beq_eq_false_iff_ne.mpr hname]
        exact hlookup name

/-- Filling arguments in succeeds only if each of them can be filled in, and gives the text of
each. -/
theorem of_mapM_eq_ok {a b : Arguments} {fill : String → Except Error String}
    (h : a.mapM fill = .ok b) :
    (∀ entry ∈ a.entries, ∃ text, fill entry.2 = .ok text) ∧
      ∀ name, b.get? name = (a.get? name).bind fun text ↦ (fill text).toOption :=
  of_mapEntriesM_eq_ok (mapEntriesM_of_mapM_eq_ok h)

/-- Filling entries in fails as one of them does. -/
theorem exists_of_mapEntriesM_eq_error {ε : Type} {fill : String → Except ε String}
    {entries : List (String × String)} {e : ε} (h : mapEntriesM fill entries = .error e) :
    ∃ entry ∈ entries, fill entry.2 = .error e := by
  induction entries with
  | nil => cases h
  | cons entry rest ih =>
    rw [mapEntriesM] at h
    rcases bind_eq_error_iff.mp h with hfirst | ⟨text, -, hothers⟩
    · exact ⟨entry, List.mem_cons_self, hfirst⟩
    · rcases bind_eq_error_iff.mp hothers with hrest | ⟨others, -, hnew⟩
      · obtain ⟨other, hother, hfail⟩ := ih hrest
        exact ⟨other, List.mem_cons_of_mem _ hother, hfail⟩
      · cases hnew

/-- Filling arguments in fails as one of them does. -/
theorem exists_of_mapM_eq_error {a : Arguments} {fill : String → Except Error String} {e : Error}
    (h : a.mapM fill = .error e) : ∃ entry ∈ a.entries, fill entry.2 = .error e := by
  unfold mapM at h
  split at h
  · cases h
  · rename_i cause hentries
    obtain rfl := Except.error.inj h
    exact exists_of_mapEntriesM_eq_error hentries

/-- No code is filled in to no code. -/
theorem fill_empty (a : Arguments) : a.fill "" = .ok "" := by
  have hunified : Template.unifyOpenings "".toList = [] := by
    rw [String.toList_empty, Template.unifyOpenings]
    rfl
  rw [fill, Template.expand, hunified]
  rfl

end Arguments

namespace Registry

variable {r : Registry}

/-! ### Looking a function up -/

/-- A name is found exactly if some function of the registry has it, letter for letter. -/
theorem find?_eq_some_iff {name : String} {f : Function} :
    r.find? name = some f ↔ f ∈ r.functions ∧ f.name = name := by
  unfold find?
  rw [Option.filter_eq_some_iff, beq_iff_eq]
  constructor
  · rintro ⟨hfind, hname⟩
    exact ⟨List.mem_of_find?_eq_some hfind, hname⟩
  · rintro ⟨hmem, rfl⟩
    refine ⟨?_, rfl⟩
    cases hfind : r.functions.find? fun g ↦ g.key == Text.lowercase f.name.toList with
    | none => simpa [Function.key] using List.find?_eq_none.mp hfind f hmem
    | some g =>
      have hkey := List.find?_some hfind
      rw [beq_iff_eq] at hkey
      rw [List.inj_on_of_nodup_map r.distinct (List.mem_of_find?_eq_some hfind) hmem hkey]

/-- A function that is found has the name that was looked for. -/
theorem name_of_find? {name : String} {f : Function} (h : r.find? name = some f) : f.name = name :=
  (find?_eq_some_iff.mp h).2

/-- The function of a call is looked up by its name, which is never empty. -/
theorem get_function (c : Call) :
    r.get c.function = match r.find? c.function with
      | some f => .ok f
      | none => .error (.unknownFunction c.function) :=
  if_neg c.named

/-! ### Checking arguments -/

/-- The check of arguments passes exactly if all of them are declared. -/
theorem checkArguments_eq_ok_iff {f : Function} {a : Arguments} :
    checkArguments f a = .ok () ↔ f.Declares a := by
  have hnil : (a.names.filter fun name ↦ !f.parameterNames.contains name) = [] ↔ f.Declares a := by
    simp [List.filter_eq_nil_iff, Function.Declares]
  rw [← hnil]
  unfold checkArguments
  split <;> simp_all

/-- Arguments that are not all declared are refused, and the error names those that are not. -/
theorem checkArguments_of_not_declares {f : Function} {a : Arguments} (h : ¬ f.Declares a) :
    ∃ unexpected, checkArguments f a =
      .error (.unexpectedParameters f.name unexpected f.parameterNames) := by
  have hresult : checkArguments f a ≠ .ok () := fun hok ↦ h (checkArguments_eq_ok_iff.mp hok)
  unfold checkArguments at hresult ⊢
  split at hresult
  · exact absurd rfl hresult
  · exact ⟨_, rfl⟩

/-- A call that is filled in has its function, and its arguments filled in. -/
theorem mapM_of_fillCall {outer : Arguments} {c filled : Call} (h : fillCall outer c = .ok filled) :
    filled.function = c.function ∧ c.arguments.mapM outer.fill = .ok filled.arguments := by
  obtain ⟨arguments, harguments, hfilled⟩ := bind_eq_ok_iff.mp h
  obtain rfl := Except.ok.inj hfilled
  exact ⟨rfl, harguments⟩

/-- A call keeps its function and the names of its arguments when these are filled in. -/
theorem fillCall_eq_ok {outer : Arguments} {c filled : Call} (h : fillCall outer c = .ok filled) :
    filled.function = c.function ∧ filled.arguments.names = c.arguments.names :=
  ⟨(mapM_of_fillCall h).1, Arguments.names_of_mapM_eq_ok (mapM_of_fillCall h).2⟩

/-- The arguments of a call are filled in from those around it, each from its own text. -/
theorem get?_of_fillCall {outer : Arguments} {c filled : Call} (h : fillCall outer c = .ok filled) :
    (∀ entry ∈ c.arguments.entries, ∃ text, outer.fill entry.2 = .ok text) ∧
      ∀ name, filled.arguments.get? name =
        (c.arguments.get? name).bind fun text ↦ (outer.fill text).toOption :=
  Arguments.of_mapM_eq_ok (mapM_of_fillCall h).2

/-- The failure of filling the arguments of a call in is the failure of one of them. -/
theorem exists_of_fillCall_eq_error {outer : Arguments} {c : Call} {e : Error}
    (h : fillCall outer c = .error e) :
    ∃ entry ∈ c.arguments.entries, outer.fill entry.2 = .error e := by
  rcases bind_eq_error_iff.mp h with harguments | ⟨arguments, -, hfilled⟩
  · exact Arguments.exists_of_mapM_eq_error harguments
  · cases hfilled

/-- A call can be filled in if each of its arguments can. -/
theorem exists_fillCall {outer : Arguments} {c : Call}
    (h : ∀ entry ∈ c.arguments.entries, ∃ text, outer.fill entry.2 = .ok text) :
    ∃ filled, fillCall outer c = .ok filled := by
  cases hfilled : fillCall outer c with
  | ok filled => exact ⟨filled, rfl⟩
  | error e =>
    obtain ⟨entry, hentry, hfail⟩ := exists_of_fillCall_eq_error hfilled
    obtain ⟨text, htext⟩ := h entry hentry
    rw [htext] at hfail
    cases hfail

/-- A function declares the arguments of a call however they are filled in. -/
theorem declares_of_fillCall {outer : Arguments} {c filled : Call}
    (h : fillCall outer c = .ok filled)
    {f : Function} : f.Declares filled.arguments ↔ f.Declares c.arguments := by
  unfold Function.Declares
  rw [(fillCall_eq_ok h).2]

/-! ### Sequences of calls -/

/-- Code is filled in exactly if both of its sides are. -/
theorem fillCode_eq_ok_iff {code : FunctionCode} {a : Arguments} {fragment : Compiled} :
    fillCode code a = .ok fragment ↔
      a.fill code.execute = .ok fragment.code ∧ a.fill code.revert = .ok fragment.revertCode := by
  constructor
  · intro h
    obtain ⟨execute, hexecute, hothers⟩ := bind_eq_ok_iff.mp h
    obtain ⟨revert, hrevert, hfragment⟩ := bind_eq_ok_iff.mp hothers
    obtain rfl := Except.ok.inj hfragment
    exact ⟨hexecute, hrevert⟩
  · rintro ⟨hexecute, hrevert⟩
    exact bind_eq_ok_iff.mpr ⟨_, hexecute, bind_eq_ok_iff.mpr ⟨_, hrevert, rfl⟩⟩

section Sequence

variable {expandOne : Call → Except Error (List Compiled)}

/-- The fragments of a first call stand before those of the others. -/
theorem expandEach_cons (c : Call) (rest : List Call) :
    expandEach expandOne (c :: rest) = do
      let fragments ← expandOne c
      let others ← expandEach expandOne rest
      return fragments ++ others := rfl

/-- The fragments of one call. -/
theorem expandEach_singleton (c : Call) : expandEach expandOne [c] = expandOne c := by
  cases h : expandOne c <;> simp [expandEach, h, bind, Except.bind, pure, Except.pure]

/-- The fragments of two sequences one after the other. -/
theorem expandEach_append (first second : List Call) :
    expandEach expandOne (first ++ second) = do
      let fragments ← expandEach expandOne first
      let others ← expandEach expandOne second
      return fragments ++ others := by
  induction first with
  | nil =>
    cases h : expandEach expandOne second <;>
      simp [expandEach, h, bind, Except.bind, pure, Except.pure]
  | cons c rest ih =>
    rw [List.cons_append, expandEach_cons, expandEach_cons, ih]
    cases expandOne c with
    | error e => rfl
    | ok fragments =>
      cases expandEach expandOne rest with
      | error e => rfl
      | ok others =>
        cases expandEach expandOne second <;> simp [bind, Except.bind, pure, Except.pure]

/-- A first call and the others succeed together. -/
theorem expandEach_cons_eq_ok_iff {c : Call} {rest : List Call} {fragments : List Compiled} :
    expandEach expandOne (c :: rest) = .ok fragments ↔
      ∃ first others, expandOne c = .ok first ∧ expandEach expandOne rest = .ok others ∧
        first ++ others = fragments := by
  rw [expandEach_cons, bind_eq_ok_iff]
  constructor
  · rintro ⟨first, hfirst, hothers⟩
    obtain ⟨others, hrest, hfragments⟩ := bind_eq_ok_iff.mp hothers
    exact ⟨first, others, hfirst, hrest, Except.ok.inj hfragments⟩
  · rintro ⟨first, others, hfirst, hrest, rfl⟩
    exact ⟨first, hfirst, bind_eq_ok_iff.mpr ⟨others, hrest, rfl⟩⟩

/-- Two sequences succeed one after the other exactly if both do. -/
theorem expandEach_append_eq_ok_iff {first second : List Call} {fragments : List Compiled} :
    expandEach expandOne (first ++ second) = .ok fragments ↔
      ∃ before after, expandEach expandOne first = .ok before ∧
        expandEach expandOne second = .ok after ∧ before ++ after = fragments := by
  rw [expandEach_append, bind_eq_ok_iff]
  constructor
  · rintro ⟨before, hbefore, hothers⟩
    obtain ⟨after, hafter, hfragments⟩ := bind_eq_ok_iff.mp hothers
    exact ⟨before, after, hbefore, hafter, Except.ok.inj hfragments⟩
  · rintro ⟨before, after, hbefore, hafter, rfl⟩
    exact ⟨before, hbefore, bind_eq_ok_iff.mpr ⟨after, hafter, rfl⟩⟩

/-- A sequence succeeds only if every call of it does. -/
theorem exists_of_expandEach_eq_ok {calls : List Call} {fragments : List Compiled}
    (h : expandEach expandOne calls = .ok fragments) {c : Call} (hc : c ∈ calls) :
    ∃ own, expandOne c = .ok own := by
  induction calls generalizing fragments with
  | nil => cases hc
  | cons first rest ih =>
    obtain ⟨own, others, hown, hothers, -⟩ := expandEach_cons_eq_ok_iff.mp h
    rcases List.mem_cons.mp hc with rfl | hrest
    · exact ⟨own, hown⟩
    · exact ih hothers hrest

/-- A sequence fails exactly as the first call of it does that fails. -/
theorem expandEach_eq_error_iff {calls : List Call} {e : Error} :
    expandEach expandOne calls = .error e ↔
      ∃ before c after fragments, calls = before ++ c :: after ∧
        expandEach expandOne before = .ok fragments ∧ expandOne c = .error e := by
  constructor
  · intro h
    induction calls with
    | nil => cases h
    | cons first rest ih =>
      rw [expandEach_cons] at h
      rcases bind_eq_error_iff.mp h with hfirst | ⟨own, hown, hothers⟩
      · exact ⟨[], first, rest, [], rfl, rfl, hfirst⟩
      · rcases bind_eq_error_iff.mp hothers with hrest | ⟨others, -, hfragments⟩
        · obtain ⟨before, c, after, fragments, rfl, hbefore, hc⟩ := ih hrest
          exact ⟨first :: before, c, after, own ++ fragments, rfl,
            expandEach_cons_eq_ok_iff.mpr ⟨own, fragments, hown, hbefore, rfl⟩, hc⟩
        · cases hfragments
  · rintro ⟨before, c, after, fragments, rfl, hbefore, hc⟩
    rw [expandEach_append, hbefore, expandEach_cons, hc]
    rfl

/-- The failure of a sequence is the failure of one of its calls. -/
theorem exists_of_expandEach_eq_error {calls : List Call} {e : Error}
    (h : expandEach expandOne calls = .error e) : ∃ c ∈ calls, expandOne c = .error e := by
  obtain ⟨before, c, after, -, rfl, -, hc⟩ := expandEach_eq_error_iff.mp h
  exact ⟨c, List.mem_append_right _ List.mem_cons_self, hc⟩

/-- A sequence of which every call is expanded gives the fragments of the calls in turn. -/
theorem expandEach_eq_ok_flatMap {calls : List Call} {own : Call → List Compiled}
    (h : ∀ c ∈ calls, expandOne c = .ok (own c)) :
    expandEach expandOne calls = .ok (calls.flatMap own) := by
  induction calls with
  | nil => rfl
  | cons c rest ih =>
    rw [expandEach_cons, h c List.mem_cons_self,
      ih fun other hother ↦ h other (List.mem_cons_of_mem _ hother)]
    rfl

/-- Two ways to expand single calls that agree on the calls of a sequence agree on the sequence. -/
theorem expandEach_congr {expandOther : Call → Except Error (List Compiled)} {calls : List Call}
    (h : ∀ c ∈ calls, expandOne c = expandOther c) :
    expandEach expandOne calls = expandEach expandOther calls := by
  induction calls with
  | nil => rfl
  | cons c rest ih =>
    rw [expandEach_cons, expandEach_cons, h c List.mem_cons_self,
      ih fun other hother ↦ h other (List.mem_cons_of_mem _ hother)]

end Sequence

/-! ### Entering a function -/

/-- The fragments of a call in the body of a function that was given arguments. -/
def expandInner (r : Registry) (room : Nat) (path : List String) (outer : Arguments)
    (inner : Call) :
    Except Error (List Compiled) := do
  let filled ← fillCall outer inner
  r.expand room path filled

/-- The fragments of the body of a function that was given arguments, with the function on the
path. -/
def expandBody (r : Registry) (room : Nat) (path : List String) (a : Arguments) :
    FunctionBody → Except Error (List Compiled)
  | .code code => do return [← fillCode code a]
  | .calls calls => expandEach (r.expandInner room path a) calls

/-- A call that passes the checks of entering its function on a path. -/
structure Admitted (r : Registry) (path : List String) (c : Call) (f : Function) : Prop where
  registered : r.find? c.function = some f
  declared : f.Declares c.arguments
  fresh : c.function ∉ path

/-- What the expansion of a call comes to: the name is looked up, the arguments are checked, the
function must not be open, there must be room for it, and then the body is next. -/
theorem expand_eq (r : Registry) (room : Nat) (path : List String) (c : Call) :
    r.expand room path c =
      match r.find? c.function with
      | none => .error (.unknownFunction c.function)
      | some f =>
        match checkArguments f c.arguments with
        | .error e => .error e
        | .ok () =>
          if c.function ∈ path then .error (.cycle (path ++ [c.function]))
          else
            match room with
            | 0 => .error (.callDepth callLimit (path ++ [c.function]))
            | less + 1 => r.expandBody less (path ++ [c.function]) c.arguments f.body := by
  rw [expand, get_function]
  cases hfind : r.find? c.function with
  | none => rfl
  | some f =>
    simp only [bind, Except.bind, name_of_find? hfind]
    cases checkArguments f c.arguments with
    | error e => rfl
    | ok _ =>
      by_cases hpath : c.function ∈ path
      · simp only [if_pos hpath]
        rfl
      · simp only [if_neg hpath]
        cases room with
        | zero => rfl
        | succ less => cases f.body <;> rfl

/-- An admitted call for whose function there is room is expanded to the fragments of the body. -/
theorem expand_succ_of_admitted {room : Nat} {path : List String} {c : Call} {f : Function}
    (h : r.Admitted path c f) :
    r.expand (room + 1) path c = r.expandBody room (path ++ [c.function]) c.arguments f.body := by
  simp only [expand_eq, h.registered, checkArguments_eq_ok_iff.mpr h.declared, if_neg h.fresh]

/-- The ways in which the expansion of a call begins: the name is unknown, an argument is not
declared, the function is open already, or there is no room for it. Otherwise the call is admitted
and its body is next. -/
theorem expand_cases (r : Registry) (room : Nat) (path : List String) (c : Call) :
    (r.find? c.function = none ∧ r.expand room path c = .error (.unknownFunction c.function)) ∨
    (∃ f unexpected, r.find? c.function = some f ∧ ¬ f.Declares c.arguments ∧
      r.expand room path c =
        .error (.unexpectedParameters f.name unexpected f.parameterNames)) ∨
    (∃ f, r.find? c.function = some f ∧ f.Declares c.arguments ∧ c.function ∈ path ∧
      r.expand room path c = .error (.cycle (path ++ [c.function]))) ∨
    (∃ f, r.Admitted path c f ∧ room = 0 ∧
      r.expand room path c = .error (.callDepth callLimit (path ++ [c.function]))) ∨
    (∃ f less, r.Admitted path c f ∧ room = less + 1 ∧
      r.expand room path c = r.expandBody less (path ++ [c.function]) c.arguments f.body) := by
  rw [expand_eq]
  cases hfind : r.find? c.function with
  | none => exact Or.inl ⟨rfl, rfl⟩
  | some f =>
    right
    by_cases hdeclared : f.Declares c.arguments
    · right
      simp only [checkArguments_eq_ok_iff.mpr hdeclared]
      by_cases hpath : c.function ∈ path
      · left
        exact ⟨f, rfl, hdeclared, hpath, if_pos hpath⟩
      · right
        simp only [if_neg hpath]
        cases room with
        | zero => exact Or.inl ⟨f, ⟨hfind, hdeclared, hpath⟩, rfl, rfl⟩
        | succ less => exact Or.inr ⟨f, less, ⟨hfind, hdeclared, hpath⟩, rfl, rfl⟩
    · left
      obtain ⟨unexpected, hcheck⟩ := checkArguments_of_not_declares hdeclared
      exact ⟨f, unexpected, rfl, hdeclared, by simp only [hcheck]⟩

/-- A call that was expanded was admitted, and its body was expanded with less room. -/
theorem admitted_of_expand_eq_ok {room : Nat} {path : List String} {c : Call}
    {fragments : List Compiled}
    (h : r.expand room path c = .ok fragments) :
    ∃ f less, r.Admitted path c f ∧ room = less + 1 ∧
      r.expandBody less (path ++ [c.function]) c.arguments f.body = .ok fragments := by
  rcases r.expand_cases room path c with ⟨-, hfail⟩ | ⟨f, unexpected, -, -, hfail⟩ |
    ⟨f, -, -, -, hfail⟩ | ⟨f, -, -, hfail⟩ | ⟨f, less, hadmitted, hroom, hbody⟩
  · simp [hfail] at h
  · simp [hfail] at h
  · simp [hfail] at h
  · simp [hfail] at h
  · exact ⟨f, less, hadmitted, hroom, hbody ▸ h⟩

/-- A call in the body of a function is expanded after its arguments are filled in. -/
theorem expandInner_eq_ok_iff {room : Nat} {path : List String} {outer : Arguments} {inner : Call}
    {fragments : List Compiled} :
    r.expandInner room path outer inner = .ok fragments ↔
      ∃ filled, fillCall outer inner = .ok filled ∧ r.expand room path filled = .ok fragments :=
  bind_eq_ok_iff

/-- If a body was expanded, so was every call in it. -/
theorem exists_expand_of_expandBody_eq_ok {room : Nat} {path : List String} {a : Arguments}
    {f : Function}
    {fragments : List Compiled} (h : r.expandBody room path a f.body = .ok fragments) {inner : Call}
    (hinner : inner ∈ f.innerCalls) :
    ∃ filled own, fillCall a inner = .ok filled ∧ r.expand room path filled = .ok own := by
  unfold Function.innerCalls at hinner
  cases hbody : f.body with
  | code code => simp [hbody] at hinner
  | calls calls =>
    rw [hbody] at hinner h
    obtain ⟨own, hown⟩ := exists_of_expandEach_eq_ok h hinner
    obtain ⟨filled, hfilled, hexpand⟩ := expandInner_eq_ok_iff.mp hown
    exact ⟨filled, own, hfilled, hexpand⟩

/-- A sequence of calls compiles to the merged fragments of its expansion. -/
theorem compile_eq_ok_iff {calls : List Call} {compiled : Compiled} :
    r.compile calls = .ok compiled ↔
      ∃ fragments, expandEach (r.expand callLimit []) calls = .ok fragments ∧
        Compiled.merge fragments = compiled := by
  rw [compile, expandCalls, bind_eq_ok_iff]
  refine exists_congr fun fragments ↦ and_congr_right fun _ ↦ ?_
  constructor
  · exact fun hmerge ↦ Except.ok.inj hmerge
  · rintro rfl
    rfl

/-- A sequence of calls fails to compile exactly as its expansion fails. -/
theorem compile_eq_error_iff {calls : List Call} {e : Error} :
    r.compile calls = .error e ↔ expandEach (r.expand callLimit []) calls = .error e := by
  rw [compile, expandCalls, bind_eq_error_iff]
  constructor
  · rintro (hfail | ⟨fragments, -, hmerge⟩)
    · exact hfail
    · cases hmerge
  · exact Or.inl

end Registry

end Scriptorium
