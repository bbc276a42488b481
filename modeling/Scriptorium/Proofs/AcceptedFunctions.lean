import Scriptorium.Proofs.DeclaredParameter

/-!
# Which functions are accepted

Which lists of definitions make a registry, said of the definitions as they are written. A
definition is well-formed if it has a name, either code or calls, revert code only with code,
parameters with names that can be used, and calls that are complete
(`Definition.Function.IsWellFormed`). A list is if all its definitions are and no two of them have
names that are the same in lower case, the same code or the same revert code
(`Definition.AreWellFormed`).

Arguments are written as text. A whole number has no text if it has more digits than can be written,
and then nothing is made of the list, though it may be well-formed (`ofDefinitions?_of_unwritable`).
This is all that is asked for besides: `ofDefinitions?_accepts` says so, and which functions the
registry holds (`Definition.Function.Gives`).
-/

set_option autoImplicit false
set_option relaxedAutoImplicit false

namespace Scriptorium

open Template (isPlainName)

namespace Definition

/-! ### Well-formed definitions -/

/-- The arguments of a call, by name. -/
def Call.entries (c : Call) : List (String × Value) := (c.parameters.map Mapping.entries).getD []

/-- Whether a call names a function, and each of its arguments has a name and a value. -/
structure Call.IsWellFormed (c : Call) : Prop where
  named : c.function.getD "" ≠ ""
  arguments : ∀ entry ∈ c.entries, entry.1 ≠ "" ∧ entry.2 ≠ .null

/-- Whether each argument of a call has a text. -/
def Call.IsWritable (c : Call) : Prop := ∀ entry ∈ c.entries, entry.2.isWritable = true

/-- Whether a name is one that a parameter can have: a plain one, with at most a line feed behind
it, that is not reserved. -/
def IsUsableName (name : String) : Prop :=
  (isPlainName name.toList ∨ ∃ front, name.toList = front ++ ['\n'] ∧ isPlainName front) ∧
    name ∉ reservedNames

/-- Whether a function has a name, code or calls but not both, revert code only with code,
parameters with different names that can be used, and complete calls. -/
structure Function.IsWellFormed (d : Definition.Function) : Prop where
  named : d.name.getD "" ≠ ""
  body : d.code.getD "" ≠ "" ↔ d.listedCalls = []
  revert : d.listedCalls ≠ [] → d.revertCode.getD "" = ""
  parameters : ∀ p ∈ d.parameters, ∃ name, p.name = some name ∧ IsUsableName name
  distinct : (d.parameters.map Parameter.name).Nodup
  calls : ∀ c ∈ d.listedCalls, c.IsWellFormed

/-- Whether each argument in the calls of a function has a text. -/
def Function.IsWritable (d : Definition.Function) : Prop := ∀ c ∈ d.listedCalls, c.IsWritable

/-- Whether functions are well-formed, and no two of them have names that are the same in lower
case, the same code or the same revert code. -/
structure AreWellFormed (definitions : List Definition.Function) : Prop where
  each : ∀ d ∈ definitions, d.IsWellFormed
  names : definitions.Pairwise fun d e ↦
    Text.lowercase (d.name.getD "").toList ≠ Text.lowercase (e.name.getD "").toList
  codes : definitions.Pairwise fun d e ↦ d.code.getD "" ≠ "" → d.code ≠ e.code
  revertCodes : definitions.Pairwise fun d e ↦
    d.revertCode.getD "" ≠ "" → d.revertCode ≠ e.revertCode

/-- Whether a call is what a definition says: of the function, with the arguments in order, each
with the text of its value. -/
structure Call.Gives (c : Call) (call : Scriptorium.Call) : Prop where
  function : c.function = some call.function
  arguments : call.arguments.entries = c.entries.map fun entry ↦ (entry.1, entry.2.argumentText)

/-- Whether a function is what a definition says: with the name, the parameters in order, each
required if it is declared so, and the code, or the calls in order. -/
structure Function.Gives (d : Definition.Function) (f : Scriptorium.Function) : Prop where
  name : d.name = some f.name
  parameters :
    List.Forall₂ (fun p q ↦ p.name = some q.name ∧ q.isRequired = p.required) d.parameters
      f.parameters
  code : d.listedCalls = [] → f.body = .code ⟨d.code.getD "", d.revertCode.getD ""⟩
  calls : d.listedCalls ≠ [] →
    ∃ calls, f.body = .calls calls ∧ List.Forall₂ Call.Gives d.listedCalls calls

end Definition

/-! ### Arguments -/

namespace Arguments

/-- An argument is added exactly if it has a name, a value and a text. -/
theorem addValues_cons_eq_ok_iff {a b : Arguments} {name : String} {value : Value}
    {rest : List (Value × Value)} :
    a.addValues ((.text name, value) :: rest) = .ok b ↔
      (name ≠ "" ∧ value ≠ .null ∧ value.isWritable = true) ∧
        (a.set name value.argumentText).addValues rest = .ok b := by
  by_cases hvalue : value = .null
  · subst hvalue
    rw [addValues.eq_2]
    by_cases hname : name = "" <;> simp [hname]
  · rw [addValues.eq_3 _ _ _ _ hvalue]
    by_cases hname : name = ""
    · simp [hname]
    · by_cases hwritable : value.isWritable = true <;> simp [hname, hvalue, hwritable]

/-- Under names that are new, arguments are added exactly if each can be. They come behind those
already there, in order. -/
theorem addValues_eq_ok_iff {a b : Arguments} {entries : List (String × Value)}
    (hnodup : (entryNames a.entries ++ entryNames entries).Nodup) :
    a.addValues (entries.map fun (name, value) ↦ (.text name, value)) = .ok b ↔
      (∀ entry ∈ entries, entry.1 ≠ "" ∧ entry.2 ≠ .null ∧ entry.2.isWritable = true) ∧
        b.entries = a.entries ++ entries.map fun entry ↦ (entry.1, entry.2.argumentText) := by
  induction entries generalizing a with
  | nil =>
    rw [List.map_nil, addValues, List.map_nil, List.append_nil]
    constructor
    · intro h
      obtain rfl := Except.ok.inj h
      exact ⟨List.forall_mem_nil _, rfl⟩
    · rintro ⟨-, hentries⟩
      obtain ⟨own, hown⟩ := a
      obtain ⟨others, hothers⟩ := b
      obtain rfl : others = own := hentries
      rfl
  | cons entry rest ih =>
    obtain ⟨name, value⟩ := entry
    have hnew : name ∉ entryNames a.entries := fun hmem ↦
      List.disjoint_of_nodup_append hnodup hmem List.mem_cons_self
    have hset : (a.set name value.argumentText).entries =
        a.entries ++ [(name, value.argumentText)] := setEntry_of_not_mem hnew _
    have hrest : (entryNames (a.set name value.argumentText).entries ++ entryNames rest).Nodup := by
      rw [hset, entryNames, List.map_append, List.append_assoc]
      exact hnodup
    rw [List.map_cons, addValues_cons_eq_ok_iff, ih hrest, hset, List.append_assoc,
      List.forall_mem_cons]
    exact and_assoc.symm

/-- Under different names, exactly the arguments are made whose entries have names, values and
texts. -/
theorem ofValues?_eq_ok_iff {a : Arguments} {entries : List (String × Value)}
    (hnodup : (entryNames entries).Nodup) :
    ofValues? (entries.map fun (name, value) ↦ (.text name, value)) = .ok a ↔
      (∀ entry ∈ entries, entry.1 ≠ "" ∧ entry.2 ≠ .null ∧ entry.2.isWritable = true) ∧
        a.entries = entries.map fun entry ↦ (entry.1, entry.2.argumentText) :=
  addValues_eq_ok_iff hnodup

end Arguments

/-! ### Calls -/

namespace Definition

theorem hasText_iff {text : Option String} : hasText text = true ↔ text.getD "" ≠ "" := by
  cases text <;> simp [hasText]

theorem Call.nodup_entries (c : Call) : (entryNames c.entries).Nodup := by
  rw [entries]
  cases c.parameters with
  | none => exact .nil
  | some parameters => exact parameters.nodup

/-- Exactly the calls are built that are well-formed and whose arguments have texts. -/
theorem Call.build_eq_ok_iff {c : Call} {call : Scriptorium.Call} :
    c.build = .ok call ↔ (c.IsWellFormed ∧ c.IsWritable) ∧ c.Gives call := by
  have hbuild : c.build = .ok call ↔ c.function = some call.function ∧
      Arguments.ofValues? (c.entries.map fun (name, value) ↦ (.text name, value)) =
        .ok call.arguments := by
    obtain ⟨name, a, hnamed⟩ := call
    rw [build, entries]
    cases hfunction : c.function with
    | none => simp [hasText]
    | some own =>
      by_cases hown : own = ""
      · simp [hasText, hown, hnamed.symm]
      · simp only [hasText, bne_iff_ne.mpr hown, Scriptorium.Call.ofValues?, dif_neg hown]
        rw [if_neg (by simp), bind_eq_ok_iff]
        constructor
        · rintro ⟨b, hb, hcall⟩
          obtain ⟨rfl, rfl⟩ := Scriptorium.Call.mk.inj (Except.ok.inj hcall)
          exact ⟨rfl, hb⟩
        · rintro ⟨hname, ha⟩
          obtain rfl := Option.some.inj hname
          exact ⟨a, ha, rfl⟩
  rw [hbuild, Arguments.ofValues?_eq_ok_iff c.nodup_entries]
  constructor
  · rintro ⟨hfunction, hentries, harguments⟩
    refine ⟨⟨⟨?_, fun entry hentry ↦ ?_⟩, fun entry hentry ↦ (hentries entry hentry).2.2⟩,
      hfunction, harguments⟩
    · rw [hfunction]
      exact call.named
    · exact ⟨(hentries entry hentry).1, (hentries entry hentry).2.1⟩
  · rintro ⟨⟨hformed, hwritable⟩, hgives⟩
    refine ⟨hgives.function, fun entry hentry ↦ ?_, hgives.arguments⟩
    obtain ⟨hname, hvalue⟩ := hformed.arguments entry hentry
    exact ⟨hname, hvalue, hwritable entry hentry⟩

/-- Every well-formed call is one of something. -/
theorem Call.exists_gives {c : Call} (h : c.IsWellFormed) : ∃ call, c.Gives call := by
  obtain ⟨hnamed, -⟩ := h
  have hnodup : (entryNames (c.entries.map fun entry ↦ (entry.1, entry.2.argumentText))).Nodup := by
    rw [entryNames, List.map_map]
    exact c.nodup_entries
  cases hfunction : c.function with
  | none => simp [hfunction] at hnamed
  | some name =>
    rw [hfunction] at hnamed
    exact ⟨⟨name, ⟨_, hnodup⟩, hnamed⟩, hfunction, rfl⟩

/-- Calls are built exactly if each can be, in order. -/
theorem buildCalls_eq_ok_iff {calls : List Call} {built : List Scriptorium.Call} :
    buildCalls calls = .ok built ↔
      (∀ c ∈ calls, c.IsWellFormed ∧ c.IsWritable) ∧ List.Forall₂ Call.Gives calls built := by
  rw [sequence_eq_ok_iff Call.build buildCalls rfl fun _ _ ↦ rfl, ← List.forall₂_and_left]
  simp only [Call.build_eq_ok_iff]

/-! ### Functions -/

/-- What is asked of the body of a function. -/
theorem Function.checkBody_eq_ok_iff {d : Definition.Function} {name : String} :
    d.checkBody name = .ok () ↔
      (d.code.getD "" ≠ "" ↔ d.listedCalls = []) ∧
        (d.listedCalls ≠ [] → d.revertCode.getD "" = "") := by
  have hcalls : d.listedCalls = [] ↔ hasCalls d.calls = false := by
    unfold hasCalls listedCalls
    split <;> simp_all [Calls.toList]
  have hrevert : d.revertCode.getD "" = "" ↔ hasText d.revertCode = false := by
    rw [← Bool.not_eq_true, hasText_iff, not_not]
  rw [checkBody, ← hasText_iff, hrevert, ne_eq, hcalls]
  cases hasText d.code <;> cases hasCalls d.calls <;> cases hasText d.revertCode <;> simp

/-- Parameters that have names are built as they are declared. -/
theorem eq_map_parameters_iff {declared : List Parameter} {built : List Scriptorium.Parameter}
    (hnames : ∀ p ∈ declared, ∃ name, p.name = some name) :
    built = (declared.map fun p ↦ ⟨p.name.getD "", p.required⟩) ↔
      List.Forall₂ (fun p q ↦ p.name = some q.name ∧ q.isRequired = p.required) declared built := by
  induction declared generalizing built with
  | nil => exact List.forall₂_nil_left_iff.symm
  | cons p rest ih =>
    obtain ⟨⟨name, hname⟩, hrest⟩ := List.forall_mem_cons.mp hnames
    rw [List.map_cons, List.forall₂_cons_left_iff, hname]
    constructor
    · rintro rfl
      exact ⟨_, _, ⟨rfl, rfl⟩, (ih hrest).mp rfl, rfl⟩
    · rintro ⟨q, others, ⟨hq, hrequired⟩, hothers, rfl⟩
      obtain rfl := Option.some.inj hq
      rw [(ih hrest).mpr hothers, ← hrequired]
      rfl

/-- A definition that passes the checks and is built is well-formed, the arguments of its calls have
texts, and it is built into what it says. -/
theorem Function.gives_of_describes {d : Definition.Function} {f : Scriptorium.Function}
    (h : d.Describes f) : (d.IsWellFormed ∧ d.IsWritable) ∧ d.Gives f := by
  obtain ⟨hnamed, -, hgiven, hcode, hcalls⟩ := build_eq_ok_iff.mp h.built
  obtain ⟨hone, hrevert⟩ := checkBody_eq_ok_iff.mp h.complete.body
  obtain ⟨hnames, hdistinct⟩ := checkParameters_eq_ok_iff.mp h.complete.parameters
  rw [eq_map_parameters_iff fun p hp ↦ (hnames p hp).imp fun _ h ↦ h.1] at hgiven
  -- calls are only built where there is no code
  have hmade : d.listedCalls ≠ [] → ∃ calls, buildCalls d.listedCalls = .ok calls ∧
      f.body = .calls calls := by
    intro hlisted
    refine hcalls ?_
    rw [← Bool.not_eq_true, hasText_iff, hone]
    exact hlisted
  have heach : ∀ c ∈ d.listedCalls, c.IsWellFormed ∧ c.IsWritable := by
    intro c hc
    obtain ⟨calls, hcalls, -⟩ := hmade (List.ne_nil_of_mem hc)
    exact (buildCalls_eq_ok_iff.mp hcalls).1 c hc
  refine ⟨⟨⟨hnamed, hone, hrevert, fun p hp ↦ ?_, hdistinct, fun c hc ↦ (heach c hc).1⟩,
    fun c hc ↦ (heach c hc).2⟩, ⟨h.complete.named, hgiven, fun hlisted ↦ ?_, fun hlisted ↦ ?_⟩⟩
  · obtain ⟨name, hown, husable, hfree, -⟩ := hnames p hp
    exact ⟨name, hown, isParameterName_iff.mp husable, hfree⟩
  · exact hcode (hasText_iff.mpr (hone.mpr hlisted))
  · obtain ⟨calls, hcalls, hbody⟩ := hmade hlisted
    exact ⟨calls, hbody, (buildCalls_eq_ok_iff.mp hcalls).2⟩

/-- A well-formed definition with arguments that have texts passes the checks, and is built into
what it says. -/
theorem Function.describes_of_gives {d : Definition.Function} {f : Scriptorium.Function}
    (hformed : d.IsWellFormed) (hwritable : d.IsWritable) (hgives : d.Gives f) :
    d.Describes f := by
  have hnames : ∀ p ∈ d.parameters, ∃ name, p.name = some name ∧ isParameterName name.toList ∧
      name ∉ reservedNames ∧ name ∉ [] := by
    intro p hp
    obtain ⟨name, hown, husable, hfree⟩ := hformed.parameters p hp
    exact ⟨name, hown, isParameterName_iff.mpr husable, hfree, List.not_mem_nil⟩
  have hname : f.name = d.name.getD "" := by rw [hgives.name, Option.getD_some]
  refine ⟨⟨hgives.name, hname ▸ hformed.named, ?_, ?_⟩, build_eq_ok_iff.mpr ?_⟩
  · exact checkBody_eq_ok_iff.mpr ⟨hformed.body, hformed.revert⟩
  · exact checkParameters_eq_ok_iff.mpr ⟨hnames, hformed.distinct⟩
  · refine ⟨hformed.named, hname, ?_, fun htext ↦ ?_, fun htext ↦ ?_⟩
    · exact (eq_map_parameters_iff fun p hp ↦ (hnames p hp).imp fun _ h ↦ h.1).mpr
        hgives.parameters
    · exact hgives.code (hformed.body.mp (hasText_iff.mp htext))
    · rw [← Bool.not_eq_true, hasText_iff, hformed.body] at htext
      obtain ⟨calls, hbody, hcalls⟩ := hgives.calls htext
      exact ⟨calls, buildCalls_eq_ok_iff.mpr
        ⟨fun c hc ↦ ⟨hformed.calls c hc, hwritable c hc⟩, hcalls⟩, hbody⟩

/-- A definition describes exactly what it says, if it is well-formed and the arguments of its calls
have texts. -/
theorem Function.describes_iff {d : Definition.Function} {f : Scriptorium.Function} :
    d.Describes f ↔ (d.IsWellFormed ∧ d.IsWritable) ∧ d.Gives f :=
  ⟨gives_of_describes, fun h ↦ describes_of_gives h.1.1 h.1.2 h.2⟩

/-- Every well-formed definition is one of something. -/
theorem Function.exists_gives {d : Definition.Function} (h : d.IsWellFormed) :
    ∃ f, d.Gives f := by
  have hname : d.name = some (d.name.getD "") :=
    (Option.getD_of_ne_none (fun hnone ↦ h.named (by rw [hnone]; rfl)) "").symm
  have hparameters :=
    (eq_map_parameters_iff fun p hp ↦ (h.parameters p hp).imp fun _ h ↦ h.1).mp rfl
  by_cases hlisted : d.listedCalls = []
  · exact ⟨⟨_, _, _⟩, hname, hparameters, fun _ ↦ rfl, fun hcalls ↦ absurd hlisted hcalls⟩
  · obtain ⟨calls, hcalls⟩ := exists_forall₂_iff.mpr fun c hc ↦ Call.exists_gives (h.calls c hc)
    exact ⟨⟨_, _, _⟩, hname, hparameters, fun hnone ↦ absurd hnone hlisted,
      fun _ ↦ ⟨calls, rfl, hcalls⟩⟩

/-- Well-formed definitions are apart from each other. -/
theorem AreWellFormed.isApart {definitions : List Definition.Function}
    (h : AreWellFormed definitions) : definitions.Pairwise Function.IsApart := by
  refine (h.names.and (h.codes.and h.revertCodes)).imp ?_
  rintro d e ⟨hkey, hcode, hrevert⟩
  exact ⟨hkey, fun htext ↦ hcode (hasText_iff.mp htext),
    fun htext ↦ hrevert (hasText_iff.mp htext)⟩

theorem AreWellFormed.of_isApart {definitions : List Definition.Function}
    (heach : ∀ d ∈ definitions, d.IsWellFormed)
    (hapart : definitions.Pairwise Function.IsApart) : AreWellFormed definitions where
  each := heach
  names := hapart.imp fun h ↦ h.key
  codes := hapart.imp fun h htext ↦ h.code (hasText_iff.mpr htext)
  revertCodes := hapart.imp fun h htext ↦ h.revertCode (hasText_iff.mpr htext)

end Definition

/-! ### Lists -/

namespace Registry

open Definition

/-- The registry of a list of definitions is what the list says, if it is well-formed and the
arguments of the calls have texts. -/
theorem ofDefinitions?_eq_ok_iff_gives {definitions : List Definition.Function} {r : Registry} :
    ofDefinitions? definitions = .ok r ↔
      (AreWellFormed definitions ∧ ∀ d ∈ definitions, d.IsWritable) ∧
        List.Forall₂ Function.Gives definitions r.functions := by
  have hdescribes : List.Forall₂ Function.Describes definitions r.functions ↔
      (∀ d ∈ definitions, d.IsWellFormed ∧ d.IsWritable) ∧
        List.Forall₂ Function.Gives definitions r.functions := by
    rw [← List.forall₂_and_left]
    exact ⟨fun h ↦ h.imp fun _ _ ↦ Function.describes_iff.mp,
      fun h ↦ h.imp fun _ _ ↦ Function.describes_iff.mpr⟩
  rw [ofDefinitions?_eq_ok_iff, hdescribes]
  constructor
  · rintro ⟨hapart, heach, hgives⟩
    exact ⟨⟨.of_isApart (fun d hd ↦ (heach d hd).1) hapart, fun d hd ↦ (heach d hd).2⟩, hgives⟩
  · rintro ⟨⟨hformed, hwritable⟩, hgives⟩
    exact ⟨hformed.isApart, fun d hd ↦ ⟨hformed.each d hd, hwritable d hd⟩, hgives⟩

/-- There is a registry of what a well-formed list says. -/
theorem exists_forall₂_gives {definitions : List Definition.Function}
    (h : AreWellFormed definitions) :
    ∃ r : Registry, List.Forall₂ Function.Gives definitions r.functions := by
  obtain ⟨functions, hgives⟩ :=
    exists_forall₂_iff.mpr fun d hd ↦ Function.exists_gives (h.each d hd)
  have hkeys :
      functions.map Scriptorium.Function.key = definitions.map Definition.Function.key := by
    rw [← List.forall₂_eq_eq_eq, List.forall₂_map_left_iff, List.forall₂_map_right_iff]
    refine hgives.flip.imp fun f d hd ↦ ?_
    rw [Scriptorium.Function.key, Definition.Function.key, hd.name, Option.getD_some]
  refine ⟨⟨functions, ?_⟩, hgives⟩
  rw [hkeys, List.Nodup, List.pairwise_map]
  exact h.names

/-- Exactly the well-formed lists of definitions make a registry, as far as the arguments of their
calls have texts. The registry holds a function for each definition, in order, and each is what its
definition says. -/
theorem ofDefinitions?_accepts (definitions : List Definition.Function) :
    ((∃ r, ofDefinitions? definitions = .ok r) ↔
      AreWellFormed definitions ∧ ∀ d ∈ definitions, d.IsWritable) ∧
    ∀ r, ofDefinitions? definitions = .ok r →
      List.Forall₂ Function.Gives definitions r.functions := by
  simp only [ofDefinitions?_eq_ok_iff_gives]
  refine ⟨⟨fun ⟨r, hmade, _⟩ ↦ hmade, fun hmade ↦ ?_⟩, fun r hr ↦ hr.2⟩
  obtain ⟨r, hgives⟩ := exists_forall₂_gives hmade.1
  exact ⟨r, hmade, hgives⟩

/-- A function with code, and one that calls it with a number and a truth value. -/
def greetDefinitions : List Definition.Function :=
  [⟨some "Echo", [⟨some "text", none, none⟩, ⟨some "loud", some true, none⟩], some "echo", none,
      none⟩,
    ⟨some "Greet", [], none, none, some (.one ⟨some "Echo",
      some ⟨[("text", .int 1), ("loud", .bool true)], by decide⟩⟩)⟩]

/-- The functions that they say. -/
def greetFunctions : List Scriptorium.Function :=
  [⟨"Echo", [⟨"text", true⟩, ⟨"loud", false⟩], .code ⟨"echo", ""⟩⟩,
    ⟨"Greet", [], .calls [⟨"Echo", ⟨[("text", "1"), ("loud", "true")], by decide⟩, by decide⟩]⟩]

/-- Both are held, and the arguments of the call are texts. -/
theorem ofDefinitions?_accepts_greet :
    ∃ r, ofDefinitions? greetDefinitions = .ok r ∧ r.functions = greetFunctions ∧
      AreWellFormed greetDefinitions ∧
      List.Forall₂ Function.Gives greetDefinitions r.functions := by
  have hfunctions : (ofDefinitions? greetDefinitions).toOption.map Registry.functions =
      some greetFunctions := by
    decide +kernel
  obtain ⟨r, hregistry, hr⟩ := exists_eq_ok_of_map_toOption hfunctions
  obtain ⟨hmade, hgives⟩ := ofDefinitions?_accepts greetDefinitions
  exact ⟨r, hregistry, hr, (hmade.mp ⟨r, hregistry⟩).1, hgives r hregistry⟩

/-- A function that calls another one with a number that has one digit too many to be written. -/
def waitDefinition : Definition.Function :=
  ⟨some "Wait", [], none, none, some (.one ⟨some "Sleep",
    some ⟨[("seconds", .int (Nat.pow 10 Decimal.digitLimit))], by decide⟩⟩)⟩

/-- The list of this one function is well-formed, and it makes no registry. -/
theorem ofDefinitions?_of_unwritable :
    AreWellFormed [waitDefinition] ∧ ¬ ∃ r, ofDefinitions? [waitDefinition] = .ok r := by
  have hcall : waitDefinition.listedCalls = [⟨some "Sleep",
      some ⟨[("seconds", .int (Nat.pow 10 Decimal.digitLimit))], by decide⟩⟩] := rfl
  refine ⟨⟨?_, List.pairwise_singleton _ _, List.pairwise_singleton _ _,
    List.pairwise_singleton _ _⟩, ?_⟩
  · rw [List.forall_mem_singleton]
    refine ⟨by decide, ?_, fun _ ↦ rfl, List.forall_mem_nil _, .nil, ?_⟩
    · exact iff_of_false (fun htext ↦ htext rfl) (List.cons_ne_nil _ _)
    · rw [hcall, List.forall_mem_singleton]
      refine ⟨by decide, List.forall_mem_singleton.mpr ⟨by decide, fun hnull ↦ ?_⟩⟩
      cases hnull
  · rintro ⟨r, hregistry⟩
    obtain ⟨⟨-, hwritable⟩, -⟩ := ofDefinitions?_eq_ok_iff_gives.mp hregistry
    have hentry := hwritable _ List.mem_cons_self _ List.mem_cons_self _ List.mem_cons_self
    rw [Value.isWritable, Decimal.isWritable, decide_eq_true_eq,
      Int.natAbs_natCast] at hentry
    exact Nat.lt_irrefl _ hentry

end Registry

end Scriptorium
