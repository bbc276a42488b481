import Scriptorium.Proofs.CallSequence
import Scriptorium.Proofs.DefinitionOrder
import Scriptorium.Proofs.SectionCode

/-!
# The two sides of code

A function has two codes, one that applies and one that reverts, and calls compile to two texts.
Each text depends on the codes of its own side alone, though both are filled in with the same
arguments, kept in the same fragments and merged together.

What happens to fragments when the codes of all functions of a registry are changed is said once. A
change carries over if the fragment that a changed code is filled into can be told from the fragment
of the code itself, and merging does not come in its way (`Carries`). Then it carries over to every
call, at any depth (`expand_mapCode`), and to what calls compile to (`compile_mapCode`). Two changes
do: exchanging the two codes (`carries_exchanged`), and emptying one of them (`carries_only`).

Registries that agree on one side are the same once the other side is emptied
(`find?_mapCode_only_eq`). From this follows that they compile to the same text on that side;
`compile_sides` is the whole.
-/

set_option autoImplicit false
set_option relaxedAutoImplicit false

namespace Scriptorium

/-! ### Sides -/

namespace FunctionCode

/-- The code that applies, or that reverts. -/
def side (revert : Bool) (code : FunctionCode) : String :=
  if revert then code.revert else code.execute

/-- What applies reverts, and what reverts applies. -/
def exchanged (code : FunctionCode) : FunctionCode := ⟨code.revert, code.execute⟩

/-- One side of the code, with nothing on the other. -/
def only (revert : Bool) (code : FunctionCode) : FunctionCode :=
  if revert then ⟨"", code.revert⟩ else ⟨code.execute, ""⟩

end FunctionCode

namespace Compiled

/-- What applies reverts, and what reverts applies. -/
def exchanged (fragment : Compiled) : Compiled := ⟨fragment.revertCode, fragment.code⟩

/-- One side of a fragment, with nothing on the other. -/
def only (revert : Bool) (fragment : Compiled) : Compiled :=
  if revert then ⟨"", fragment.revertCode⟩ else ⟨fragment.code, ""⟩

/-- Fragments that are the same without one side have the same other side. -/
theorem side_eq_of_only_eq {revert : Bool} {first second : Compiled}
    (h : first.only revert = second.only revert) : first.side revert = second.side revert := by
  cases revert with
  | false => exact (congrArg code h :)
  | true => exact (congrArg revertCode h :)

end Compiled

/-- Whether two bodies are codes with the same text on one side, or the same calls. -/
inductive FunctionBody.AgreesOn (revert : Bool) : FunctionBody → FunctionBody → Prop
  | code {first second : FunctionCode} (h : first.side revert = second.side revert) :
      AgreesOn revert (.code first) (.code second)
  | calls (inner : List Call) : AgreesOn revert (.calls inner) (.calls inner)

/-- Whether two functions are the same up to the other side of their codes. -/
structure Function.AgreesOn (revert : Bool) (f g : Function) : Prop where
  name : f.name = g.name
  parameters : f.parameters = g.parameters
  body : f.body.AgreesOn revert g.body

/-- Whether two registries have the same functions, in any order, up to the other side of their
codes. -/
structure Registry.AgreesOn (revert : Bool) (r s : Registry) : Prop where
  left : ∀ f ∈ r.functions, ∃ g ∈ s.functions, f.AgreesOn revert g
  right : ∀ g ∈ s.functions, ∃ f ∈ r.functions, f.AgreesOn revert g

/-! ### Changed codes -/

/-- The body with its code changed; calls stay. -/
def FunctionBody.mapCode (change : FunctionCode → FunctionCode) : FunctionBody → FunctionBody
  | .code own => .code (change own)
  | .calls inner => .calls inner

/-- The function with its code changed. -/
def Function.mapCode (change : FunctionCode → FunctionCode) (f : Function) : Function :=
  { f with body := f.body.mapCode change }

/-- Functions that agree on one side are the same without the other. -/
theorem Function.AgreesOn.mapCode_only_eq {revert : Bool} {f g : Function}
    (h : f.AgreesOn revert g) :
    f.mapCode (.only revert) = g.mapCode (.only revert) := by
  obtain ⟨name, parameters, body⟩ := f
  obtain ⟨name', parameters', body'⟩ := g
  obtain ⟨rfl, rfl, hbody⟩ := h
  cases hbody with
  | calls inner => rfl
  | code hside =>
    have honly : ∀ code : FunctionCode, code.only revert =
        if revert then ⟨"", code.side revert⟩ else ⟨code.side revert, ""⟩ := by
      intro code
      cases revert <;> rfl
    simp only [mapCode, FunctionBody.mapCode, honly, hside]

namespace Registry

variable {r s : Registry} {calls : List Call} {change : FunctionCode → FunctionCode}
  {effect : Compiled → Compiled}

/-- The registry with the codes of its functions changed. -/
def mapCode (change : FunctionCode → FunctionCode) (r : Registry) : Registry where
  functions := r.functions.map (Function.mapCode change)
  distinct := by
    rw [List.map_map]
    exact r.distinct

/-- The registry in which every code reverts what it applied, and applies what it reverted. -/
def exchanged (r : Registry) : Registry := r.mapCode FunctionCode.exchanged

theorem find?_mapCode (change : FunctionCode → FunctionCode) (r : Registry) (name : String) :
    (r.mapCode change).find? name = (r.find? name).map (Function.mapCode change) := by
  unfold find? mapCode
  rw [List.find?_map, Option.filter_map]
  rfl

/-- A change that leaves one side of every code leaves that side of the functions. -/
theorem agreesOn_mapCode {revert : Bool}
    (h : ∀ code, code.side revert = (change code).side revert) :
    r.AgreesOn revert (r.mapCode change) := by
  have hfunction : ∀ f : Function, f.AgreesOn revert (f.mapCode change) := by
    rintro ⟨name, parameters, body⟩
    cases body with
    | code own => exact ⟨rfl, rfl, .code (h own)⟩
    | calls inner => exact ⟨rfl, rfl, .calls inner⟩
  constructor
  · intro f hf
    exact ⟨f.mapCode change, List.mem_map_of_mem hf, hfunction f⟩
  · intro g hg
    obtain ⟨f, hf, rfl⟩ := List.mem_map.mp hg
    exact ⟨f, hf, hfunction f⟩

/-- A call is admitted whatever the codes are. -/
theorem Admitted.mapCode {path : List String} {c : Call} {f : Function} (h : r.Admitted path c f)
    (change : FunctionCode → FunctionCode) :
    (r.mapCode change).Admitted path c (f.mapCode change) where
  registered := by rw [find?_mapCode, h.registered, Option.map_some]
  declared := h.declared
  fresh := h.fresh

/-- Whether a change of codes has an effect on the fragments that they are filled into, whatever the
arguments are, and the effect on fragments is the same before and after they are merged. -/
structure Carries (change : FunctionCode → FunctionCode) (effect : Compiled → Compiled) : Prop where
  filled : ∀ (code : FunctionCode) (a : Arguments) (fragment : Compiled),
    fillCode code a = .ok fragment → fillCode (change code) a = .ok (effect fragment)
  merged : ∀ fragments, Compiled.merge (fragments.map effect) = effect (Compiled.merge fragments)

/-- If each call is expanded to the fragments of another run with the effect on them, so are
sequences of calls. -/
theorem expandEach_map {expandOne expandOther : Call → Except Error (List Compiled)}
    (h : ∀ c own, expandOne c = .ok own → expandOther c = .ok (own.map effect))
    {fragments : List Compiled} (hexpand : expandEach expandOne calls = .ok fragments) :
    expandEach expandOther calls = .ok (fragments.map effect) := by
  induction calls generalizing fragments with
  | nil =>
    obtain rfl := Except.ok.inj hexpand
    rfl
  | cons c rest ih =>
    obtain ⟨own, others, hown, hothers, rfl⟩ := expandEach_cons_eq_ok_iff.mp hexpand
    exact expandEach_cons_eq_ok_iff.mpr
      ⟨own.map effect, others.map effect, h c own hown, ih hothers, List.map_append.symm⟩

/-- A change that carries over does so for a call at any depth. -/
theorem expand_mapCode (h : Carries change effect) {room : Nat} {path : List String} {c : Call}
    {fragments : List Compiled} (hexpand : r.expand room path c = .ok fragments) :
    (r.mapCode change).expand room path c = .ok (fragments.map effect) := by
  induction room generalizing path c fragments with
  | zero =>
    obtain ⟨f, less, -, hzero, -⟩ := admitted_of_expand_eq_ok hexpand
    omega
  | succ room ih =>
    obtain ⟨f, less, hadmitted, hless, hbody⟩ := admitted_of_expand_eq_ok hexpand
    obtain rfl : room = less := by omega
    rw [expand_succ_of_admitted (hadmitted.mapCode change), Function.mapCode]
    cases hcalls : f.body with
    | code code =>
      rw [hcalls] at hbody
      obtain ⟨fragment, hfragment, hresult⟩ := bind_eq_ok_iff.mp hbody
      obtain rfl := Except.ok.inj hresult
      exact bind_eq_ok_iff.mpr ⟨effect fragment, h.filled code _ fragment hfragment, rfl⟩
    | calls inner =>
      rw [hcalls] at hbody
      -- the arguments of the calls in a body are filled in without a look at any code
      refine expandEach_map (fun d own hown ↦ ?_) hbody
      obtain ⟨filled, hfilled, hinner⟩ := expandInner_eq_ok_iff.mp hown
      exact expandInner_eq_ok_iff.mpr ⟨filled, hfilled, ih hinner⟩

/-- A change that carries over does so for what calls compile to. -/
theorem compile_mapCode (h : Carries change effect) {compiled : Compiled}
    (hcompile : r.compile calls = .ok compiled) :
    (r.mapCode change).compile calls = .ok (effect compiled) := by
  obtain ⟨fragments, hfragments, rfl⟩ := compile_eq_ok_iff.mp hcompile
  exact compile_eq_ok_iff.mpr ⟨fragments.map effect,
    expandEach_map (fun _ _ hown ↦ expand_mapCode h hown) hfragments, h.merged fragments⟩

/-! ### The changes -/

/-- Exchanging the codes of functions exchanges what calls compile to. -/
theorem carries_exchanged : Carries FunctionCode.exchanged Compiled.exchanged where
  filled code a fragment h := fillCode_eq_ok_iff.mpr (fillCode_eq_ok_iff.mp h).symm
  merged fragments := by simp [Compiled.merge, Compiled.exchanged, Function.comp_def]

/-- Exchanged twice, the codes are what they were. -/
theorem exchanged_exchanged (r : Registry) : r.exchanged.exchanged = r := by
  have hfunction : Function.mapCode .exchanged ∘ Function.mapCode .exchanged = id := by
    funext ⟨name, parameters, body⟩
    cases body <;> rfl
  obtain ⟨functions, distinct⟩ := r
  unfold exchanged mapCode
  simp only [List.map_map, hfunction, List.map_id]

/-- Merging nothing but empty parts gives nothing. -/
theorem mergeParts_replicate_empty (count : Nat) : mergeParts (List.replicate count "") = "" := by
  refine mergeParts_eq_empty_iff.mpr fun part hpart ↦ ?_
  obtain rfl := List.eq_of_mem_replicate hpart
  rfl

/-- Emptying one side of the codes of functions empties that side of what calls compile to. -/
theorem carries_only (revert : Bool) : Carries (.only revert) (.only revert) where
  filled code a fragment h := by
    obtain ⟨hexecute, hrevert⟩ := fillCode_eq_ok_iff.mp h
    cases revert with
    | false => exact fillCode_eq_ok_iff.mpr ⟨hexecute, a.fill_empty⟩
    | true => exact fillCode_eq_ok_iff.mpr ⟨a.fill_empty, hrevert⟩
  merged fragments := by
    cases revert <;>
      simp [Compiled.merge, Compiled.only, Function.comp_def, mergeParts_replicate_empty]

/-- Registries that agree on one side find the same functions without the other. -/
theorem find?_mapCode_only_eq {revert : Bool} (h : r.AgreesOn revert s) (name : String) :
    (s.mapCode (.only revert)).find? name = (r.mapCode (.only revert)).find? name := by
  refine find?_eq_of_mem_iff fun f _ ↦ ?_
  unfold mapCode
  rw [List.mem_map, List.mem_map]
  constructor
  · rintro ⟨g, hg, rfl⟩
    obtain ⟨own, hown, hagrees⟩ := h.right g hg
    exact ⟨own, hown, hagrees.mapCode_only_eq⟩
  · rintro ⟨own, hown, rfl⟩
    obtain ⟨g, hg, hagrees⟩ := h.left own hown
    exact ⟨g, hg, hagrees.mapCode_only_eq.symm⟩

/-! ### The two sides of what is compiled -/

/-- What calls compile to has two sides that do not depend on each other. Registries with the same
functions up to the codes of one side compile the same calls to the same text on the other side, if
both compile them. And exchanging the two codes of every function exchanges the two texts: calls
compile exactly if they do with the codes exchanged, to the one result and to the other. -/
theorem compile_sides (r : Registry) (calls : List Call) :
    (∀ (revert : Bool) (s : Registry) (own other : Compiled), r.AgreesOn revert s →
      r.compile calls = .ok own → s.compile calls = .ok other →
        own.side revert = other.side revert) ∧
    ∀ compiled : Compiled,
      r.exchanged.compile calls = .ok compiled.exchanged ↔ r.compile calls = .ok compiled := by
  constructor
  · intro revert s own other hagrees hown hother
    have hsame : (s.mapCode (.only revert)).compile calls =
        (r.mapCode (.only revert)).compile calls :=
      compile_congr_of_reaches fun name _ ↦ find?_mapCode_only_eq hagrees name
    rw [compile_mapCode (carries_only revert) hother,
      compile_mapCode (carries_only revert) hown] at hsame
    exact Compiled.side_eq_of_only_eq (Except.ok.inj hsame).symm
  · intro compiled
    constructor
    · intro h
      have hagain := compile_mapCode carries_exchanged h
      rwa [← exchanged, r.exchanged_exchanged] at hagain
    · exact compile_mapCode carries_exchanged

/-- Code that applies as it did and reverts by a remark. -/
def remarking (code : FunctionCode) : FunctionCode := { code with revert := "rem" }

/-- The functions of `Generated.printContext`, reverting by remarks. -/
def remarkRegistry : Registry := Generated.printContext.functions.mapCode remarking

/-- Two registries that revert the same calls differently and apply them in the same way, and the
calls with the codes of the first registry exchanged. -/
theorem compile_sides_print :
    Generated.printContext.functions.AgreesOn false remarkRegistry ∧
      ∃ own other : Compiled,
        Generated.printContext.functions.compile Generated.printCalls = .ok own ∧
        remarkRegistry.compile Generated.printCalls = .ok other ∧
        own.revertCode = "echo undo" ∧ other.revertCode = "rem\nrem\nrem" ∧
        own.code = other.code ∧
        Generated.printContext.functions.exchanged.compile Generated.printCalls =
          .ok own.exchanged := by
  have hown : Generated.printContext.functions.compile Generated.printCalls =
      .ok ⟨"echo a\rb\necho c", "echo undo"⟩ := eq_ok_of_toOption (by decide +kernel)
  have hother : remarkRegistry.compile Generated.printCalls =
      .ok ⟨"echo a\rb\necho c", "rem\nrem\nrem"⟩ := eq_ok_of_toOption (by decide +kernel)
  obtain ⟨hsides, hexchanged⟩ :=
    compile_sides Generated.printContext.functions Generated.printCalls
  have hagrees : Generated.printContext.functions.AgreesOn false remarkRegistry :=
    agreesOn_mapCode fun _ ↦ rfl
  have hcode := hsides false remarkRegistry _ _ hagrees hown hother
  exact ⟨hagrees, _, _, hown, hother, rfl, rfl, hcode, (hexchanged _).mpr hown⟩

end Registry

end Scriptorium
