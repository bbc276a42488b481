import Mathlib.Tactic.Choose
import Scriptorium.Proofs.CallExpansion
import Scriptorium.Proofs.Placeholder.Outline

/-!
# Outlines of calls

If the templates of a registry are plain, what a call compiles to is fixed but for the arguments,
which end up in it as they are. A `Fragment` is a compiled call with pieces for its text.
`Registry.fragments` expands a call without any arguments: what the function of the call is given is
kept as pieces in terms of the arguments at the top, and at every call in a body the outline of a
template is put together with those pieces (`substitute`).

The arguments of a call at some depth have the texts that their pieces say (`Realizes`), and this is
preserved from the arguments of a call to those of the calls in its body (`realizes_of_fillCall`).
So whatever the arguments at the top are, a call is expanded to its fragments with these arguments
in their places, if it is expanded for some arguments (`expand_eq_fragments`). No text of an
argument is read as a template on the way.
-/

set_option autoImplicit false
set_option relaxedAutoImplicit false

namespace Scriptorium

/-! ### Pieces in terms of other arguments -/

/-- A piece with others in the place of its argument. -/
def Piece.substitute (inner : String → Option (List Piece)) : Piece → List Piece
  | text content => [.text content]
  | argument name => (inner name).getD []

/-- Pieces with others in the places of arguments. -/
def substitute (inner : String → Option (List Piece)) (pieces : List Piece) : List Piece :=
  pieces.flatMap (Piece.substitute inner)

/-- Arguments that are what pieces say in terms of the arguments at the top. -/
def Realizes (inner : String → Option (List Piece)) (top a : Arguments) : Prop :=
  ∀ name, a.get? name = (inner name).map fun pieces ↦
    String.ofList (pieces.flatMap (Piece.fill top))

variable {inner : String → Option (List Piece)} {top a : Arguments}

/-- An argument is given exactly if it has a text. -/
theorem Arguments.mem_names_iff {name : String} : name ∈ a.names ↔ (a.get? name).isSome := by
  rw [← Option.ne_none_iff_isSome, get?, ne_eq, Template.lookup_eq_none_iff, not_not]
  rfl

/-- The arguments that are given are those that there are pieces for. -/
theorem Realizes.mem_names_iff (h : Realizes inner top a) {name : String} :
    name ∈ a.names ↔ (inner name).isSome := by
  rw [Arguments.mem_names_iff, h name, Option.isSome_map]

/-- A piece with others in the place of its argument says in terms of the arguments at the top what
the piece says in terms of the arguments that the others are for. -/
theorem flatMap_substitute_piece (h : Realizes inner top a) (piece : Piece) :
    (piece.substitute inner).flatMap (Piece.fill top) = piece.fill a := by
  cases piece with
  | text content => exact List.append_nil content
  | argument name =>
    rw [Piece.substitute, Piece.fill, h name]
    cases inner name with
    | none => rfl
    | some own => exact (String.toList_ofList).symm

/-- Pieces with others in the places of arguments say in terms of the arguments at the top what the
pieces say in terms of the arguments that the others are for. -/
theorem flatMap_substitute (h : Realizes inner top a) (pieces : List Piece) :
    (substitute inner pieces).flatMap (Piece.fill top) = pieces.flatMap (Piece.fill a) := by
  rw [substitute, List.flatMap_assoc]
  exact congrArg (List.flatMap · pieces) (funext fun piece ↦ flatMap_substitute_piece h piece)

/-- What pieces with others in the places of arguments stand for, some of the others do. -/
theorem exists_of_argument_mem_substitute {pieces : List Piece} {name : String}
    (h : .argument name ∈ substitute inner pieces) :
    ∃ between own, inner between = some own ∧ .argument name ∈ own := by
  obtain ⟨piece, -, hpiece⟩ := List.mem_flatMap.mp h
  cases piece with
  | text content => cases List.mem_singleton.mp hpiece
  | argument between =>
    rw [Piece.substitute] at hpiece
    cases hinner : inner between with
    | none =>
      rw [hinner] at hpiece
      cases hpiece
    | some own =>
      rw [hinner] at hpiece
      exact ⟨between, own, hinner, hpiece⟩

/-! ### Fragments -/

/-- A compiled call with pieces for its text. -/
structure Fragment where
  execute : List Piece
  revert : List Piece
  deriving DecidableEq

namespace Fragment

/-- A fragment with arguments in their places. -/
def fill (a : Arguments) (fragment : Fragment) : Compiled :=
  ⟨String.ofList (fragment.execute.flatMap (Piece.fill a)),
    String.ofList (fragment.revert.flatMap (Piece.fill a))⟩

/-- Whether a fragment has a place for an argument. -/
def RefersTo (fragment : Fragment) (name : String) : Prop :=
  .argument name ∈ fragment.execute ∨ .argument name ∈ fragment.revert

end Fragment

namespace Registry

open Template (Layout)

variable {r : Registry} {outline : String → List Piece}

/-- The fragments of a call with pieces for its arguments, from outlines of all templates. -/
def fragments (r : Registry) (outline : String → List Piece) :
    Nat → (String → Option (List Piece)) → String → List Fragment
  | 0, _, _ => []
  | room + 1, inner, function =>
    match r.find? function with
    | none => []
    | some f =>
      match f.body with
      | .code code =>
        [⟨substitute inner (outline code.execute), substitute inner (outline code.revert)⟩]
      | .calls calls =>
        calls.flatMap fun c ↦
          r.fragments outline room (fun name ↦ (c.arguments.get? name).map fun text ↦
            substitute inner (outline text)) c.function

/-- The fragment of a function with code. -/
theorem fragments_of_code {room : Nat} {function : String} {f : Function} {code : FunctionCode}
    (hfind : r.find? function = some f) (hcode : f.body = .code code) :
    r.fragments outline (room + 1) inner function =
      [⟨substitute inner (outline code.execute), substitute inner (outline code.revert)⟩] := by
  rw [fragments, hfind]
  dsimp only
  rw [hcode]

/-- The fragments of a function with calls are those of the calls. -/
theorem fragments_of_calls {room : Nat} {function : String} {f : Function} {calls : List Call}
    (hfind : r.find? function = some f) (hcalls : f.body = .calls calls) :
    r.fragments outline (room + 1) inner function =
      calls.flatMap fun c ↦
        r.fragments outline room (fun name ↦ (c.arguments.get? name).map fun text ↦
          substitute inner (outline text)) c.function := by
  rw [fragments, hfind]
  dsimp only
  rw [hcalls]

/-- A fragment has places only for arguments that the pieces of the call stand for. -/
theorem exists_of_refersTo {room : Nat} {function : String} {fragment : Fragment} {name : String}
    (hmem : fragment ∈ r.fragments outline room inner function) (hname : fragment.RefersTo name) :
    ∃ between own, inner between = some own ∧ .argument name ∈ own := by
  induction room generalizing inner function with
  | zero => cases hmem
  | succ room ih =>
    rw [fragments] at hmem
    split at hmem
    · cases hmem
    · split at hmem
      · obtain rfl := List.mem_singleton.mp hmem
        rcases hname with hexecute | hrevert
        · exact exists_of_argument_mem_substitute hexecute
        · exact exists_of_argument_mem_substitute hrevert
      · obtain ⟨c, -, hown⟩ := List.mem_flatMap.mp hmem
        obtain ⟨between, own, hbetween, harg⟩ := ih hown
        obtain ⟨text, -, rfl⟩ := Option.map_eq_some_iff.mp hbetween
        exact exists_of_argument_mem_substitute harg

/-! ### Calls in a body -/

/-- A template with an outline is filled in alike from arguments that are given alike. -/
theorem fill_eq_substitute {pieces : List Piece} {code : String} (houtline : Outlines pieces code)
    (h : Realizes inner top a) (hgiven : ∀ name, .argument name ∈ pieces → (inner name).isSome) :
    a.fill code = .ok (String.ofList ((substitute inner pieces).flatMap (Piece.fill top))) := by
  rw [flatMap_substitute h]
  exact houtline.filled a fun name hname ↦ h.mem_names_iff.mpr (hgiven name hname)

/-- If a template with an outline can be filled in, the arguments that the outline stands for have
pieces. -/
theorem isSome_of_fill_eq_ok {pieces : List Piece} {code text : String}
    (houtline : Outlines pieces code)
    (h : Realizes inner top a) (hfill : a.fill code = .ok text) (name : String)
    (hname : .argument name ∈ pieces) :
    (inner name).isSome :=
  h.mem_names_iff.mp (houtline.given hfill name hname)

/-- The arguments of a call in a body are what the outlines of their templates say in terms of the
arguments at the top. -/
theorem realizes_of_fillCall {c filled : Call} (h : Realizes inner top a)
    (hfilled : fillCall a c = .ok filled)
    (houtline : ∀ entry ∈ c.arguments.entries, Outlines (outline entry.2) entry.2) :
    Realizes (fun name ↦ (c.arguments.get? name).map fun text ↦ substitute inner (outline text)) top
      filled.arguments := by
  obtain ⟨hall, hget⟩ := get?_of_fillCall hfilled
  intro name
  show filled.arguments.get? name =
    ((c.arguments.get? name).map fun text ↦ substitute inner (outline text)).map _
  rw [hget name]
  cases htext : c.arguments.get? name with
  | none => rfl
  | some text =>
    obtain ⟨before, after, hentries, -⟩ := List.lookup_eq_some_iff.mp htext
    have hmem : (name, text) ∈ c.arguments.entries := by
      rw [hentries]
      exact List.mem_append_right _ List.mem_cons_self
    obtain ⟨result, hresult⟩ := hall _ hmem
    have hfill := fill_eq_substitute (houtline _ hmem) h
      (isSome_of_fill_eq_ok (houtline _ hmem) h hresult)
    rw [Option.bind_some, hfill]
    rfl

/-- If a call in a body can be filled in from some arguments, it can be filled in from all that are
given alike. -/
theorem exists_fillCall_of_realizes {c filled : Call} {other b : Arguments}
    (h : Realizes inner top a)
    (hb : Realizes inner other b) (hfilled : fillCall a c = .ok filled)
    (houtline : ∀ entry ∈ c.arguments.entries, Outlines (outline entry.2) entry.2) :
    ∃ filledOther, fillCall b c = .ok filledOther := by
  obtain ⟨hall, -⟩ := get?_of_fillCall hfilled
  refine exists_fillCall fun entry hentry ↦ ?_
  obtain ⟨result, hresult⟩ := hall entry hentry
  exact ⟨_, fill_eq_substitute (houtline entry hentry) hb
    (isSome_of_fill_eq_ok (houtline entry hentry) h hresult)⟩

/-! ### Expansion -/

/-- Code with outlines is filled in alike from arguments that are given alike. -/
theorem fillCode_eq_fill {code : FunctionCode} {compiled : Compiled} {other b : Arguments}
    (hexecute : Outlines (outline code.execute) code.execute)
    (hrevert : Outlines (outline code.revert) code.revert)
    (h : Realizes inner top a) (hb : Realizes inner other b)
    (hfilled : fillCode code a = .ok compiled) :
    fillCode code b =
      .ok (Fragment.fill other
        ⟨substitute inner (outline code.execute), substitute inner (outline code.revert)⟩) := by
  obtain ⟨hfirst, hsecond⟩ := fillCode_eq_ok_iff.mp hfilled
  exact fillCode_eq_ok_iff.mpr
    ⟨fill_eq_substitute hexecute hb (isSome_of_fill_eq_ok hexecute h hfirst),
      fill_eq_substitute hrevert hb (isSome_of_fill_eq_ok hrevert h hsecond)⟩

/-- A call that is expanded for some arguments is expanded for all that are given alike, to its
fragments with the arguments at the top in their places. Assumes: every template of the registry has
an outline. -/
theorem expand_eq_fragments
    (houtline : ∀ f ∈ r.functions, ∀ code ∈ f.templates, Outlines (outline code) code)
    {room : Nat} {path : List String} {c d : Call} {other : Arguments} {compiled : List Compiled}
    (hsame : d.function = c.function) (hc : Realizes inner top c.arguments)
    (hd : Realizes inner other d.arguments)
    (h : r.expand room path c = .ok compiled) :
    r.expand room path d =
      .ok ((r.fragments outline room inner c.function).map (Fragment.fill other)) := by
  induction room generalizing path c d inner compiled with
  | zero =>
    obtain ⟨f, less, -, hroom, -⟩ := admitted_of_expand_eq_ok h
    cases hroom
  | succ room ih =>
    obtain ⟨f, less, hadmitted, hroom, hbody⟩ := admitted_of_expand_eq_ok h
    obtain rfl : room = less := Nat.succ.inj hroom
    have hother : r.Admitted path d f := by
      refine ⟨hsame ▸ hadmitted.registered, ?_, hsame ▸ hadmitted.fresh⟩
      intro name hname
      exact hadmitted.declared name (hc.mem_names_iff.mpr (hd.mem_names_iff.mp hname))
    have houtlines := houtline f (find?_eq_some_iff.mp hadmitted.registered).1
    rw [expand_succ_of_admitted hother, hsame]
    cases hcalls : f.body with
    | code code =>
      rw [hcalls] at hbody
      have htemplates : f.templates = [code.execute, code.revert] := by
        rw [Function.templates, hcalls]
      have hexecute := houtlines code.execute (htemplates ▸ List.mem_cons_self)
      have hrevert := houtlines code.revert (htemplates ▸ List.mem_cons_of_mem _ List.mem_cons_self)
      obtain ⟨own, hown, -⟩ := bind_eq_ok_iff.mp hbody
      rw [expandBody, fillCode_eq_fill hexecute hrevert hc hd hown,
        fragments_of_code hadmitted.registered hcalls]
      rfl
    | calls calls =>
      rw [hcalls] at hbody
      have htemplates : ∀ inner ∈ calls, ∀ entry ∈ inner.arguments.entries,
          Outlines (outline entry.2) entry.2 := by
        intro inner hinner entry hentry
        refine houtlines entry.2 ?_
        rw [Function.templates, hcalls]
        exact List.mem_flatMap.mpr ⟨inner, hinner, List.mem_map_of_mem hentry⟩
      have heach : ∀ inside ∈ calls, r.expandInner room (path ++ [c.function]) d.arguments inside =
          .ok ((r.fragments outline room (fun name ↦ (inside.arguments.get? name).map fun text ↦
            substitute inner (outline text)) inside.function).map (Fragment.fill other)) := by
        intro inside hinside
        obtain ⟨own, hown⟩ := exists_of_expandEach_eq_ok hbody hinside
        obtain ⟨filled, hfilled, hexpand⟩ := expandInner_eq_ok_iff.mp hown
        obtain ⟨filledOther, hfilledOther⟩ :=
          exists_fillCall_of_realizes hc hd hfilled (htemplates inside hinside)
        have hnames : filledOther.function = filled.function :=
          (fillCall_eq_ok hfilledOther).1.trans (fillCall_eq_ok hfilled).1.symm
        refine expandInner_eq_ok_iff.mpr ⟨filledOther, hfilledOther, ?_⟩
        rw [ih hnames (realizes_of_fillCall hc hfilled (htemplates inside hinside))
          (realizes_of_fillCall hd hfilledOther (htemplates inside hinside)) hexpand,
          (fillCall_eq_ok hfilled).1]
      rw [expandBody, expandEach_eq_ok_flatMap heach,
        fragments_of_calls hadmitted.registered hcalls, List.map_flatMap]

/-! ### Compilation -/

/-- A registry whose templates are plain. -/
def IsPlain (r : Registry) : Prop :=
  ∀ f ∈ r.functions, ∀ template ∈ f.templates, Template.IsPlain template.toList

/-- The pieces of arguments at the top: each is its own place. -/
def ownPieces (names : List String) (name : String) : Option (List Piece) :=
  if name ∈ names then some [.argument name] else none

/-- Arguments at the top are what their own pieces say. -/
theorem realizes_ownPieces {names : List String} (h : ∀ name, name ∈ a.names ↔ name ∈ names) :
    Realizes (ownPieces names) a a := by
  intro name
  rw [ownPieces]
  by_cases hname : name ∈ names
  · obtain ⟨text, htext⟩ := Option.isSome_iff_exists.mp
      (Arguments.mem_names_iff.mp ((h name).mpr hname))
    rw [if_pos hname, htext]
    simp [Piece.fill, htext]
  · have hnone : a.get? name = none := by
      rw [← Option.not_isSome_iff_eq_none, ← Arguments.mem_names_iff, h name]
      exact hname
    rw [if_neg hname, hnone]
    rfl

/-- What a call compiles to depends on its arguments only in that they end up in it as they are.
There are fragments for the function and the names of the arguments, with places for arguments of
these names alone. If the call compiles for some arguments of these names, it compiles for all of
them, to the merged fragments with the arguments in their places.

Assumes: the templates of the registry are text and placeholders without filters. -/
theorem compile_fragments (hplain : r.IsPlain) {function : String} (hnamed : function ≠ "")
    (names : List String) :
    ∃ fragments : List Fragment,
      (∀ fragment ∈ fragments, ∀ name, fragment.RefersTo name → name ∈ names) ∧
      ∀ given : Arguments, (∀ name, name ∈ given.names ↔ name ∈ names) →
        ∀ compiled, r.compile [⟨function, given, hnamed⟩] = .ok compiled →
          ∀ other : Arguments, (∀ name, name ∈ other.names ↔ name ∈ names) →
            r.compile [⟨function, other, hnamed⟩] =
              .ok (Compiled.merge (fragments.map (Fragment.fill other))) := by
  have houtlines : ∀ code, ∃ pieces, (∃ f ∈ r.functions, code ∈ f.templates) →
      Outlines pieces code := by
    intro code
    by_cases hcode : ∃ f ∈ r.functions, code ∈ f.templates
    · obtain ⟨f, hf, htemplate⟩ := hcode
      obtain ⟨pieces, hpieces⟩ := Template.exists_outlines (hplain f hf code htemplate)
      exact ⟨pieces, fun _ ↦ hpieces⟩
    · exact ⟨[], fun hmem ↦ absurd hmem hcode⟩
  choose outline houtline using houtlines
  refine ⟨r.fragments outline callLimit (ownPieces names) function, ?_, ?_⟩
  · intro fragment hfragment name hname
    obtain ⟨between, own, hown, hmem⟩ := exists_of_refersTo hfragment hname
    rw [ownPieces] at hown
    by_cases hbetween : between ∈ names
    · rw [if_pos hbetween] at hown
      obtain rfl := Option.some.inj hown
      obtain rfl := Piece.argument.inj (List.mem_singleton.mp hmem)
      exact hbetween
    · rw [if_neg hbetween] at hown
      cases hown
  · intro given hgiven compiled h other hother
    obtain ⟨expanded, hexpanded, -⟩ := compile_eq_ok_iff.mp h
    rw [expandEach_singleton] at hexpanded
    have hexpand := expand_eq_fragments (c := ⟨function, given, hnamed⟩)
      (d := ⟨function, other, hnamed⟩)
      (fun f hf code hcode ↦ houtline code ⟨f, hf, hcode⟩) rfl (realizes_ownPieces hgiven)
      (realizes_ownPieces hother) hexpanded
    refine compile_eq_ok_iff.mpr ⟨_, ?_, rfl⟩
    rwa [expandEach_singleton]

/-- Code with a placeholder for the text that is printed. -/
def sayLayout : Layout :=
  ⟨"echo ".toList, [({ blanks := [' ', ' '], name := "text", filters := [] }, [])]⟩

/-- A template with a placeholder for a name. -/
def greetLayout : Layout :=
  ⟨"hi ".toList, [({ blanks := [' ', ' '], name := "name", filters := [] }, [])]⟩

/-- A function that prints its argument. -/
def sayFunction : Function := ⟨"Say", [⟨"text", true⟩], .code ⟨String.ofList sayLayout.written, ""⟩⟩

/-- A call of it with a template for its argument. -/
def sayCall : Call := ⟨"Say", ⟨[("text", String.ofList greetLayout.written)], by decide⟩, by decide⟩

/-- A function that hands its argument on to the other. -/
def greetFunction : Function := ⟨"Greet", [⟨"name", true⟩], .calls [sayCall]⟩

/-- The registry of both. -/
def greetRegistry : Registry := ⟨[sayFunction, greetFunction], by decide +kernel⟩

/-- A call of the second. -/
def greetCall : Call := ⟨"Greet", ⟨[("name", "you")], by decide⟩, by decide⟩

/-- The templates of both functions are plain. -/
theorem isPlain_greetRegistry : greetRegistry.IsPlain := by
  intro f hf template htemplate
  rcases List.mem_cons.mp hf with rfl | hgreet
  · rcases List.mem_cons.mp htemplate with rfl | hrevert
    · exact .layout sayLayout String.toList_ofList.symm (by decide) (by decide)
    · obtain rfl := List.mem_singleton.mp hrevert
      exact .layout ⟨[], []⟩ rfl rfl (by decide)
  · obtain rfl := List.mem_singleton.mp hgreet
    obtain rfl := List.mem_singleton.mp htemplate
    exact .layout greetLayout String.toList_ofList.symm (by decide) (by decide)

/-- A greeting compiles. -/
theorem exists_compile_greetCall :
    ∃ compiled, greetRegistry.compile [greetCall] = .ok compiled := by
  have hgreet : Outlines (greetLayout.mapText Text.unifyNewlines).pieces
      (String.ofList greetLayout.written) :=
    Template.outlines_layout String.toList_ofList.symm (by decide) (by decide) (by decide)
  have hsay : Outlines (sayLayout.mapText Text.unifyNewlines).pieces
      (String.ofList sayLayout.written) :=
    Template.outlines_layout String.toList_ofList.symm (by decide) (by decide) (by decide)
  obtain ⟨filled, hfilled⟩ : ∃ filled, fillCall greetCall.arguments sayCall = .ok filled := by
    refine exists_fillCall fun entry hentry ↦ ?_
    obtain rfl := List.mem_singleton.mp hentry
    refine ⟨_, hgreet.filled _ fun name hname ↦ ?_⟩
    obtain rfl := List.mem_singleton.mp (Template.argument_mem_pieces.mp hname)
    exact List.mem_cons_self
  obtain ⟨hfunction, hnames⟩ := fillCall_eq_ok hfilled
  obtain ⟨execute, hexecute⟩ : ∃ text, filled.arguments.fill (String.ofList sayLayout.written) =
      .ok text := by
    refine ⟨_, hsay.filled filled.arguments fun name hname ↦ ?_⟩
    obtain rfl := List.mem_singleton.mp (Template.argument_mem_pieces.mp hname)
    rw [hnames]
    exact List.mem_cons_self
  have hcode : fillCode ⟨String.ofList sayLayout.written, ""⟩ filled.arguments =
      .ok ⟨execute, ""⟩ := fillCode_eq_ok_iff.mpr ⟨hexecute, filled.arguments.fill_empty⟩
  have hadmitted : greetRegistry.Admitted [] greetCall greetFunction := by
    refine ⟨by decide +kernel, ?_, List.not_mem_nil⟩
    intro name hname
    exact hname
  have hinside : greetRegistry.Admitted ["Greet"] filled sayFunction := by
    refine ⟨by rw [hfunction]; decide +kernel, ?_, by rw [hfunction]; decide⟩
    intro name hname
    rw [hnames] at hname
    exact hname
  have hexpand : greetRegistry.expand 63 ["Greet"] filled = .ok [⟨execute, ""⟩] := by
    rw [expand_succ_of_admitted hinside, sayFunction, expandBody, hcode]
    rfl
  refine ⟨Compiled.merge [⟨execute, ""⟩], compile_eq_ok_iff.mpr ⟨_, ?_, rfl⟩⟩
  rw [expandEach_singleton, show callLimit = 63 + 1 from rfl, expand_succ_of_admitted hadmitted]
  show expandEach (greetRegistry.expandInner 63 ["Greet"] greetCall.arguments) [sayCall] = _
  rw [expandEach_singleton]
  exact expandInner_eq_ok_iff.mpr ⟨filled, hfilled, hexpand⟩

/-- A greeting compiles to the same fragments for every name, even one that has the form of a
tag. -/
theorem compile_fragments_greet :
    greetRegistry.IsPlain ∧ ∃ fragments : List Fragment,
      (∀ fragment ∈ fragments, ∀ name, fragment.RefersTo name → name ∈ ["name"]) ∧
      ∀ other : Arguments, (∀ name, name ∈ other.names ↔ name ∈ ["name"]) →
        greetRegistry.compile [⟨"Greet", other, by decide⟩] =
          .ok (Compiled.merge (fragments.map (Fragment.fill other))) := by
  obtain ⟨compiled, hcompiled⟩ := exists_compile_greetCall
  obtain ⟨fragments, hrefers, hfragments⟩ :=
    compile_fragments isPlain_greetRegistry (by decide : "Greet" ≠ "") ["name"]
  exact ⟨isPlain_greetRegistry, fragments, hrefers,
    hfragments greetCall.arguments (fun name ↦ Iff.rfl) compiled hcompiled⟩

end Registry

end Scriptorium
