import Mathlib.Data.List.Forall2
import Mathlib.Data.List.Nodup
import Scriptorium.Proofs.CallExpansion
import Scriptorium.Registry.Definition

/-!
# Lists of function definitions

Which lists of definitions make a registry, said without the order in which they are looked at. A
definition describes a function if it passes the checks of its own and is built
(`Definition.Function.Describes`). Two definitions can stand in one list if their names differ in
more than case and they share neither code nor revert code (`Definition.Function.IsApart`).

The checks go through the list with what was seen before: keys of names, owners of codes, keys of
functions. Each of them is told by what it passes, with the seen part as a variable
(`checkFunctions_eq_ok_iff`, `firstShared?_eq_none_iff`, `firstRepeated?_eq_none_iff`), and is about
pairs once nothing was seen. `ofDefinitions?_eq_ok_iff` puts them together: a list makes a registry
exactly if its definitions are apart from each other and each describes the function that stands in
its place. `ofValues?_eq_ok_iff` adds that the definitions are read from raw values.
-/

set_option autoImplicit false
set_option relaxedAutoImplicit false

namespace Scriptorium

namespace Definition

/-- What two functions of a list must not have in common: the name without regard to case. -/
def Function.key (d : Definition.Function) : List Char := Text.lowercase (d.name.getD "").toList

/-- Whether a definition passes the checks of its own. -/
structure Function.IsComplete (d : Definition.Function) (name : String) : Prop where
  named : d.name = some name
  name_ne : name ≠ ""
  body : d.checkBody name = .ok ()
  parameters : checkParameters name [] d.parameters = .ok ()

/-- Whether a definition passes the checks of its own and is built into a function. -/
structure Function.Describes (d : Definition.Function) (f : Scriptorium.Function) : Prop where
  complete : d.IsComplete f.name
  built : d.build = .ok f

/-- Whether two definitions can stand in one list. -/
structure Function.IsApart (d e : Definition.Function) : Prop where
  key : d.key ≠ e.key
  code : hasText d.code → d.code ≠ e.code
  revertCode : hasText d.revertCode → d.revertCode ≠ e.revertCode

theorem Function.IsApart.symm {d e : Definition.Function} (h : d.IsApart e) : e.IsApart d where
  key := h.key.symm
  code := fun he heq ↦ h.code (heq ▸ he) heq.symm
  revertCode := fun he heq ↦ h.revertCode (heq ▸ he) heq.symm

/-! ### Each by itself -/

/-- The calls of a function, one call as a list of one. -/
def Function.listedCalls (d : Definition.Function) : List Call := (d.calls.map Calls.toList).getD []

/-- What a function is built from: a name, and code or calls that can be built. -/
theorem Function.build_eq_ok_iff {d : Definition.Function} {f : Scriptorium.Function} :
    d.build = .ok f ↔
      d.name.getD "" ≠ "" ∧ f.name = d.name.getD "" ∧
        f.parameters = (d.parameters.map fun p ↦ ⟨p.name.getD "", p.required⟩) ∧
        (hasText d.code = true → f.body = .code ⟨d.code.getD "", d.revertCode.getD ""⟩) ∧
        (hasText d.code = false →
          ∃ calls, buildCalls d.listedCalls = .ok calls ∧ f.body = .calls calls) := by
  obtain ⟨name, parameters, body⟩ := f
  rw [build]
  by_cases hname : d.name.getD "" = ""
  · simp [hname, bind, Except.bind, throw, throwThe, MonadExceptOf.throw]
  · rw [if_neg hname]
    cases htext : hasText d.code with
    | true =>
      constructor
      · intro h
        cases h
        exact ⟨hname, rfl, rfl, fun _ ↦ rfl, fun hno ↦ Bool.noConfusion hno⟩
      · rintro ⟨-, rfl, rfl, hbody, -⟩
        rw [← hbody rfl]
        rfl
    | false =>
      constructor
      · intro h
        simp only [Bool.false_eq_true, if_false] at h
        split at h
        · rename_i calls hcalls
          cases h
          exact ⟨hname, rfl, rfl, fun hno ↦ Bool.noConfusion hno, fun _ ↦ ⟨calls, hcalls, rfl⟩⟩
        · cases h
        · cases h
      · rintro ⟨-, rfl, rfl, -, hbody⟩
        obtain ⟨calls, hcalls, hown⟩ := hbody rfl
        rw [listedCalls] at hcalls
        simp only [Bool.false_eq_true, if_false, hcalls]
        rw [← hown]
        rfl

/-- The function that is built has the name and the parameters of the definition. -/
theorem Function.head_of_build {d : Definition.Function} {f : Scriptorium.Function}
    (h : d.build = .ok f) :
    f.name = d.name.getD "" ∧
      f.parameters = d.parameters.map fun p ↦ ⟨p.name.getD "", p.required⟩ := by
  obtain ⟨-, hname, hparameters, -⟩ := build_eq_ok_iff.mp h
  exact ⟨hname, hparameters⟩

/-- Functions are built exactly if each is, one for each definition. -/
theorem buildFunctions_eq_ok_iff {definitions : List Definition.Function}
    {functions : List Scriptorium.Function} :
    buildFunctions definitions = .ok functions ↔
      List.Forall₂ (fun d f ↦ Function.build d = .ok f) definitions functions :=
  sequence_eq_ok_iff Function.build buildFunctions rfl fun _ _ ↦ rfl

/-- Raw definitions are read exactly if each is; what is missing is never read. -/
theorem readFunctions_eq_ok_iff {values : List Value} {definitions : List Definition.Function} :
    readFunctions values = .ok definitions ↔
      List.Forall₂ (fun v d ↦ Function.read v = .accepted d) values definitions := by
  induction values generalizing definitions with
  | nil =>
    rw [readFunctions, List.forall₂_nil_left_iff]
    exact ⟨fun h ↦ (Except.ok.inj h).symm, fun h ↦ h ▸ rfl⟩
  | cons v rest ih =>
    rw [List.forall₂_cons_left_iff]
    by_cases hnull : v = .null
    · subst hnull
      have hread : ∀ d, Function.read .null ≠ .accepted d := fun d hd ↦ by cases hd
      simp [readFunctions, hread]
    · rw [readFunctions.eq_3 _ _ hnull, bind_eq_ok_iff]
      refine exists_congr fun d ↦ ?_
      rw [accept_eq_ok_iff]
      constructor
      · rintro ⟨hd, hothers⟩
        obtain ⟨others, hrest, hdefinitions⟩ := bind_eq_ok_iff.mp hothers
        exact ⟨others, hd, ih.mp hrest, (Except.ok.inj hdefinitions).symm⟩
      · rintro ⟨others, hd, hrest, rfl⟩
        exact ⟨hd, bind_eq_ok_iff.mpr ⟨others, ih.mpr hrest, rfl⟩⟩

/-! ### What was seen before -/

/-- What is looked at of the first definition of a list. -/
theorem checkFunctions_cons (seen : List (List Char)) (d : Definition.Function)
    (rest : List Definition.Function) :
    checkFunctions seen (d :: rest) =
      match d.name with
      | none => .error (.function .unnamed)
      | some name =>
        if name = "" then .error (.function .unnamed)
        else if Text.lowercase name.toList ∈ seen then .error (.repeatedFunction name)
        else
          d.checkBody name >>= fun _ ↦ checkParameters name [] d.parameters >>= fun _ ↦
            checkFunctions (Text.lowercase name.toList :: seen) rest :=
  rfl

/-- What the names, bodies and parameters of a list have to be, behind the names that were seen. -/
theorem checkFunctions_eq_ok_iff {seen : List (List Char)}
    {definitions : List Definition.Function} :
    checkFunctions seen definitions = .ok () ↔
      (∀ d ∈ definitions, ∃ name, d.IsComplete name) ∧
        (definitions.Pairwise fun d e ↦ d.key ≠ e.key) ∧ ∀ d ∈ definitions, d.key ∉ seen := by
  induction definitions generalizing seen with
  | nil =>
    have hnil : checkFunctions seen [] = .ok () := rfl
    simp [hnil]
  | cons d rest ih =>
    rw [checkFunctions_cons, List.forall_mem_cons, List.pairwise_cons, List.forall_mem_cons]
    cases hname : d.name with
    | none =>
      have hnone : ∀ name, ¬ d.IsComplete name := fun name h ↦ by simpa [hname] using h.named
      simp [hnone]
    | some name =>
      have hkey : d.key = Text.lowercase name.toList := by simp [Function.key, hname]
      have hown : ∀ other, d.IsComplete other → other = name := fun other h ↦ by
        simpa [hname, eq_comm] using h.named
      by_cases hempty : name = ""
      · have hnone : ∀ other, ¬ d.IsComplete other := fun other h ↦
          h.name_ne ((hown other h).trans hempty)
        simp [hempty, hnone]
      · by_cases hseen : d.key ∈ seen
        · simp [hempty, hkey ▸ hseen, hseen]
        · simp only [if_neg hempty, if_neg (hkey ▸ hseen)]
          rw [bind_eq_ok_iff]
          constructor
          · rintro ⟨_, hbody, hothers⟩
            obtain ⟨_, hparameters, hrest⟩ := bind_eq_ok_iff.mp hothers
            obtain ⟨hcomplete, hapart, hfresh⟩ := ih.mp hrest
            refine ⟨⟨⟨name, hname, hempty, hbody, hparameters⟩, hcomplete⟩, ⟨?_, hapart⟩, hseen, ?_⟩
            · intro e he heq
              exact hfresh e he (by rw [← heq, hkey]; exact List.mem_cons_self)
            · exact fun e he hold ↦ hfresh e he (List.mem_cons_of_mem _ hold)
          · rintro ⟨⟨⟨other, hcomplete⟩, hrest⟩, ⟨hfirst, hapart⟩, -, hfresh⟩
            obtain rfl := hown other hcomplete
            refine ⟨(), hcomplete.body, bind_eq_ok_iff.mpr ⟨(), hcomplete.parameters, ?_⟩⟩
            refine ih.mpr ⟨hrest, hapart, fun e he hold ↦ ?_⟩
            rcases List.mem_cons.mp hold with heq | hold
            · exact hfirst e he (hkey.trans heq.symm)
            · exact hfresh e he hold

/-- No code is shared exactly if each that is there differs from those after it and from those that
have an owner. -/
theorem firstShared?_eq_none_iff {owners : List (String × String)}
    {codes : List (String × Option String)} :
    firstShared? owners codes = none ↔
      (codes.Pairwise fun x y ↦ hasText x.2 → x.2 ≠ y.2) ∧
        ∀ x ∈ codes, hasText x.2 → ∀ owner ∈ owners, x.2 ≠ some owner.1 := by
  induction codes generalizing owners with
  | nil => simp [firstShared?]
  | cons entry rest ih =>
    obtain ⟨name, code⟩ := entry
    rw [List.pairwise_cons, List.forall_mem_cons]
    by_cases htext : hasText code
    · obtain ⟨text, rfl⟩ : ∃ text, code = some text := Option.isSome_iff_exists.mp (by
        cases code <;> simp_all [hasText])
      have hne : text ≠ "" := by simpa [hasText] using htext
      rw [firstShared?.eq_4 _ _ _ _ hne]
      cases howner : owners.lookup text with
      | some owner =>
        have hmem : ∃ o ∈ owners, text = o.1 := by
          by_contra hnone
          push Not at hnone
          rw [List.lookup_eq_none_iff.mpr fun o ho ↦ bne_iff_ne.mpr (hnone o ho)] at howner
          cases howner
        obtain ⟨o, ho, heq⟩ := hmem
        simp only [reduceCtorEq, false_iff]
        rintro ⟨-, hfirst, -⟩
        exact hfirst htext o ho (congrArg some heq)
      | none =>
        have hfresh : ∀ o ∈ owners, text ≠ o.1 := fun o ho ↦
          bne_iff_ne.mp (List.lookup_eq_none_iff.mp howner o ho)
        simp only [ih, List.forall_mem_cons]
        constructor
        · rintro ⟨hapart, hothers⟩
          refine ⟨⟨fun y hy _ heq ↦ ?_, hapart⟩, fun _ o ho heq ↦ hfresh o ho (Option.some.inj heq),
            fun x hx hx' ↦ (hothers x hx hx').2⟩
          exact (hothers y hy (heq ▸ htext)).1 heq.symm
        · rintro ⟨⟨hfirst, hapart⟩, -, hothers⟩
          exact ⟨hapart, fun x hx hx' ↦ ⟨fun heq ↦ hfirst x hx htext heq.symm, hothers x hx hx'⟩⟩
    · have hskip : firstShared? owners ((name, code) :: rest) = firstShared? owners rest := by
        cases code with
        | none => rfl
        | some text =>
          have hempty : text = "" := by simpa [hasText] using htext
          subst hempty
          rfl
      rw [hskip, ih]
      simp [htext]

/-- What the codes of a list have to be. -/
theorem checkCodes_eq_ok_iff {definitions : List Definition.Function} :
    checkCodes definitions = .ok () ↔
      (definitions.Pairwise fun d e ↦ hasText d.code → d.code ≠ e.code) ∧
        definitions.Pairwise fun d e ↦ hasText d.revertCode → d.revertCode ≠ e.revertCode := by
  have hshared : ∀ code : Definition.Function → Option String,
      firstShared? [] (definitions.map fun f ↦ (f.name.getD "", code f)) = none ↔
        definitions.Pairwise fun d e ↦ hasText (code d) → code d ≠ code e := by
    intro code
    rw [firstShared?_eq_none_iff, List.pairwise_map]
    simp
  rw [← hshared, ← hshared, checkCodes]
  split <;> simp_all

end Definition

namespace Registry

/-- No key is repeated exactly if each differs from those after it and from those that were seen. -/
theorem firstRepeated?_eq_none_iff {keys : List (List Char)} {functions : List Function} :
    firstRepeated? keys functions = none ↔
      (functions.map Function.key).Nodup ∧ ∀ f ∈ functions, f.key ∉ keys := by
  refine ⟨nodup_of_firstRepeated?, ?_⟩
  induction functions generalizing keys with
  | nil => exact fun _ ↦ rfl
  | cons f rest ih =>
    rw [List.map_cons, List.nodup_cons, List.forall_mem_cons]
    rintro ⟨⟨hfirst, hnodup⟩, hfresh, hothers⟩
    rw [firstRepeated?, if_neg hfresh]
    refine ih ⟨hnodup, fun g hg hold ↦ ?_⟩
    rcases List.mem_cons.mp hold with heq | hold
    · exact hfirst (heq ▸ List.mem_map_of_mem hg)
    · exact hothers g hg hold

/-- The registry of functions is the one that holds them in their order. -/
theorem ofFunctions?_eq_ok_iff {functions : List Function} {r : Registry} :
    ofFunctions? functions = .ok r ↔ r.functions = functions := by
  unfold ofFunctions?
  constructor
  · intro h
    split at h
    · cases h
    · obtain rfl := Except.ok.inj h
      rfl
  · rintro rfl
    split
    · rename_i f hrepeated
      rw [firstRepeated?_eq_none_iff.mpr ⟨r.distinct, by simp⟩] at hrepeated
      cases hrepeated
    · rfl

/-! ### The whole list -/

open Definition in
/-- A list of definitions makes a registry exactly if the definitions are apart from each other and
each describes the function that stands in its place. -/
theorem ofDefinitions?_eq_ok_iff {definitions : List Definition.Function} {r : Registry} :
    ofDefinitions? definitions = .ok r ↔
      definitions.Pairwise Function.IsApart ∧
        List.Forall₂ Function.Describes definitions r.functions := by
  have hsplit : definitions.Pairwise Function.IsApart ↔
      (definitions.Pairwise fun d e ↦ d.key ≠ e.key) ∧
        (definitions.Pairwise fun d e ↦ hasText d.code → d.code ≠ e.code) ∧
          definitions.Pairwise fun d e ↦ hasText d.revertCode → d.revertCode ≠ e.revertCode := by
    rw [← List.pairwise_and_iff, ← List.pairwise_and_iff]
    exact List.Pairwise.iff fun d e ↦
      ⟨fun h ↦ ⟨h.key, h.code, h.revertCode⟩, fun h ↦ ⟨h.1, h.2.1, h.2.2⟩⟩
  have hdescribes : List.Forall₂ Function.Describes definitions r.functions ↔
      (∀ d ∈ definitions, ∃ name, d.IsComplete name) ∧
        List.Forall₂ (fun d f ↦ d.build = .ok f) definitions r.functions := by
    rw [← List.forall₂_and_left]
    refine ⟨fun h ↦ h.imp fun d f hd ↦ ⟨⟨_, hd.complete⟩, hd.built⟩, fun h ↦ h.imp ?_⟩
    rintro d f ⟨⟨name, hcomplete⟩, hbuilt⟩
    have hname : f.name = name := by
      rw [(Function.head_of_build hbuilt).1, hcomplete.named]
      rfl
    exact ⟨hname ▸ hcomplete, hbuilt⟩
  rw [ofDefinitions?, hsplit, hdescribes, bind_eq_ok_iff]
  constructor
  · rintro ⟨_, hchecked, hcodes⟩
    obtain ⟨_, hapart, hfunctions⟩ := bind_eq_ok_iff.mp hcodes
    obtain ⟨functions, hbuilt, hregistry⟩ := bind_eq_ok_iff.mp hfunctions
    obtain ⟨hcomplete, hkeys, -⟩ := checkFunctions_eq_ok_iff.mp hchecked
    rw [ofFunctions?_eq_ok_iff.mp hregistry]
    exact ⟨⟨hkeys, checkCodes_eq_ok_iff.mp hapart⟩, hcomplete, buildFunctions_eq_ok_iff.mp hbuilt⟩
  · rintro ⟨⟨hkeys, hapart⟩, hcomplete, hbuilt⟩
    refine ⟨(), checkFunctions_eq_ok_iff.mpr ⟨hcomplete, hkeys, by simp⟩, ?_⟩
    refine bind_eq_ok_iff.mpr ⟨(), checkCodes_eq_ok_iff.mpr hapart, ?_⟩
    exact bind_eq_ok_iff.mpr ⟨r.functions, buildFunctions_eq_ok_iff.mpr hbuilt,
      ofFunctions?_eq_ok_iff.mpr rfl⟩

open Definition in
/-- Raw definitions make a registry exactly if they are read as definitions that do. -/
theorem ofValues?_eq_ok_iff {values : List Value} {r : Registry} :
    ofValues? (some values) = .ok r ↔
      ∃ definitions, List.Forall₂ (fun v d ↦ Function.read v = .accepted d) values definitions ∧
        definitions.Pairwise Function.IsApart ∧
          List.Forall₂ Function.Describes definitions r.functions := by
  rw [ofValues?, bind_eq_ok_iff]
  exact exists_congr fun definitions ↦
    and_congr readFunctions_eq_ok_iff ofDefinitions?_eq_ok_iff

end Registry

end Scriptorium
