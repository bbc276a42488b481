import Scriptorium.Proofs.ValidCollection

/-!
# Scripts with their code written out

A script that is made of calls is the same as the script in which the code that the calls compile to
is written out, with the revert code if there is any. Both are built from the same head, since each
has one kind of body (`head_withCalls`); both have the same code, since empty revert code counts as
none on either side (`buildCode_withCalls`, `buildCode_withCode`); and what comes after looks at
nothing else. So they come to the same script or to the same error
(`build_withCalls_eq_build_withCode`), and code that is written out is kept as it is, whatever
placeholders it has.

The same holds of raw records (`ofValue?_calls_eq_ofValue?_code`), whatever else stands in them. A
record is read field by field, so what is put into it somewhere only changes what is read under its
own names (`field_insert_own`, `field_insert_other`).
-/

set_option autoImplicit false
set_option relaxedAutoImplicit false

namespace Scriptorium

/-- The fields of a script that has compiled code written out: revert code only if there is any. -/
def Compiled.toFields (c : Compiled) : List (Value × Value) :=
  (.text "code", .text c.code) ::
    if c.revertCode = "" then [] else [(.text "revertCode", .text c.revertCode)]

/-- The names that the code and the calls of a script can go by. -/
def bodyFields : List String := ["code", "revertCode", "revert_code", "call"]

namespace Definition

/-! ### Definitions -/

namespace Script

variable {s : Definition.Script} {listed : Definition.Calls} {calls : List Scriptorium.Call}
  {compiled : Compiled} {context : Context}

/-- The script with calls for its body. -/
def withCalls (s : Definition.Script) (listed : Definition.Calls) : Definition.Script :=
  { s with code := none, revertCode := none, calls := some listed }

/-- The script with compiled code for its body. -/
def withCode (s : Definition.Script) (compiled : Compiled) : Definition.Script :=
  { s with code := some compiled.code, revertCode := textOrNone compiled.revertCode, calls := none }

/-- Calls that compile to some code are not missing. -/
theorem hasCalls_of_compile {r : Registry} (hlisted : buildCalls listed.toList = .ok calls)
    (hcompiled : r.compile calls = .ok compiled) (hcode : compiled.code ≠ "") :
    hasCalls (some listed) = true := by
  cases listed with
  | one c => rfl
  | many cs =>
    cases cs with
    | cons c rest => rfl
    | nil =>
      obtain rfl := Except.ok.inj hlisted
      obtain rfl := Except.ok.inj hcompiled
      exact absurd rfl hcode

theorem checkBody_withCalls (hlisted : hasCalls (some listed) = true) (name : String) :
    (s.withCalls listed).checkBody name = .ok () := by
  simp [checkBody, withCalls, hlisted, hasText]

theorem checkBody_withCode (hcode : compiled.code ≠ "") (name : String) :
    (s.withCode compiled).checkBody name = .ok () := by
  simp [checkBody, withCode, hcode, hasText, hasCalls]

/-- The head of a script does not depend on which of the two bodies it has. -/
theorem head_withCalls (hlisted : hasCalls (some listed) = true) (hcode : compiled.code ≠ "") :
    (s.withCalls listed).head = (s.withCode compiled).head := by
  unfold head
  simp only [checkBody_withCalls hlisted, checkBody_withCode hcode]
  rfl

theorem buildCode_withCalls (hlisted : buildCalls listed.toList = .ok calls)
    (hcompiled : context.functions.compile calls = .ok compiled) (name : String) :
    (s.withCalls listed).buildCode name context =
      .ok ⟨compiled.code, textOrNone compiled.revertCode⟩ := by
  have hcalls : (s.withCalls listed).callList name = .ok calls := by
    simp [callList, withCalls, hlisted]
  have hnone : hasText (s.withCalls listed).code = false := rfl
  rw [buildCode, hnone, if_neg Bool.false_ne_true]
  exact bind_eq_ok_iff.mpr ⟨calls, hcalls, bind_eq_ok_iff.mpr ⟨compiled, hcompiled, rfl⟩⟩

theorem buildCode_withCode (hcode : compiled.code ≠ "") (name : String) :
    (s.withCode compiled).buildCode name context =
      .ok ⟨compiled.code, textOrNone compiled.revertCode⟩ := by
  have hsome : hasText (s.withCode compiled).code = true := by simp [hasText, withCode, hcode]
  have hrevert : textOrNone ((textOrNone compiled.revertCode).getD "") =
      textOrNone compiled.revertCode := by
    unfold textOrNone
    split <;> simp_all
  rw [buildCode, if_pos hsome, withCode, hrevert]
  rfl

/-- A script with calls and the script with the code that they compile to come to the same. -/
theorem build_withCalls_eq_build_withCode (hlisted : buildCalls listed.toList = .ok calls)
    (hcompiled : context.functions.compile calls = .ok compiled) (hcode : compiled.code ≠ "") :
    (s.withCalls listed).build context = (s.withCode compiled).build context := by
  unfold build
  rw [head_withCalls (hasCalls_of_compile hlisted hcompiled hcode) hcode]
  simp only [buildCode_withCalls hlisted hcompiled, buildCode_withCode hcode]

/-- Code that is written out is the code of the script. -/
theorem code_of_build_withCode {script : Scriptorium.Script} (hcode : compiled.code ≠ "")
    (h : (s.withCode compiled).build context = .ok script) :
    script.code = ⟨compiled.code, textOrNone compiled.revertCode⟩ := by
  obtain ⟨head, code, -, hbuilt, -, rfl⟩ := build_eq_ok_iff.mp h
  exact (Except.ok.inj ((buildCode_withCode hcode head.name).symm.trans hbuilt)).symm

end Script

/-! ### Fields of a record -/

variable {entries before more after : List (Value × Value)}

theorem get?_append (name : String) :
    Value.get? (entries ++ more) name = (Value.get? entries name).or (Value.get? more name) := by
  unfold Value.get?
  rw [List.find?_append, Option.map_or]

/-- A field is read alike from records that have the same under its names. -/
theorem field_congr {α : Type} {default : α} {read : Value → Reading α} {names : List String}
    (h : ∀ name ∈ names, Value.get? entries name = Value.get? more name) :
    field entries names default read = field more names default read := by
  have hfirst : firstField? entries names = firstField? more names := by
    induction names with
    | nil => rfl
    | cons name rest ih =>
      rw [firstField?, firstField?, h name List.mem_cons_self,
        ih fun other hother ↦ h other (List.mem_cons_of_mem _ hother)]
  rw [field, field, hfirst]

/-- Fields that are put into a record do not matter to what goes by other names. -/
theorem field_insert_other {α : Type} {default : α} {read : Value → Reading α}
    (names : List String) (h : ∀ name ∈ names, Value.get? more name = none) :
    field (before ++ more ++ after) names default read =
      field (before ++ after) names default read :=
  field_congr fun name hname ↦ by
    rw [get?_append, get?_append, get?_append, h name hname, Option.or_none]

/-- What goes by names that a record does not have is what is put into it. -/
theorem field_insert_own {α : Type} {default : α} {read : Value → Reading α}
    (names : List String) (h : ∀ name ∈ names, Value.get? (before ++ after) name = none) :
    field (before ++ more ++ after) names default read = field more names default read :=
  field_congr fun name hname ↦ by
    obtain ⟨hbefore, hafter⟩ := Option.or_eq_none_iff.mp (get?_append name ▸ h name hname)
    rw [get?_append, get?_append, hbefore, hafter, Option.none_or, Option.or_none]

/-- What goes by names that a record does not have is the default. -/
theorem field_of_absent {α : Type} {default : α} {read : Value → Reading α}
    (names : List String) (h : ∀ name ∈ names, Value.get? entries name = none) :
    field entries names default read = .accepted default := by
  have hnone : firstField? [] names = none := by
    induction names with
    | nil => rfl
    | cons name rest ih => exact ih fun other hother ↦ h other (List.mem_cons_of_mem _ hother)
  have hempty : field entries names default read = field [] names default read := field_congr h
  rw [hempty, field, hnone]

/-! ### Raw scripts -/

/-- Raw items that are accepted as calls are read as definitions that build them. -/
theorem exists_items_of_readItems {items : List Value} {calls : List Scriptorium.Call}
    (h : Scriptorium.Call.listOfValue?.readItems items = .ok calls) (i : Nat) :
    ∃ definitions, Reading.items Call.read i items = .accepted definitions ∧
      buildCalls definitions = .ok calls := by
  induction items generalizing calls i with
  | nil =>
    obtain rfl := Except.ok.inj h
    exact ⟨[], rfl, rfl⟩
  | cons v rest ih =>
    by_cases hnull : v = .null
    · subst hnull
      cases h
    · rw [Scriptorium.Call.listOfValue?.readItems.eq_3 _ _ hnull] at h
      obtain ⟨definition, hread, hothers⟩ := bind_eq_ok_iff.mp h
      obtain ⟨call, hcall, hlater⟩ := bind_eq_ok_iff.mp hothers
      obtain ⟨others, hrest, hcalls⟩ := bind_eq_ok_iff.mp hlater
      obtain rfl := Except.ok.inj hcalls
      obtain ⟨definitions, hdefinitions, hbuilt⟩ := ih hrest (i + 1)
      refine ⟨definition :: definitions, ?_, ?_⟩
      · rw [Reading.items, accept_eq_ok_iff.mp hread, hdefinitions]
        rfl
      · exact bind_eq_ok_iff.mpr ⟨call, hcall, bind_eq_ok_iff.mpr ⟨others, hbuilt, rfl⟩⟩

/-- Raw calls that are accepted by themselves are read as calls of a script. -/
theorem exists_read_of_listOfValue? {v : Value} {calls : List Scriptorium.Call}
    (h : Scriptorium.Call.listOfValue? v = .ok calls) :
    ∃ listed, optional Calls.read v = .accepted (some listed) ∧
      buildCalls listed.toList = .ok calls := by
  have hlist : ∀ items, v.bare = .list items → v ≠ .null →
      Scriptorium.Call.listOfValue?.readItems items = .ok calls →
      ∃ listed, optional Calls.read v = .accepted (some listed) ∧
        buildCalls listed.toList = .ok calls := by
    intro items hbare hnull hitems
    obtain ⟨definitions, hdefinitions, hbuilt⟩ := exists_items_of_readItems hitems 0
    refine ⟨.many definitions, ?_, hbuilt⟩
    have hmany : listOf Call.read v = .accepted definitions := by
      rw [listOf, hbare]
      exact hdefinitions
    have hone : Call.read v = .problem .record := by rw [Call.read, record, hbare]
    rw [optional.eq_2 _ _ hnull, Calls.read, hmany, hone]
    rfl
  unfold Scriptorium.Call.listOfValue? at h
  split at h
  · cases h
  · exact hlist _ rfl (by simp) h
  · exact hlist _ rfl (by simp) h
  · rename_i hnull _ _
    obtain ⟨definitions, hdefinitions, hbuilt⟩ := exists_items_of_readItems h 0
    rw [Reading.items] at hdefinitions
    cases hread : Call.read v with
    | refused problems =>
      rw [hread] at hdefinitions
      cases hdefinitions
    | accepted definition =>
      rw [hread] at hdefinitions
      obtain rfl := Reading.accepted.inj hdefinitions
      refine ⟨.one definition, ?_, hbuilt⟩
      rw [optional.eq_2 _ _ hnull, Calls.read, hread]
      rfl

/-- With the fields of a body, a record that has none is read as what it was read as before, with
this body. -/
theorem readEntries_insert {code revertCode : Option String} {calls : Option Definition.Calls}
    (hbody : ∀ name ∈ bodyFields, Value.get? (before ++ after) name = none)
    (hmore : ∀ name ∈ ["name", "docs", "recommend"], Value.get? more name = none)
    (hcode : field more ["code"] none (optional text) = .accepted code)
    (hrevert : field more ["revertCode", "revert_code"] none (optional text) = .accepted revertCode)
    (hcalls : field more ["call"] none (optional Calls.read) = .accepted calls) :
    Script.readEntries (before ++ more ++ after) =
      (Script.readEntries (before ++ after)).map fun s ↦
        { s with code := code, revertCode := revertCode, calls := calls } := by
  have hnocode : ∀ name ∈ ["code"], Value.get? (before ++ after) name = none :=
    fun name hname ↦ hbody name (by simp_all [bodyFields])
  have hnorevert :
      ∀ name ∈ ["revertCode", "revert_code"], Value.get? (before ++ after) name = none :=
    fun name hname ↦ hbody name (by revert hname; simp [bodyFields]; tauto)
  have hnocalls : ∀ name ∈ ["call"], Value.get? (before ++ after) name = none :=
    fun name hname ↦ hbody name (by simp_all [bodyFields])
  have hold : Script.readEntries (before ++ after) =
      Script.mk <$> field (before ++ after) ["name"] none (optional text)
        <*> field (before ++ after) ["docs"] none (optional Docs.read) <*> .accepted none
        <*> .accepted none <*> .accepted none
        <*> field (before ++ after) ["recommend"] none (optional text) := by
    rw [Script.readEntries, field_of_absent _ hnocode, field_of_absent _ hnorevert,
      field_of_absent _ hnocalls]
  have hnew : Script.readEntries (before ++ more ++ after) =
      Script.mk <$> field (before ++ after) ["name"] none (optional text)
        <*> field (before ++ after) ["docs"] none (optional Docs.read) <*> .accepted code
        <*> .accepted revertCode <*> .accepted calls
        <*> field (before ++ after) ["recommend"] none (optional text) := by
    rw [Script.readEntries, field_insert_own _ hnocode, field_insert_own _ hnorevert,
      field_insert_own _ hnocalls, hcode, hrevert, hcalls,
      field_insert_other ["name"] (by simp_all), field_insert_other ["docs"] (by simp_all),
      field_insert_other ["recommend"] (by simp_all)]
  rw [hold, hnew]
  -- Problems are gathered from the fields that are left, so each of them can be accepted or not.
  cases field (before ++ after) ["name"] none (optional text) <;>
    cases field (before ++ after) ["docs"] none (optional Docs.read) <;>
    cases field (before ++ after) ["recommend"] none (optional text) <;> rfl

/-- With calls that are accepted by themselves, a record is read as a script with these calls. -/
theorem readEntries_insert_calls {v : Value} {listed : Definition.Calls}
    (hbody : ∀ name ∈ bodyFields, Value.get? (before ++ after) name = none)
    (hlisted : optional Calls.read v = .accepted (some listed)) :
    Script.readEntries (before ++ [(.text "call", v)] ++ after) =
      (Script.readEntries (before ++ after)).map (Script.withCalls · listed) := by
  have hcall : field [(.text "call", v)] ["call"] none (optional Calls.read) =
      .accepted (some listed) := by
    have hfirst : firstField? [(.text "call", v)] ["call"] = some ("call", v) := rfl
    rw [field, hfirst]
    simp only [hlisted, Reading.below]
  exact readEntries_insert hbody (by simp [Value.get?, Value.sameKey]) rfl rfl hcall

/-- With code written out, a record is read as a script with this code. -/
theorem readEntries_insert_code {compiled : Compiled}
    (hbody : ∀ name ∈ bodyFields, Value.get? (before ++ after) name = none) :
    Script.readEntries (before ++ compiled.toFields ++ after) =
      (Script.readEntries (before ++ after)).map (Script.withCode · compiled) := by
  unfold Compiled.toFields
  by_cases hrevert : compiled.revertCode = ""
  · have hnone : Script.textOrNone compiled.revertCode = none := if_pos hrevert
    simp only [if_pos hrevert, Script.withCode, hnone]
    exact readEntries_insert hbody (by simp [Value.get?, Value.sameKey]) rfl rfl rfl
  · have hsome : Script.textOrNone compiled.revertCode = some compiled.revertCode := if_neg hrevert
    simp only [if_neg hrevert, Script.withCode, hsome]
    exact readEntries_insert hbody (by simp [Value.get?, Value.sameKey]) rfl rfl rfl

end Definition

/-! ### Calls against code -/

/-- A script with calls that compile to some code is the script with this code written out, or the
same error: as a raw record, whatever is in its other fields, before and after, and as a definition.
The code is the code of the script, with whatever placeholders it has. -/
theorem Script.ofValue?_calls_eq_ofValue?_code {context : Context} {call : Value}
    {calls : List Call} {compiled : Compiled} {before after : List (Value × Value)}
    (hbody : ∀ name ∈ bodyFields, Value.get? (before ++ after) name = none)
    (hcalls : Call.listOfValue? call = .ok calls)
    (hcompiled : context.functions.compile calls = .ok compiled) (hcode : compiled.code ≠ "") :
    Script.ofValue? (some context) (.map (before ++ [(.text "call", call)] ++ after)) =
        Script.ofValue? (some context) (.map (before ++ compiled.toFields ++ after)) ∧
      (∀ script,
        Script.ofValue? (some context) (.map (before ++ compiled.toFields ++ after)) = .ok script →
          script.code = ⟨compiled.code, Definition.Script.textOrNone compiled.revertCode⟩) ∧
      ∀ (s : Definition.Script) (listed : Definition.Calls),
        Definition.buildCalls listed.toList = .ok calls →
          (s.withCalls listed).build context = (s.withCode compiled).build context := by
  obtain ⟨listed, hlisted, hbuilt⟩ := Definition.exists_read_of_listOfValue? hcalls
  have hread : ∀ more, Script.ofValue? (some context) (.map more) =
      Definition.accept "ScriptDefinition" (Definition.Script.readEntries more) >>=
        (Definition.Script.build · context) := fun more ↦ rfl
  rw [hread, hread, Definition.readEntries_insert_calls hbody hlisted,
    Definition.readEntries_insert_code hbody]
  refine ⟨?_, ?_, fun s other hother ↦
    Definition.Script.build_withCalls_eq_build_withCode hother hcompiled hcode⟩
  · cases Definition.Script.readEntries (before ++ after) with
    | refused problems => rfl
    | accepted s =>
      exact Definition.Script.build_withCalls_eq_build_withCode hbuilt hcompiled hcode
  · intro script hscript
    obtain ⟨definition, hdefinition, hbuild⟩ := bind_eq_ok_iff.mp hscript
    rw [Definition.accept_eq_ok_iff] at hdefinition
    cases hentries : Definition.Script.readEntries (before ++ after) with
    | refused problems =>
      rw [hentries] at hdefinition
      cases hdefinition
    | accepted s =>
      rw [hentries] at hdefinition
      obtain rfl := Definition.Reading.accepted.inj hdefinition
      exact Definition.Script.code_of_build_withCode hcode hbuild

/-- A function that shows a text. -/
def showFunction : Function :=
  ⟨"Show", [⟨"text", true⟩],
    .code ⟨"echo \x7b\x7b $text \x7d\x7d", "echo no \x7b\x7b $text \x7d\x7d"⟩⟩

/-- The function, for the shell. -/
def showContext : Context := ⟨⟨[showFunction], by decide +kernel⟩, .shell⟩

/-- A call of it with a text that looks like a placeholder. -/
def showCall : Call := ⟨"Show", ⟨[("text", "\x7b\x7b $name \x7d\x7d")], by decide⟩, by decide⟩

/-- The call as a raw value. -/
def showValue : Value :=
  .map [(.text "function", .text "Show"),
    (.text "parameters", .map [(.text "text", .text "\x7b\x7b $name \x7d\x7d")])]

/-- What the call compiles to. -/
def showCompiled : Compiled :=
  ⟨"echo \x7b\x7b $name \x7d\x7d", "echo no \x7b\x7b $name \x7d\x7d"⟩

/-- The name of a script, as a field. -/
def showName : List (Value × Value) := [(.text "name", .text "Show")]

/-- The level of a script, as a field. -/
def showLevel : List (Value × Value) := [(.text "recommend", .text "Standard")]

/-- The code of both scripts has the placeholder, for which there is nothing to put. -/
theorem ofValue?_showValue_eq_ofValue?_showCompiled :
    Call.listOfValue? showValue = .ok [showCall] ∧
      showContext.functions.compile [showCall] = .ok showCompiled ∧
      Script.ofValue? (some showContext)
          (.map (showName ++ [(.text "call", showValue)] ++ showLevel)) =
        Script.ofValue? (some showContext)
          (.map (showName ++ showCompiled.toFields ++ showLevel)) ∧
      ∃ script, Script.ofValue? (some showContext)
          (.map (showName ++ showCompiled.toFields ++ showLevel)) = .ok script ∧
        script.code = ⟨showCompiled.code, some showCompiled.revertCode⟩ := by
  have hcalls : Call.listOfValue? showValue = .ok [showCall] :=
    eq_ok_of_toOption (by decide +kernel)
  have hcompiled : showContext.functions.compile [showCall] = .ok showCompiled :=
    eq_ok_of_toOption (by decide +kernel)
  have hbody : ∀ name ∈ bodyFields, Value.get? (showName ++ showLevel) name = none := by
    simp [bodyFields, showName, showLevel, Value.get?, Value.sameKey]
  obtain ⟨hsame, hkept, -⟩ :=
    Script.ofValue?_calls_eq_ofValue?_code hbody hcalls hcompiled (by decide)
  obtain ⟨script, hscript⟩ : ∃ script, Script.ofValue? (some showContext)
      (.map (showName ++ showCompiled.toFields ++ showLevel)) = .ok script :=
    ⟨⟨"Show", [], some .standard, ⟨showCompiled.code, some showCompiled.revertCode⟩⟩,
      eq_ok_of_toOption (by decide +kernel)⟩
  exact ⟨hcalls, hcompiled, hsame, script, hscript, hkept script hscript⟩

end Scriptorium
