import Mathlib.Data.List.Nodup
import Scriptorium.Collection
import Scriptorium.Proofs.CallExpansion

/-!
# Valid collections

What holds of every collection that is built from a definition. A script is valid in a dialect if it
has a name, code that is not blank, and revert code, if any, that is not empty and not the same; and
if neither of the two repeats a line that runs (`Script.IsValid`). A category is valid if it has a
name and members, all of them valid (`Category.IsValid`). A collection is valid if its categories
are and no two of its scripts have the same name (`Collection.IsValid`).

Each check that a definition has to pass is told by what it passes (`check_eq_ok_iff`,
`repeatedLines_eq_nil_iff`, `repeatedNames_eq_nil_iff`). From these a script is valid that is built
(`isValid_of_build`), and by induction on the children of a category so is everything below it
(`isValid_of_childBuild`). `isValid_of_isBuilt` is the whole, with what it means for the search of a
script and for the scripts that are recommended.
-/

set_option autoImplicit false
set_option relaxedAutoImplicit false

namespace Scriptorium

/-! ### Validity -/

/-- Whether a script is valid in a dialect. -/
structure Script.IsValid (d : Dialect) (s : Script) : Prop where
  named : s.name ≠ ""
  runs : ∃ c ∈ s.code.execute.toList, Text.isBlank c = false
  reverts : ∀ revert, s.code.revert = some revert → revert ≠ "" ∧ revert ≠ s.code.execute
  nodup : (d.executableLines s.code.execute.toList).Nodup
  nodup_revert : ∀ revert, s.code.revert = some revert → (d.executableLines revert.toList).Nodup

/-- Whether a category is valid in a dialect, with everything below it. -/
inductive Category.IsValid (d : Dialect) : Category → Prop
  | intro {c : Category} (named : c.name ≠ "") (inhabited : c.scripts ≠ [] ∨ c.categories ≠ [])
      (scripts : ∀ s ∈ c.scripts, s.IsValid d)
      (categories : ∀ below ∈ c.categories, below.IsValid d) : IsValid d c

/-- Whether a collection is valid. -/
structure Collection.IsValid (c : Collection) : Prop where
  categories : ∀ category ∈ c.actions, category.IsValid c.scripting.dialect
  scripts : ∀ s ∈ c.scripts, s.IsValid c.scripting.dialect
  distinct : (c.scripts.map Script.name).Nodup

/-- Whether a collection is built for a project and a date, from a definition or from a raw one. -/
def Collection.IsBuilt (c : Collection) (project : Project) (date : Date) : Prop :=
  (∃ definition : Definition.Collection, definition.build project date = .ok c) ∨
    ∃ value, Collection.ofValue? value project date = .ok c

/-! ### Scripts -/

/-- Nothing returns in a list without repetitions of which nothing was seen before. -/
theorem Text.returning_eq_nil_iff {seen lines : List (List Char)} :
    returning seen [] lines = [] ↔ lines.Nodup ∧ ∀ line ∈ lines, line ∉ seen := by
  induction lines generalizing seen with
  | nil =>
    have hnil : returning seen [] [] = [] := rfl
    simp [hnil]
  | cons line rest ih =>
    have hcons : returning seen [] (line :: rest) =
        if line ∈ seen then line :: returning seen [line] rest
        else returning (line :: seen) [] rest := rfl
    rw [hcons]
    by_cases hseen : line ∈ seen
    · simp [hseen]
    · rw [if_neg hseen, ih, List.nodup_cons]
      constructor
      · rintro ⟨hrest, hfresh⟩
        refine ⟨⟨fun hline ↦ hfresh line hline List.mem_cons_self, hrest⟩, ?_⟩
        intro other hother
        rcases List.mem_cons.mp hother with rfl | hmem
        · exact hseen
        · exact fun hold ↦ hfresh other hmem (List.mem_cons_of_mem _ hold)
      · rintro ⟨⟨hline, hrest⟩, hfresh⟩
        refine ⟨hrest, fun other hother hold ↦ ?_⟩
        rcases List.mem_cons.mp hold with rfl | hmem
        · exact hline hother
        · exact hfresh other (List.mem_cons_of_mem _ hother) hmem

/-- No line of a code is repeated exactly if the lines that run are different from each other. -/
theorem Dialect.repeatedLines_eq_nil_iff (d : Dialect) (code : String) :
    d.repeatedLines code = [] ↔ (d.executableLines code.toList).Nodup := by
  simp [repeatedLines, Text.returning_eq_nil_iff]

namespace ScriptCode

variable {code : ScriptCode} {d : Dialect} {name : String}

theorem checkLines_eq_ok_iff {text : String} :
    checkLines d text = .ok () ↔ (d.executableLines text.toList).Nodup := by
  rw [← d.repeatedLines_eq_nil_iff, checkLines]
  split <;> simp_all

/-- What the code of a script has to be. -/
theorem check_eq_ok_iff :
    code.check d name = .ok () ↔
      (∃ c ∈ code.execute.toList, Text.isBlank c = false) ∧
        code.revert.getD "" ≠ code.execute ∧
        (d.executableLines code.execute.toList).Nodup ∧
        (d.executableLines (code.revert.getD "").toList).Nodup := by
  have hblank : Text.isBlankText code.execute.toList = false ↔
      ∃ c ∈ code.execute.toList, Text.isBlank c = false := by
    simp [Text.isBlankText]
  rw [← hblank, check]
  cases Text.isBlankText code.execute.toList with
  | true => simp [bind, Except.bind, throw, throwThe, MonadExceptOf.throw]
  | false =>
    by_cases hsame : code.revert.getD "" = code.execute
    · simp [hsame, bind, Except.bind, throw, throwThe, MonadExceptOf.throw]
    · simp only [Bool.false_eq_true, if_false, ne_eq, hsame, not_false_eq_true, true_and]
      rw [bind_eq_ok_iff, ← checkLines_eq_ok_iff, ← checkLines_eq_ok_iff]
      constructor
      · rintro ⟨_, hlines⟩
        exact hlines
      · exact fun hlines ↦ ⟨(), hlines⟩

end ScriptCode

namespace Definition

variable {context : Context}

namespace Script

variable {s : Definition.Script}

/-- The head of a script has a name. -/
theorem name_ne_of_head {h : Head} (hhead : s.head = .ok h) : h.name ≠ "" := by
  rw [head] at hhead
  by_cases hname : s.name.getD "" = ""
  · simp [hname, bind, Except.bind, throw, throwThe, MonadExceptOf.throw] at hhead
  · rw [if_neg hname] at hhead
    obtain ⟨-, -, hlevel⟩ := bind_eq_ok_iff.mp hhead
    obtain ⟨level, -, hdocs⟩ := bind_eq_ok_iff.mp hlevel
    obtain ⟨docs, -, hresult⟩ := bind_eq_ok_iff.mp hdocs
    obtain rfl := Except.ok.inj hresult
    exact hname

theorem ne_of_textOrNone {text revert : String} (h : textOrNone text = some revert) :
    revert = text ∧ revert ≠ "" := by
  unfold textOrNone at h
  split at h
  · cases h
  · rename_i htext
    obtain rfl := Option.some.inj h
    exact ⟨rfl, htext⟩

/-- Revert code that is built is not empty. -/
theorem revert_ne_of_buildCode {name revert : String} {code : ScriptCode}
    (h : s.buildCode name context = .ok code) (hrevert : code.revert = some revert) :
    revert ≠ "" := by
  unfold buildCode at h
  split at h
  · obtain rfl := Except.ok.inj h
    exact (ne_of_textOrNone hrevert).2
  · obtain ⟨calls, -, hcompiled⟩ := bind_eq_ok_iff.mp h
    obtain ⟨compiled, -, hresult⟩ := bind_eq_ok_iff.mp hcompiled
    obtain rfl := Except.ok.inj hresult
    exact (ne_of_textOrNone hrevert).2

/-- What a script is built from: a head, code, and the check of that code. -/
theorem build_eq_ok_iff {script : Scriptorium.Script} :
    s.build context = .ok script ↔
      ∃ h code, s.head = .ok h ∧ s.buildCode h.name context = .ok code ∧
        code.check context.dialect h.name = .ok () ∧
        script = ⟨h.name, h.documentation, h.level, code⟩ := by
  constructor
  · intro hbuild
    obtain ⟨h, hhead, hrest⟩ := bind_eq_ok_iff.mp hbuild
    obtain ⟨code, hcode, hchecked⟩ := bind_eq_ok_iff.mp hrest
    obtain ⟨_, hcheck, hresult⟩ := bind_eq_ok_iff.mp hchecked
    exact ⟨h, code, hhead, hcode, hcheck, (Except.ok.inj hresult).symm⟩
  · rintro ⟨h, code, hhead, hcode, hcheck, rfl⟩
    exact bind_eq_ok_iff.mpr ⟨h, hhead, bind_eq_ok_iff.mpr ⟨code, hcode,
      bind_eq_ok_iff.mpr ⟨(), hcheck, rfl⟩⟩⟩

/-- A script that is built is valid. -/
theorem isValid_of_build {script : Scriptorium.Script} (h : s.build context = .ok script) :
    script.IsValid context.dialect := by
  obtain ⟨head, code, hhead, hcode, hcheck, rfl⟩ := build_eq_ok_iff.mp h
  obtain ⟨hruns, hdiffers, hnodup, hrevert⟩ := ScriptCode.check_eq_ok_iff.mp hcheck
  refine ⟨name_ne_of_head hhead, hruns, ?_, hnodup, ?_⟩
  · intro revert heq
    refine ⟨revert_ne_of_buildCode hcode heq, ?_⟩
    dsimp only at heq
    rw [heq] at hdiffers
    exact hdiffers
  · intro revert heq
    dsimp only at heq
    rw [heq] at hrevert
    exact hrevert

end Script

/-! ### Categories -/

/-- Whether members are valid in a dialect. -/
structure Members.AreValid (d : Dialect) (m : Members) : Prop where
  scripts : ∀ s ∈ m.scripts, s.IsValid d
  categories : ∀ c ∈ m.categories, c.IsValid d

/-- Whether there is a member. -/
def Members.AreSome (m : Members) : Prop := m.scripts ≠ [] ∨ m.categories ≠ []

/-- What children give is what the first gives before what the others give. -/
theorem buildChildren_cons_eq_ok_iff {child : Child} {rest : List Child} {m : Members} :
    buildChildren context (child :: rest) = .ok m ↔
      ∃ first others, child.build context = .ok first ∧ buildChildren context rest = .ok others ∧
        m = ⟨first.scripts ++ others.scripts, first.categories ++ others.categories⟩ := by
  rw [buildChildren, bind_eq_ok_iff]
  refine exists_congr fun first ↦ ?_
  constructor
  · rintro ⟨hfirst, hothers⟩
    obtain ⟨others, hrest, hresult⟩ := bind_eq_ok_iff.mp hothers
    exact ⟨others, hfirst, hrest, (Except.ok.inj hresult).symm⟩
  · rintro ⟨others, hfirst, hrest, rfl⟩
    exact ⟨hfirst, bind_eq_ok_iff.mpr ⟨others, hrest, rfl⟩⟩

/-- A script gives what it is built into. -/
theorem Child.build_script_eq_ok_iff {s : Definition.Script} {m : Members} :
    (Child.script s).build context = .ok m ↔
      ∃ script, s.build context = .ok script ∧ m = ⟨[script], []⟩ := by
  rw [Child.build, bind_eq_ok_iff]
  exact exists_congr fun script ↦ and_congr_right fun _ ↦
    ⟨fun h ↦ (Except.ok.inj h).symm, fun h ↦ h ▸ rfl⟩

mutual

/-- What a child gives is valid, and there is some of it. -/
theorem areValid_of_childBuild : (child : Child) → {m : Members} →
    child.build context = .ok m → Members.AreValid context.dialect m ∧ Members.AreSome m
  | .script s, m, h => by
    obtain ⟨script, hscript, rfl⟩ := Child.build_script_eq_ok_iff.mp h
    refine ⟨⟨?_, by simp⟩, Or.inl (by simp)⟩
    intro other hother
    rw [List.mem_singleton.mp hother]
    exact Script.isValid_of_build hscript
  | .category name docs children, m, h => by
    rw [Child.build] at h
    by_cases hname : name.getD "" = ""
    · simp [hname, bind, Except.bind, throw, throwThe, MonadExceptOf.throw] at h
    · simp only [if_neg hname] at h
      obtain ⟨members, hmembers, hrest⟩ := bind_eq_ok_iff.mp h
      obtain ⟨documentation, -, hresult⟩ := bind_eq_ok_iff.mp hrest
      obtain rfl := Except.ok.inj hresult
      obtain ⟨hvalid, hsome⟩ := areValid_of_buildMembers _ children hmembers
      refine ⟨⟨by simp, ?_⟩, Or.inr (by simp)⟩
      intro c hc
      rw [List.mem_singleton.mp hc]
      exact .intro hname hsome hvalid.scripts hvalid.categories

/-- The members of a category are valid, and there is one. -/
theorem areValid_of_buildMembers (name : String) : (children : Option (List Child)) →
    {m : Members} → buildMembers context name children = .ok m →
    Members.AreValid context.dialect m ∧ Members.AreSome m
  | none, m, h => by
    rw [buildMembers] at h
    cases h
  | some [], m, h => by
    rw [buildMembers] at h
    cases h
  | some (c :: rest), m, h => by
    rw [buildMembers] at h
    obtain ⟨hvalid, hsome⟩ := areValid_of_buildChildren (c :: rest) h
    exact ⟨hvalid, hsome (List.cons_ne_nil c rest)⟩

/-- What children give is valid, and there is some of it if there is a child. -/
theorem areValid_of_buildChildren : (children : List Child) → {m : Members} →
    buildChildren context children = .ok m →
    Members.AreValid context.dialect m ∧ (children ≠ [] → Members.AreSome m)
  | [], m, h => by
    rw [buildChildren] at h
    obtain rfl := Except.ok.inj h
    exact ⟨⟨by simp, by simp⟩, fun hne ↦ absurd rfl hne⟩
  | c :: rest, m, h => by
    obtain ⟨first, others, hfirst, hrest, rfl⟩ := buildChildren_cons_eq_ok_iff.mp h
    obtain ⟨hown, hsome⟩ := areValid_of_childBuild c hfirst
    obtain ⟨hlater, -⟩ := areValid_of_buildChildren rest hrest
    refine ⟨⟨?_, ?_⟩, fun _ ↦ ?_⟩
    · intro s hs
      exact (List.mem_append.mp hs).elim (hown.scripts s) (hlater.scripts s)
    · intro category hc
      exact (List.mem_append.mp hc).elim (hown.categories category) (hlater.categories category)
    · unfold Members.AreSome at hsome ⊢
      simp only [ne_eq, List.append_eq_nil_iff, not_and_or]
      exact hsome.imp Or.inl Or.inl

end

/-- As a child a category gives the category that it is built into. -/
theorem Category.build_toChild_eq_ok_iff {d : Definition.Category} {m : Members} :
    d.toChild.build context = .ok m ↔ ∃ c, d.build context = .ok c ∧ m = ⟨[], [c]⟩ := by
  have hchild : d.toChild.build context =
      d.build context >>= fun category ↦ .ok ⟨[], [category]⟩ := by
    rw [Category.build, Category.toChild, Child.build]
    by_cases hname : d.name.getD "" = ""
    · simp [hname, bind, Except.bind, throw, throwThe, MonadExceptOf.throw]
    · simp only [if_neg hname]
      cases buildMembers context (d.name.getD "") d.children with
      | error e => rfl
      | ok members => cases Documentation.ofDefinition? d.docs <;> rfl
  rw [hchild, bind_eq_ok_iff]
  exact exists_congr fun c ↦ and_congr_right fun _ ↦
    ⟨fun h ↦ (Except.ok.inj h).symm, fun h ↦ h ▸ rfl⟩

/-- Categories that are built are valid. -/
theorem isValid_of_buildCategories {definitions : List Definition.Category}
    {categories : List Scriptorium.Category}
    (h : buildCategories context definitions = .ok categories) :
    ∀ c ∈ categories, c.IsValid context.dialect := by
  induction definitions generalizing categories with
  | nil =>
    obtain rfl := Except.ok.inj h
    simp
  | cons definition rest ih =>
    rw [buildCategories] at h
    obtain ⟨category, hcategory, hothers⟩ := bind_eq_ok_iff.mp h
    obtain ⟨others, hrest, hresult⟩ := bind_eq_ok_iff.mp hothers
    obtain rfl := Except.ok.inj hresult
    intro c hc
    rcases List.mem_cons.mp hc with rfl | hmem
    · have hchild : definition.toChild.build context = .ok ⟨[], [c]⟩ :=
        Category.build_toChild_eq_ok_iff.mpr ⟨c, hcategory, rfl⟩
      obtain ⟨hvalid, -⟩ := areValid_of_childBuild definition.toChild hchild
      exact hvalid.categories c List.mem_cons_self
    · exact ih hrest c hmem

end Definition

/-! ### Scripts of categories -/

theorem Category.allScripts_eq (c : Category) :
    c.allScripts = c.scripts ++ scriptsOfAll c.categories := by
  cases c
  rw [Category.allScripts]

/-- The scripts of categories are those of each, one after the other. -/
theorem scriptsOfAll_eq (categories : List Category) :
    scriptsOfAll categories = categories.flatMap Category.allScripts := by
  induction categories with
  | nil => rfl
  | cons c rest ih => rw [scriptsOfAll, ih, List.flatMap_cons]

theorem mem_scriptsOfAll {s : Script} {categories : List Category} :
    s ∈ scriptsOfAll categories ↔ ∃ c ∈ categories, s ∈ c.allScripts := by
  rw [scriptsOfAll_eq, List.mem_flatMap]

/-- The scripts of a valid category are valid at any depth. -/
theorem Category.IsValid.isValid_of_mem {d : Dialect} {c : Category} (h : c.IsValid d) :
    ∀ s ∈ c.allScripts, s.IsValid d := by
  induction h with
  | intro named inhabited scripts categories ih =>
    intro s hs
    rw [Category.allScripts_eq, List.mem_append, mem_scriptsOfAll] at hs
    rcases hs with hown | ⟨below, hbelow, hmem⟩
    · exact scripts s hown
    · exact ih below hbelow s hmem

/-- No name is repeated exactly if the names are different from each other. -/
theorem repeatedNames_eq_nil_iff {names : List String} :
    repeatedNames names = [] ↔ names.Nodup := by
  simp only [repeatedNames, List.filter_eq_nil_iff, List.mem_eraseDups, decide_eq_true_eq,
    Nat.not_lt]
  rw [List.nodup_iff_count_le_one]
  constructor
  · intro h name
    by_cases hname : name ∈ names
    · exact h name hname
    · rw [List.count_eq_zero_of_not_mem hname]
      exact Nat.zero_le 1
  · exact fun h name _ ↦ h name

/-! ### Collections -/

/-- A collection that is built from a definition is valid. -/
theorem Definition.Collection.isValid_of_build {definition : Definition.Collection}
    {project : Project} {date : Date} {c : Scriptorium.Collection}
    (h : definition.build project date = .ok c) : c.IsValid := by
  rw [build] at h
  cases hactions : definition.actions.isEmpty with
  | true => simp [hactions, bind, Except.bind, throw, throwThe, MonadExceptOf.throw] at h
  | false =>
    simp only [hactions, Bool.false_eq_true, if_false] at h
    obtain ⟨scripting, -, hfunctions⟩ := bind_eq_ok_iff.mp h
    obtain ⟨functions, -, hcategories⟩ := bind_eq_ok_iff.mp hfunctions
    obtain ⟨actions, hactions, hchecked⟩ := bind_eq_ok_iff.mp hcategories
    obtain ⟨_, hnames, hresult⟩ := bind_eq_ok_iff.mp hchecked
    obtain rfl := Except.ok.inj hresult
    have hvalid := isValid_of_buildCategories hactions
    have hnone : repeatedNames ((scriptsOfAll actions).map Scriptorium.Script.name) = [] := by
      unfold checkNames at hnames
      split at hnames
      · assumption
      · cases hnames
    refine ⟨hvalid, ?_, repeatedNames_eq_nil_iff.mp hnone⟩
    intro s hs
    obtain ⟨category, hcategory, hmem⟩ := mem_scriptsOfAll.mp hs
    exact (hvalid category hcategory).isValid_of_mem s hmem

namespace Collection

variable {c : Collection} {project : Project} {date : Date}

/-- What is built from a raw definition is built from the definition that it is read as. -/
theorem IsBuilt.exists_build (h : c.IsBuilt project date) :
    ∃ definition : Definition.Collection, definition.build project date = .ok c := by
  rcases h with hbuild | ⟨value, hvalue⟩
  · exact hbuild
  · unfold ofValue? at hvalue
    split at hvalue
    · cases hvalue
    · obtain ⟨definition, -, hbuild⟩ := bind_eq_ok_iff.mp hvalue
      exact ⟨definition, hbuild⟩

theorem IsBuilt.isValid (h : c.IsBuilt project date) : c.IsValid := by
  obtain ⟨definition, hbuild⟩ := h.exists_build
  exact Definition.Collection.isValid_of_build hbuild

/-- Of scripts with different names each is found by its own. -/
theorem find?_eq_some_of_mem (h : (c.scripts.map Script.name).Nodup) {s : Script}
    (hs : s ∈ c.scripts) : c.find? s.name = some s := by
  unfold find?
  cases hfind : c.scripts.find? fun other ↦ other.name == s.name with
  | none => simpa using List.find?_eq_none.mp hfind s hs
  | some other =>
    have hname := List.find?_some hfind
    rw [beq_iff_eq] at hname
    rw [List.inj_on_of_nodup_map h (List.mem_of_find?_eq_some hfind) hs hname]

/-- A name that no script has is not found. -/
theorem find?_eq_none_of_forall_ne {name : String} (h : ∀ s ∈ c.scripts, s.name ≠ name) :
    c.find? name = none :=
  List.find?_eq_none.mpr fun s hs ↦ by simpa using h s hs

theorem mem_recommended_standard {s : Script} :
    s ∈ c.recommended .standard ↔ s ∈ c.scripts ∧ s.level = some .standard := by
  unfold recommended
  rw [List.mem_filter]
  refine and_congr_right fun _ ↦ ?_
  cases s.level with
  | none => simp
  | some level => cases level <;> simp [Level.includes]

theorem mem_recommended_strict {s : Script} :
    s ∈ c.recommended .strict ↔
      s ∈ c.scripts ∧ (s.level = some .standard ∨ s.level = some .strict) := by
  unfold recommended
  rw [List.mem_filter]
  refine and_congr_right fun _ ↦ ?_
  cases s.level with
  | none => simp
  | some level => cases level <;> simp [Level.includes]

theorem recommended_sublist (level : Level) : (c.recommended level).Sublist c.scripts :=
  List.filter_sublist

/-- What is recommended at the safest level is recommended at the other one too, in its order. -/
theorem recommended_standard_sublist_strict :
    (c.recommended .standard).Sublist (c.recommended .strict) := by
  refine List.monotone_filter_right c.scripts fun s hs ↦ ?_
  cases hlevel : s.level with
  | none => simp [hlevel] at hs
  | some level => rfl

/-- Every collection that is built is valid: its categories have names and members at any depth, its
scripts have names and valid code, and no two of them the same name. So each script is found by its
name, and nothing by any other name. The scripts that are recommended at a level are some of the
scripts in their order, exactly those whose level is accepted there. -/
theorem isValid_of_isBuilt (h : c.IsBuilt project date) :
    c.IsValid ∧
      (∀ s ∈ c.scripts, c.find? s.name = some s) ∧
      (∀ name, (∀ s ∈ c.scripts, s.name ≠ name) → c.find? name = none) ∧
      (c.recommended .standard).Sublist (c.recommended .strict) ∧
      (c.recommended .strict).Sublist c.scripts ∧
      (∀ s, s ∈ c.recommended .standard ↔ s ∈ c.scripts ∧ s.level = some .standard) ∧
      ∀ s, s ∈ c.recommended .strict ↔
        s ∈ c.scripts ∧ (s.level = some .standard ∨ s.level = some .strict) := by
  have hvalid := h.isValid
  exact ⟨hvalid, fun s hs ↦ find?_eq_some_of_mem hvalid.distinct hs,
    fun name hname ↦ find?_eq_none_of_forall_ne hname, recommended_standard_sublist_strict,
    recommended_sublist .strict, fun s ↦ mem_recommended_standard, fun s ↦ mem_recommended_strict⟩

/-- A category with a script that calls a function and with a category below it, where a script is
written out. The function takes what it prints. -/
def nestedDefinition : Definition.Collection where
  os := some "windows"
  scripting := some ⟨some "batchfile", none, some "@echo off", none⟩
  functions :=
    [⟨some "Print", [⟨some "text", none, none⟩], some "echo \x7b\x7b $text \x7d\x7d", none, none⟩]
  actions :=
    [⟨some "System", none, some
      [.script ⟨some "Greet", none, none, none,
        some (.one ⟨some "Print", some ⟨[("text", .text "hello")], by decide⟩⟩), some "strict"⟩,
      .category (some "Files") none (some
        [.script ⟨some "Clean", none, some "del a\ndel b", some "echo undo", none,
          some "Standard"⟩])]⟩]

/-- The script that calls the function. -/
def greetScript : Script := ⟨"Greet", [], some .strict, ⟨"echo hello", none⟩⟩

/-- The script that is written out. -/
def cleanScript : Script := ⟨"Clean", [], some .standard, ⟨"del a\ndel b", some "echo undo"⟩⟩

theorem exists_isBuilt_nested :
    ∃ c : Collection, c.IsBuilt ⟨"sample", "1.0", ""⟩ ⟨2024, 5, 17⟩ ∧
      c.scripts = [greetScript, cleanScript] := by
  have hscripts : (nestedDefinition.build ⟨"sample", "1.0", ""⟩ ⟨2024, 5, 17⟩).toOption.map
      scripts = some [greetScript, cleanScript] := by
    decide +kernel
  obtain ⟨c, hoption, hc⟩ := Option.map_eq_some_iff.mp hscripts
  exact ⟨c, .inl ⟨nestedDefinition, eq_ok_of_toOption hoption⟩, hc⟩

/-- Both scripts are found by their names, and one of them is recommended at the safest level. -/
theorem isValid_of_isBuilt_nested :
    ∃ c : Collection, c.IsBuilt ⟨"sample", "1.0", ""⟩ ⟨2024, 5, 17⟩ ∧ c.IsValid ∧
      c.find? "Greet" = some greetScript ∧ c.find? "Clean" = some cleanScript ∧
      c.find? "Files" = none ∧ cleanScript ∈ c.recommended .standard ∧
      greetScript ∉ c.recommended .standard := by
  obtain ⟨c, hbuilt, hscripts⟩ := exists_isBuilt_nested
  obtain ⟨hvalid, hfound, hmissing, -, -, hstandard, -⟩ := isValid_of_isBuilt hbuilt
  rw [hscripts] at hfound hmissing
  refine ⟨c, hbuilt, hvalid, hfound greetScript (by decide), hfound cleanScript (by decide),
    hmissing "Files" (by decide), ?_, ?_⟩
  · rw [hstandard, hscripts]
    decide
  · rw [hstandard, hscripts]
    decide

end Collection

end Scriptorium
