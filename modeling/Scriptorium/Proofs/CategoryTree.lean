import Mathlib.Data.List.Perm.Basic
import Scriptorium.Proofs.ValidCollection

/-!
# Trees of categories

What is made of the tree of a category definition. The children of a category are scripts and
categories in any order, and they are sorted into the two kinds (`scriptsAmong`, `categoriesAmong`).
A node of the tree is proper if it can be built by itself: a script if it is built, and a category
if it has a name, children and documentation that is not blank (`Child.IsProper`). The definition is
built exactly if every node of the tree is proper (`Category.exists_build_iff`).

Nothing is lost and nothing comes twice, at any depth. The leaves of the tree can be told in the
order in which they stand (`Child.leaves`), or with the scripts of each category before those of the
categories in it (`Child.ownFirst`); they are the same leaves (`leaves_perm_ownFirst`). The scripts
of the category that is built are what the leaves are built into in the second order
(`Category.build_keeps`).

Every category is told by what its children give (`Category.build_eq_ok_iff`). The rest is by
induction on the tree, in which a category comes after the categories among its children
(`Category.induction`).
-/

set_option autoImplicit false
set_option relaxedAutoImplicit false

namespace Scriptorium

namespace Documentation

/-- The addresses that documentation gives. -/
def urlsOf : Option Definition.Docs → List String
  | none => []
  | some (.one url) => [url]
  | some (.many urls) => urls

/-- Addresses are taken over as they are if none of them is blank. -/
theorem ofItems?_map_eq_ok_iff {given urls : List String} :
    ofItems? (given.map .text) = .ok urls ↔
      (∀ url ∈ given, ∃ c ∈ url.toList, Text.isBlank c = false) ∧ urls = given := by
  induction given generalizing urls with
  | nil =>
    rw [List.map_nil, ofItems?, Except.ok.injEq, eq_comm]
    exact (and_iff_right (List.forall_mem_nil _)).symm
  | cons url rest ih =>
    have hblank : Text.isBlankText url.toList = false ↔
        ∃ c ∈ url.toList, Text.isBlank c = false := by
      simp [Text.isBlankText]
    rw [List.map_cons, ofItems?, List.forall_mem_cons, ← hblank]
    cases Text.isBlankText url.toList with
    | true => simp
    | false =>
      simp only [Bool.false_eq_true, if_false, true_and]
      rw [bind_eq_ok_iff]
      constructor
      · rintro ⟨others, hrest, hurls⟩
        obtain rfl := Except.ok.inj hurls
        obtain ⟨hothers, rfl⟩ := ih.mp hrest
        exact ⟨hothers, rfl⟩
      · rintro ⟨hothers, rfl⟩
        exact ⟨rest, ih.mpr ⟨hothers, rfl⟩, rfl⟩

/-- Documentation is taken over as it is if none of it is blank. -/
theorem ofDefinition?_eq_ok_iff {docs : Option Definition.Docs} {urls : List String} :
    ofDefinition? docs = .ok urls ↔
      (∀ url ∈ urlsOf docs, ∃ c ∈ url.toList, Text.isBlank c = false) ∧ urls = urlsOf docs := by
  rw [← ofItems?_map_eq_ok_iff]
  rcases docs with _ | _ | _ <;> rfl

end Documentation

namespace Definition

open Documentation (urlsOf)

variable {context : Context}

/-! ### Trees -/

/-- The scripts among children, in order. -/
def scriptsAmong (children : List Child) : List Script :=
  children.filterMap fun
    | .script s => some s
    | .category _ _ _ => none

/-- The categories among children, in order. -/
def categoriesAmong (children : List Child) : List Category :=
  children.filterMap fun
    | .script _ => none
    | .category name docs children => some ⟨name, docs, children⟩

/-- The children of a category. -/
def Category.members (d : Category) : List Child := d.children.getD []

/-- Whether a node is in the tree of a child. -/
inductive Child.Contains : Child → Child → Prop
  | self (child : Child) : Contains child child
  | inside {name : Option String} {docs : Option Docs} {children : Option (List Child)}
      {child node : Child} (hchild : child ∈ children.getD []) (hnode : Contains child node) :
      Contains (.category name docs children) node

/-- Whether a category has a name, children and documentation that is not blank. -/
structure Category.IsProper (d : Category) : Prop where
  named : d.name.getD "" ≠ ""
  inhabited : d.members ≠ []
  documented : ∀ url ∈ urlsOf d.docs, ∃ c ∈ url.toList, Text.isBlank c = false

theorem Category.IsProper.name_eq {d : Category} (h : d.IsProper) :
    d.name = some (d.name.getD "") :=
  (Option.getD_of_ne_none (fun hnone ↦ h.named (by rw [hnone]; rfl)) "").symm

/-- Whether a node can be built by itself, whatever is below it. -/
def Child.IsProper (context : Context) : Child → Prop
  | .script s => ∃ script, s.build context = .ok script
  | .category name docs children => (Category.mk name docs children).IsProper

mutual

/-- The scripts in the tree of a child, in the order in which they stand. -/
def Child.leaves : Child → List Script
  | .script s => [s]
  | .category _ _ none => []
  | .category _ _ (some children) => leavesOf children

/-- The scripts in the trees of children, in the order in which they stand. -/
def leavesOf : List Child → List Script
  | [] => []
  | c :: rest => c.leaves ++ leavesOf rest

end

mutual

/-- The scripts in the tree of a child, those of a category before those of the categories in it. -/
def Child.ownFirst : Child → List Script
  | .script s => [s]
  | .category _ _ none => []
  | .category _ _ (some children) => scriptsAmong children ++ lowerOf children

/-- The scripts in the trees of the categories among children. -/
def lowerOf : List Child → List Script
  | [] => []
  | .script _ :: rest => lowerOf rest
  | .category name docs children :: rest =>
    (Child.category name docs children).ownFirst ++ lowerOf rest

end

theorem Category.sizeOf_lt_of_mem {d below : Category} (h : below ∈ categoriesAmong d.members) :
    sizeOf below < sizeOf d := by
  obtain ⟨child, hchild, hbelow⟩ := List.mem_filterMap.mp h
  obtain ⟨name, docs, children⟩ := d
  cases child with
  | script s => cases hbelow
  | category ownName ownDocs ownChildren =>
    obtain rfl := Option.some.inj hbelow
    cases children with
    | none => cases hchild
    | some children =>
      have hlt : sizeOf (Child.category ownName ownDocs ownChildren) < sizeOf children :=
        List.sizeOf_lt_of_mem hchild
      simp only [Child.category.sizeOf_spec, Category.mk.sizeOf_spec,
        Option.some.sizeOf_spec] at hlt ⊢
      omega

/-- What holds of a category if it holds of the categories among its children holds of all. -/
@[elab_as_elim]
theorem Category.induction {P : Category → Prop}
    (step : ∀ d : Category, (∀ below ∈ categoriesAmong d.members, P below) → P d) (d : Category) :
    P d :=
  step d fun below _ ↦ Category.induction step below
termination_by sizeOf d
decreasing_by exact Category.sizeOf_lt_of_mem (by assumption)

/-! ### Children -/

theorem scriptsAmong_script (s : Script) (rest : List Child) :
    scriptsAmong (.script s :: rest) = s :: scriptsAmong rest := rfl

theorem scriptsAmong_category (d : Category) (rest : List Child) :
    scriptsAmong (d.toChild :: rest) = scriptsAmong rest := rfl

theorem categoriesAmong_script (s : Script) (rest : List Child) :
    categoriesAmong (.script s :: rest) = categoriesAmong rest := rfl

theorem categoriesAmong_category (d : Category) (rest : List Child) :
    categoriesAmong (d.toChild :: rest) = d :: categoriesAmong rest := rfl

/-- A child is a script or a category. -/
theorem Child.eq_script_or_toChild (child : Child) :
    (∃ s, child = .script s) ∨ ∃ d : Category, child = d.toChild := by
  cases child with
  | script s => exact .inl ⟨s, rfl⟩
  | category name docs children => exact .inr ⟨⟨name, docs, children⟩, rfl⟩

/-- What holds of all children holds of the scripts and of the categories among them. -/
theorem forall_mem_children_iff {P : Child → Prop} {children : List Child} :
    (∀ child ∈ children, P child) ↔
      (∀ s ∈ scriptsAmong children, P (.script s)) ∧
        ∀ d ∈ categoriesAmong children, P d.toChild := by
  induction children with
  | nil => simp [scriptsAmong, categoriesAmong]
  | cons child rest ih =>
    rw [List.forall_mem_cons, ih]
    obtain ⟨s, rfl⟩ | ⟨d, rfl⟩ := child.eq_script_or_toChild
    · rw [scriptsAmong_script, categoriesAmong_script, List.forall_mem_cons, and_assoc]
    · rw [scriptsAmong_category, categoriesAmong_category, List.forall_mem_cons, and_left_comm]

/-- The tree of a script is the script. -/
theorem Child.forall_contains_script_iff {P : Child → Prop} {s : Script} :
    (∀ node, (Child.script s).Contains node → P node) ↔ P (.script s) := by
  constructor
  · exact fun h ↦ h _ (.self _)
  · intro h node hnode
    cases hnode
    exact h

/-- What holds of all nodes of the tree of a category holds of the category and of the nodes of the
trees of its children. -/
theorem Category.forall_contains_iff {P : Child → Prop} {d : Category} :
    (∀ node, d.toChild.Contains node → P node) ↔
      P d.toChild ∧ ∀ child ∈ d.members, ∀ node, child.Contains node → P node := by
  constructor
  · intro h
    exact ⟨h _ (.self _), fun child hchild node hnode ↦ h node (.inside hchild hnode)⟩
  · rintro ⟨hself, hbelow⟩ node hnode
    obtain ⟨name, docs, children⟩ := d
    cases hnode with
    | self => exact hself
    | inside hchild hnode => exact hbelow _ hchild _ hnode

/-! ### One level -/

/-- What is built of a category: its name, its documentation, and what its children are built into,
those of either kind in order. -/
structure Category.Gives (d : Category) (context : Context) (c : Scriptorium.Category) : Prop where
  name : d.name = some c.name
  documentation : c.documentation = urlsOf d.docs
  scripts :
    List.Forall₂ (fun s script ↦ Script.build s context = .ok script) (scriptsAmong d.members)
      c.scripts
  categories :
    List.Forall₂ (fun below category ↦ Category.build below context = .ok category)
      (categoriesAmong d.members) c.categories

/-- Children are built exactly if each is, and what they give are the scripts and the categories in
order. -/
theorem buildChildren_eq_ok_iff {children : List Child} {m : Members} :
    buildChildren context children = .ok m ↔
      List.Forall₂ (fun s script ↦ Script.build s context = .ok script) (scriptsAmong children)
        m.scripts ∧
      List.Forall₂ (fun d category ↦ Category.build d context = .ok category)
        (categoriesAmong children) m.categories := by
  induction children generalizing m with
  | nil =>
    rw [buildChildren, scriptsAmong, categoriesAmong, List.filterMap_nil, List.filterMap_nil,
      List.forall₂_nil_left_iff, List.forall₂_nil_left_iff]
    obtain ⟨scripts, categories⟩ := m
    simp [eq_comm]
  | cons child rest ih =>
    obtain ⟨scripts, categories⟩ := m
    rw [buildChildren_cons_eq_ok_iff]
    obtain ⟨s, rfl⟩ | ⟨d, rfl⟩ := child.eq_script_or_toChild
    · rw [scriptsAmong_script, categoriesAmong_script]
      constructor
      · rintro ⟨first, others, hfirst, hrest, hm⟩
        obtain ⟨script, hscript, rfl⟩ := Child.build_script_eq_ok_iff.mp hfirst
        obtain ⟨rfl, rfl⟩ := Members.mk.inj hm
        obtain ⟨hscripts, hcategories⟩ := ih.mp hrest
        exact ⟨.cons hscript hscripts, hcategories⟩
      · rintro ⟨hscripts, hcategories⟩
        obtain ⟨script, others, hscript, hrest, rfl⟩ := List.forall₂_cons_left_iff.mp hscripts
        exact ⟨⟨[script], []⟩, ⟨others, categories⟩,
          Child.build_script_eq_ok_iff.mpr ⟨script, hscript, rfl⟩, ih.mpr ⟨hrest, hcategories⟩, rfl⟩
    · rw [scriptsAmong_category, categoriesAmong_category]
      constructor
      · rintro ⟨first, others, hfirst, hrest, hm⟩
        obtain ⟨category, hcategory, rfl⟩ := Category.build_toChild_eq_ok_iff.mp hfirst
        obtain ⟨rfl, rfl⟩ := Members.mk.inj hm
        obtain ⟨hscripts, hcategories⟩ := ih.mp hrest
        exact ⟨hscripts, .cons hcategory hcategories⟩
      · rintro ⟨hscripts, hcategories⟩
        obtain ⟨category, others, hcategory, hrest, rfl⟩ :=
          List.forall₂_cons_left_iff.mp hcategories
        exact ⟨⟨[], [category]⟩, ⟨scripts, others⟩,
          Category.build_toChild_eq_ok_iff.mpr ⟨category, hcategory, rfl⟩,
          ih.mpr ⟨hscripts, hrest⟩, rfl⟩

/-- A category is built exactly if it is proper and each of its children is built. -/
theorem Category.build_eq_ok_iff {d : Category} {c : Scriptorium.Category} :
    d.build context = .ok c ↔ d.IsProper ∧ d.Gives context c := by
  have hmembers : ∀ {name : String} {m : Members}, buildMembers context name d.children = .ok m ↔
      d.members ≠ [] ∧ buildChildren context d.members = .ok m := by
    intro name m
    rw [members]
    cases d.children with
    | none => simp [buildMembers]
    | some children => cases children <;> simp [buildMembers]
  rw [build]
  by_cases hname : d.name.getD "" = ""
  · simp only [if_pos hname]
    exact iff_of_false (fun h ↦ by cases h) fun h ↦ h.1.named hname
  · simp only [if_neg hname]
    constructor
    · intro h
      obtain ⟨m, hm, hdocs⟩ := bind_eq_ok_iff.mp h
      obtain ⟨urls, hurls, hresult⟩ := bind_eq_ok_iff.mp hdocs
      obtain rfl := Except.ok.inj hresult
      obtain ⟨hinhabited, hchildren⟩ := hmembers.mp hm
      obtain ⟨hscripts, hcategories⟩ := buildChildren_eq_ok_iff.mp hchildren
      obtain ⟨hdocumented, rfl⟩ := Documentation.ofDefinition?_eq_ok_iff.mp hurls
      have hproper : d.IsProper := ⟨hname, hinhabited, hdocumented⟩
      exact ⟨hproper, hproper.name_eq, rfl, hscripts, hcategories⟩
    · rintro ⟨hproper, hgives⟩
      obtain ⟨name, documentation, scripts, categories⟩ := c
      have hchildren : buildChildren context d.members = .ok ⟨scripts, categories⟩ :=
        buildChildren_eq_ok_iff.mpr ⟨hgives.scripts, hgives.categories⟩
      have hdocs : Documentation.ofDefinition? d.docs = .ok documentation :=
        Documentation.ofDefinition?_eq_ok_iff.mpr ⟨hproper.documented, hgives.documentation⟩
      refine bind_eq_ok_iff.mpr ⟨_, hmembers.mpr ⟨hproper.inhabited, hchildren⟩, ?_⟩
      refine bind_eq_ok_iff.mpr ⟨_, hdocs, ?_⟩
      rw [hgives.name]
      rfl

/-! ### The whole tree -/

/-- A category is built exactly if every node of its tree can be built by itself. -/
theorem Category.exists_build_iff {d : Category} :
    (∃ c, d.build context = .ok c) ↔
      ∀ node, d.toChild.Contains node → node.IsProper context := by
  induction d using Category.induction with
  | step d ih =>
    -- the nodes below are told by the children: a script is one node, a category its whole tree
    have hchildren : (∀ child ∈ d.members, ∀ node, child.Contains node → node.IsProper context) ↔
        (∀ s ∈ scriptsAmong d.members, ∃ script, s.build context = .ok script) ∧
          ∀ below ∈ categoriesAmong d.members, ∃ c, below.build context = .ok c := by
      rw [forall_mem_children_iff]
      refine and_congr (forall₂_congr fun s _ ↦ ?_) (forall₂_congr fun below hbelow ↦ ?_)
      · exact Child.forall_contains_script_iff
      · exact (ih below hbelow).symm
    rw [Category.forall_contains_iff, hchildren, ← exists_forall₂_iff, ← exists_forall₂_iff]
    constructor
    · rintro ⟨c, hc⟩
      obtain ⟨hproper, hgives⟩ := Category.build_eq_ok_iff.mp hc
      exact ⟨hproper, ⟨c.scripts, hgives.scripts⟩, ⟨c.categories, hgives.categories⟩⟩
    · rintro ⟨hproper, ⟨scripts, hscripts⟩, ⟨categories, hcategories⟩⟩
      exact ⟨⟨d.name.getD "", urlsOf d.docs, scripts, categories⟩, Category.build_eq_ok_iff.mpr
        ⟨hproper, hproper.name_eq, rfl, hscripts, hcategories⟩⟩

/-! ### Leaves -/

theorem leavesOf_eq (children : List Child) :
    leavesOf children = children.flatMap Child.leaves := by
  induction children with
  | nil => rfl
  | cons c rest ih => rw [leavesOf, ih, List.flatMap_cons]

theorem lowerOf_eq (children : List Child) :
    lowerOf children = (categoriesAmong children).flatMap fun d ↦ d.toChild.ownFirst := by
  induction children with
  | nil => rfl
  | cons c rest ih =>
    obtain ⟨s, rfl⟩ | ⟨d, rfl⟩ := c.eq_script_or_toChild
    · rw [lowerOf, ih, categoriesAmong_script]
    · rw [categoriesAmong_category, List.flatMap_cons, ← ih]
      rfl

theorem Category.leaves_toChild (d : Category) :
    d.toChild.leaves = d.members.flatMap Child.leaves := by
  obtain ⟨name, docs, _ | children⟩ := d
  · rfl
  · exact leavesOf_eq children

theorem Category.ownFirst_toChild (d : Category) :
    d.toChild.ownFirst = scriptsAmong d.members ++
      (categoriesAmong d.members).flatMap fun below ↦ below.toChild.ownFirst := by
  obtain ⟨name, docs, _ | children⟩ := d
  · rfl
  · rw [Category.toChild, Child.ownFirst, lowerOf_eq]
    rfl

/-- The leaves of children are the scripts among them and the leaves of the categories. -/
theorem flatMap_leaves_perm (children : List Child) :
    (children.flatMap Child.leaves).Perm
      (scriptsAmong children ++ (categoriesAmong children).flatMap fun d ↦ d.toChild.leaves) := by
  induction children with
  | nil => exact .nil
  | cons c rest ih =>
    rw [List.flatMap_cons]
    obtain ⟨s, rfl⟩ | ⟨d, rfl⟩ := c.eq_script_or_toChild
    · exact ih.cons s
    · rw [scriptsAmong_category, categoriesAmong_category, List.flatMap_cons]
      -- the leaves of a category move behind the scripts that come after it
      exact (ih.append_left _).trans (List.perm_append_comm_assoc _ _ _)

/-- The scripts of categories before those of the categories in them are all the leaves. -/
theorem Category.leaves_perm_ownFirst (d : Category) :
    d.toChild.leaves.Perm d.toChild.ownFirst := by
  induction d using Category.induction with
  | step d ih =>
    rw [leaves_toChild, ownFirst_toChild]
    exact (flatMap_leaves_perm d.members).trans (.append_left _ (.flatMap_left _ ih))

/-- The scripts of a category that is built are what its leaves are built into, the scripts of each
category before those of the categories in it. -/
theorem Category.forall₂_allScripts {d : Category} {c : Scriptorium.Category}
    (h : d.build context = .ok c) :
    List.Forall₂ (fun s script ↦ Script.build s context = .ok script) d.toChild.ownFirst
      c.allScripts := by
  induction d using Category.induction generalizing c with
  | step d ih =>
    obtain ⟨-, hgives⟩ := Category.build_eq_ok_iff.mp h
    -- each category among the children with the scripts that it is built with
    have hbelow : List.Forall₂ (fun below category ↦
        List.Forall₂ (fun s script ↦ Script.build s context = .ok script)
          (Category.toChild below).ownFirst (Scriptorium.Category.allScripts category))
        (categoriesAmong d.members) c.categories :=
      ((List.forall₂_and_left _ _).mpr ⟨ih, hgives.categories⟩).imp fun _ _ hboth ↦ hboth.1 hboth.2
    rw [ownFirst_toChild, Scriptorium.Category.allScripts_eq, scriptsOfAll_eq]
    exact List.rel_append hgives.scripts (List.rel_flatMap hbelow fun _ _ hown ↦ hown)

/-- What becomes of the tree of a definition. It is built exactly if every category in it has a
name, children and documentation that is not blank, and every script in it is built. Then the
scripts of the category are what the scripts among the children are built into, and its categories
what the categories among them are built into, in order. The scripts at any depth are what the
leaves are built into, those of each category before those of the categories in it. So each leaf is
there just once, however scripts and categories are mixed. -/
theorem Category.build_keeps (d : Category) (context : Context) :
    ((∃ c, d.build context = .ok c) ↔
      ∀ node, d.toChild.Contains node → node.IsProper context) ∧
    ∀ c, d.build context = .ok c →
      d.Gives context c ∧
      List.Forall₂ (fun s script ↦ Script.build s context = .ok script) d.toChild.ownFirst
        c.allScripts ∧
      (d.toChild.leaves.map fun s ↦ s.build context).Perm (c.allScripts.map .ok) := by
  refine ⟨exists_build_iff, fun c h ↦ ?_⟩
  have hscripts := forall₂_allScripts h
  have hmap : (d.toChild.ownFirst.map fun s ↦ s.build context) = c.allScripts.map .ok := by
    rw [← List.forall₂_eq_eq_eq, List.forall₂_map_left_iff, List.forall₂_map_right_iff]
    exact hscripts
  exact ⟨(build_eq_ok_iff.mp h).2, hscripts, hmap ▸ d.leaves_perm_ownFirst.map _⟩

/-- A script of a name with code. -/
def plainScript (name code : String) : Script := ⟨some name, none, some code, none, none, none⟩

/-- A category in which scripts and categories take turns, at two depths. -/
def mixedDefinition : Category where
  name := some "System"
  docs := some (.one "manual")
  children := some
    [.category (some "Files") none (some
      [.category (some "Temporary") none (some [.script (plainScript "Clean" "rm a")]),
        .script (plainScript "List" "ls")]),
      .script (plainScript "Greet" "echo hello")]

/-- The scripts are told from the outermost category inwards. -/
theorem Category.build_keeps_mixed :
    ∃ c, mixedDefinition.build ⟨.empty, .shell⟩ = .ok c ∧
      c.allScripts.map Scriptorium.Script.name = ["Greet", "List", "Clean"] ∧
      (mixedDefinition.toChild.leaves.map fun s ↦ s.build ⟨.empty, .shell⟩).Perm
        (c.allScripts.map .ok) := by
  have hnames : (mixedDefinition.build ⟨.empty, .shell⟩).toOption.map
      (fun c ↦ c.allScripts.map Scriptorium.Script.name) = some ["Greet", "List", "Clean"] := by
    decide +kernel
  obtain ⟨c, hc, hallScripts⟩ := exists_eq_ok_of_map_toOption hnames
  obtain ⟨-, hbuilt⟩ := build_keeps mixedDefinition ⟨.empty, .shell⟩
  obtain ⟨-, -, hperm⟩ := hbuilt c hc
  exact ⟨c, hc, hallScripts, hperm⟩

end Definition

end Scriptorium
