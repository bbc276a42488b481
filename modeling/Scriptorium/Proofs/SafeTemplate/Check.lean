import Scriptorium.Proofs.Passage.Check
import Scriptorium.Proofs.SafeTemplate.Fold
import Scriptorium.Proofs.SafeTemplate.Render

/-!
# Checks that cannot fault

A template that is made of safe expressions is accepted, or refused with the line of a filter, a
test or a loop that is wrong (`yields_checkTemplate`). A frame only ever gains names
(`Frame.within_addBody`), so each name that is read is found when its turn comes. What is accepted
is made of expressions that have their kinds wherever a condition might lead.
-/

set_option autoImplicit false
set_option relaxedAutoImplicit false

namespace Scriptorium.Template

/-! ### Names that are found -/

namespace Frame

/-- Whether a frame has every name of another one. -/
def Includes (g f : Frame) : Prop := ∀ n, f.has n = true → g.has n = true

/-- Whether frames have a name. -/
def Binds (frames : List Frame) (n : String) : Prop := (levelOf? n frames).isSome = true

variable {outer : List Frame} {f g h : Frame}

theorem includes_refl (f : Frame) : f.Includes f := fun _ hn ↦ hn

theorem Includes.trans (hhg : h.Includes g) (hgf : g.Includes f) : h.Includes f :=
  fun n hn ↦ hhg n (hgf n hn)

theorem binds_cons {n : String} : Binds (f :: outer) n ↔ f.has n = true ∨ Binds outer n := by
  rw [Binds, levelOf?]
  by_cases hhas : f.has n = true
  · simp [hhas]
  · simp [hhas, Binds]

theorem Includes.binds (hgf : g.Includes f) {n : String} (hn : Binds (f :: outer) n) :
    Binds (g :: outer) n :=
  binds_cons.mpr ((binds_cons.mp hn).imp_left (hgf n))

/-- A frame has a name of its own once its source is set. -/
theorem has_setSource (name : String) (source : Source) (f : Frame) (assigned : List String)
    (n : String) :
    (Frame.mk (setSource name source f.sources) assigned).has n = (f.has n || name == n) :=
  any_setSource name source f.sources n

theorem includes_read (f : Frame) (name : String) : (f.read outer name).Includes f := by
  intro n hn
  rw [read]
  split
  · exact hn
  · rw [has_setSource, hn, Bool.true_or]

theorem binds_read (f : Frame) (name : String) : Binds (f.read outer name :: outer) name := by
  rw [read]
  split
  · assumption
  · rw [binds_cons, has_setSource, beq_self_eq_true, Bool.or_true]
    exact .inl rfl

theorem includes_readAll (f : Frame) (names : List String) :
    (f.readAll outer names).Includes f := by
  induction names generalizing f with
  | nil => exact includes_refl f
  | cons name rest ih => exact (ih (f.read outer name)).trans (includes_read f name)

/-- Names that are read are found from then on. -/
theorem binds_readAll (f : Frame) {names : List String} {n : String} (hn : n ∈ names) :
    Binds (f.readAll outer names :: outer) n := by
  induction names generalizing f with
  | nil => cases hn
  | cons name rest ih =>
    rcases List.mem_cons.mp hn with rfl | hrest
    · exact (includes_readAll (f.read outer n) rest).binds (binds_read f n)
    · exact ih (f.read outer name) hrest

theorem includes_assign (f : Frame) (name : String) : (f.assign outer name).Includes f := by
  intro n hn
  rw [assign]
  split
  · exact hn
  · exact (has_setSource name _ f _ n).trans (by rw [hn, Bool.true_or])

theorem includes_assignTarget (f : Frame) (target : Target) :
    (f.assignTarget outer target).Includes f := by
  have hassign : ∀ (names : List String) (f : Frame),
      (names.foldl (assign outer) f).Includes f := by
    intro names
    induction names with
    | nil => exact includes_refl
    | cons name rest ih => exact fun f ↦ (ih (f.assign outer name)).trans (includes_assign f name)
  exact (hassign target.names _).trans (includes_readAll f target.owners)

/-- Setting further sources takes no names away. -/
theorem any_foldl_setSource {done : List (String × Source)} {names : List String}
    {source : String → Source} {n : String} (h : done.any (·.1 == n) = true) :
    (names.foldl (fun s name ↦ setSource name (source name) s) done).any (·.1 == n) = true := by
  induction names generalizing done with
  | nil => exact h
  | cons name rest ih => exact ih (by rw [any_setSource, h, Bool.true_or])

/-- What several frames add to one has the names of all of them. -/
theorem has_merge {branches : List Frame} {n : String}
    (hn : f.has n = true ∨ ∃ b ∈ branches, b.has n = true) :
    (merge outer f branches).has n = true := by
  refine any_foldl_setSource ?_
  have hfold : ∀ (branches : List Frame) (done : List (String × Source)),
      (done.any (·.1 == n) = true ∨ ∃ b ∈ branches, b.has n = true) →
      (branches.foldl (fun done b ↦ setSources done b.sources) done).any (·.1 == n) = true := by
    intro branches
    induction branches with
    | nil => simp
    | cons b rest ih =>
      intro done hdone
      refine ih _ ?_
      rw [any_setSources, Bool.or_eq_true]
      rcases hdone with hdone | ⟨c, hc, hhas⟩
      · exact .inl (.inl hdone)
      · rcases List.mem_cons.mp hc with rfl | hrest
        · exact .inl (.inr hhas)
        · exact .inr ⟨c, hrest, hhas⟩
  exact hfold branches f.sources hn

theorem includes_merge (f : Frame) (branches : List Frame) :
    (merge outer f branches).Includes f := fun _ hn ↦ has_merge (.inl hn)

theorem includes_merge_of_mem {branches : List Frame} {b : Frame} (hb : b ∈ branches) :
    (merge outer f branches).Includes b := fun _ hn ↦ has_merge (.inr ⟨b, hb, hn⟩)

mutual

/-- A frame keeps its names when a statement is added. -/
theorem includes_addStatement (outer : List Frame) (f : Frame) : (s : Statement) →
    (addStatement outer f s).Includes f
  | .text _ => includes_refl f
  | .print value | .inclusion value _ | .extension _ value => includes_readAll f value.names
  | .branch [] otherwise => includes_addBody outer f otherwise
  | .branch ((test, _) :: _) _ => (includes_merge _ _).trans (includes_readAll f test.names)
  | .loop _ items _ _ _ _ => includes_readAll f items.names
  | .assign target value =>
    (includes_assignTarget _ target).trans (includes_readAll f value.names)
  | .capture target _ _ => includes_assignTarget f target
  | .filtered value _ => includes_readAll f value.names
  | .importation template name => (includes_assign _ name).trans (includes_readAll f template.names)

/-- A frame keeps its names when statements are added. -/
theorem includes_addBody (outer : List Frame) (f : Frame) : (body : List Statement) →
    (addBody outer f body).Includes f
  | [] => includes_refl f
  | s :: rest =>
    (includes_addBody outer (addStatement outer f s) rest).trans (includes_addStatement outer f s)

/-- A frame keeps its names when cases are added. -/
theorem includes_addCases (outer : List Frame) (f : Frame) :
    (cases : List (Expr × List Statement)) → (addCases outer f cases).Includes f
  | [] => includes_refl f
  | (test, _) :: rest =>
    ((includes_addCases outer _ rest).trans (includes_merge _ _)).trans
      (includes_readAll f test.names)

end

/-- Whether frames have the names that the test of a case reads, and the innermost has those that
its body adds to some frame. -/
structure Covers (g : Frame) (outer : List Frame) (test : Expr) (body : List Statement) : Prop where
  test : ∀ n ∈ test.names, Binds (g :: outer) n
  body : ∃ f, g.Includes (addBody outer f body)

theorem covers_of_addCases {cases : List (Expr × List Statement)} {f : Frame}
    (hg : g.Includes (addCases outer f cases)) : ∀ c ∈ cases, Covers g outer c.1 c.2 := by
  induction cases generalizing f with
  | nil => simp
  | cons c rest ih =>
    obtain ⟨test, body⟩ := c
    rw [addCases] at hg
    have hmerge := hg.trans (includes_addCases outer _ rest)
    refine List.forall_mem_cons.mpr ⟨⟨fun n hn ↦ ?_, f.readAll outer test.names, ?_⟩, ih hg⟩
    · exact (hmerge.trans (includes_merge _ _)).binds (binds_readAll f hn)
    · exact hmerge.trans (includes_merge_of_mem List.mem_cons_self)

/-- A frame with the names of a branch covers its cases, and has the names of its alternative. -/
theorem covers_of_branch {cases : List (Expr × List Statement)} {otherwise : List Statement}
    {f : Frame} (hg : g.Includes (addStatement outer f (.branch cases otherwise))) :
    (∀ c ∈ cases, Covers g outer c.1 c.2) ∧ ∃ f, g.Includes (addBody outer f otherwise) := by
  cases cases with
  | nil => exact ⟨by simp, f, hg⟩
  | cons c rest =>
    obtain ⟨test, body⟩ := c
    rw [addStatement] at hg
    have hfirst : Covers g outer test body :=
      ⟨fun n hn ↦ (hg.trans (includes_merge _ _)).binds (binds_readAll f hn),
        f.readAll outer test.names, hg.trans (includes_merge_of_mem List.mem_cons_self)⟩
    have hrest : ∀ c ∈ rest, Covers g outer c.1 c.2 :=
      covers_of_addCases (f := f.readAll outer test.names)
        (hg.trans (includes_merge_of_mem (List.mem_cons_of_mem _ List.mem_cons_self)))
    exact ⟨List.forall_mem_cons.mpr ⟨hfirst, hrest⟩, f.readAll outer test.names,
      hg.trans (includes_merge_of_mem (by simp))⟩

end Frame

/-! ### Expressions -/

/-- What is known of the names that an expression reads is all that its kind depends on. -/
theorem Expr.HasKind.of_names {known other : String → Prop} {k : ValueKind}
    {e : Expr} (h : e.HasKind known k) (hnames : ∀ n ∈ e.names, other n) :
    e.HasKind other k := by
  induction h with
  | literal => exact .literal
  | truth => exact .truth
  | nothing => exact .nothing
  | name _ => exact .name (hnames _ List.mem_cons_self)
  | body => exact .body
  | noElse => exact .noElse
  | not _ ih => exact .not (ih hnames)
  | and _ _ ihleft ihright =>
    obtain ⟨hleft, hright⟩ := List.forall_mem_append.mp hnames
    exact .and (ihleft hleft) (ihright hright)
  | or _ _ ihleft ihright =>
    obtain ⟨hleft, hright⟩ := List.forall_mem_append.mp hnames
    exact .or (ihleft hleft) (ihright hright)
  | concat _ ih =>
    exact .concat fun part hpart ↦ ih part hpart fun n hn ↦
      hnames n (mem_namesOfAll.mpr ⟨part, hpart, hn⟩)
  | choose _ _ _ ihtest ihyes ihno =>
    obtain ⟨hfirst, hno⟩ := List.forall_mem_append.mp hnames
    obtain ⟨htest, hyes⟩ := List.forall_mem_append.mp hfirst
    exact .choose (ihtest htest) (ihyes hyes) (ihno hno)
  | equality hrelations _ _ ihfirst ihothers =>
    obtain ⟨hfirst, hothers⟩ := List.forall_mem_append.mp hnames
    exact .equality hrelations (ihfirst hfirst) fun other hother ↦
      ihothers other hother fun n hn ↦ hothers n (mem_namesOfRelations.mpr ⟨other, hother, hn⟩)
  | order hrelations _ _ ihfirst ihothers =>
    obtain ⟨hfirst, hothers⟩ := List.forall_mem_append.mp hnames
    exact .order hrelations (ihfirst hfirst) fun other hother ↦
      ihothers other hother fun n hn ↦ hothers n (mem_namesOfRelations.mpr ⟨other, hother, hn⟩)
  | membership hrelation _ _ ihpart ihwhole =>
    obtain ⟨hpart, hwhole⟩ := List.forall_mem_append.mp hnames
    exact .membership hrelation (ihpart hpart) (ihwhole fun n hn ↦
      hwhole n (mem_namesOfRelations.mpr ⟨_, List.mem_cons_self, hn⟩))
  | filtered hname _ ih =>
    exact .filtered hname (ih (List.forall_mem_append.mp hnames).1)
  | replaced _ _ _ ihinput ihold ihnew =>
    rw [Expr.names, names_positional] at hnames
    obtain ⟨hinput, hvalues⟩ := List.forall_mem_append.mp hnames
    simp only [namesOfAll, List.append_nil] at hvalues
    obtain ⟨hold, hnew⟩ := List.forall_mem_append.mp hvalues
    exact .replaced (ihinput hinput) (ihold hold) (ihnew hnew)
  | defaulted hlength _ _ _ ihinput ihvalue ihflags =>
    rw [Expr.names, names_positional] at hnames
    obtain ⟨hinput, hvalues⟩ := List.forall_mem_append.mp hnames
    obtain ⟨hvalue, hflags⟩ := List.forall_mem_append.mp hvalues
    exact .defaulted hlength (ihinput hinput) (ihvalue hvalue) fun flag hflag ↦
      ihflags flag hflag fun n hn ↦ hflags n (mem_namesOfAll.mpr ⟨flag, hflag, hn⟩)
  | tested hname _ ih =>
    exact .tested hname (ih (List.forall_mem_append.mp hnames).1)
  | ofFilled _ ih => exact .ofFilled (ih hnames)
  | ofText _ ih => exact .ofText (ih hnames)

/-- Whether nothing wrong has been noted. -/
def Notes.IsFlawless (notes : Notes) : Prop := notes.flaw = none

variable {place : Place} {k : ValueKind} {e : Expr}

/-- Whether an expression is accepted as it is and has its kind wherever a condition might lead, or
else is refused for what is wrong with it. -/
abbrev Expr.IsChecked (place : Place) (k : ValueKind) (e : Expr) : Prop :=
  Keeps Notes.IsFlawless (e.check place) fun new ↦ new = e ∧ e.HasKind IsOrdinary k

/-- A constant that is there is accepted. -/
theorem ValueKind.IsPresent.isChecked {v : Item} (hv : k.IsPresent v) :
    (Expr.const v).IsChecked place k := by
  have hshown : Yields (fun _ ↦ True) v.shown := by
    rcases hv.eq with rfl | ⟨_ | _, rfl⟩ | ⟨s, rfl⟩ <;> exact trivial
  rw [Expr.IsChecked, Expr.check]
  exact Keeps.bind (safe_liftM hshown) fun _ _ ↦ keeps_pure ⟨rfl, hv.hasKind⟩

theorem safe_checkAll {es : List Expr} (h : ∀ e ∈ es, e.IsChecked place k) :
    Keeps Notes.IsFlawless (checkAll place es) fun news ↦
      news = es ∧ ∀ e ∈ es, e.HasKind IsOrdinary k := by
  induction es with
  | nil =>
    rw [checkAll]
    exact keeps_pure ⟨rfl, by simp⟩
  | cons e rest ih =>
    rw [checkAll]
    refine Keeps.bind (h e List.mem_cons_self) fun first hfirst ↦ ?_
    refine Keeps.bind (ih fun other hother ↦ h other (List.mem_cons_of_mem e hother))
      fun others hothers ↦ keeps_pure ?_
    exact ⟨by rw [hfirst.1, hothers.1], List.forall_mem_cons.mpr ⟨hfirst.2, hothers.2⟩⟩

theorem safe_checkRelations {others : List (Comparison × Expr)}
    (h : ∀ other ∈ others, other.2.IsChecked place k) :
    Keeps Notes.IsFlawless (checkRelations place others) fun news ↦
      news = others ∧ ∀ other ∈ others, other.2.HasKind IsOrdinary k := by
  induction others with
  | nil =>
    rw [checkRelations]
    exact keeps_pure ⟨rfl, by simp⟩
  | cons other rest ih =>
    obtain ⟨relation, e⟩ := other
    rw [checkRelations]
    refine Keeps.bind (h _ List.mem_cons_self) fun first hfirst ↦ ?_
    refine Keeps.bind (ih fun other hother ↦ h other (List.mem_cons_of_mem _ hother))
      fun others hothers ↦ keeps_pure ?_
    exact ⟨by rw [hfirst.1, hothers.1], List.forall_mem_cons.mpr ⟨hfirst.2, hothers.2⟩⟩

/-- Arguments by position alone are accepted if their expressions are. -/
theorem safe_checkPositional {values : List Expr} {Q : Prop}
    (h : Keeps Notes.IsFlawless (checkAll place values) fun news ↦ news = values ∧ Q) :
    Keeps Notes.IsFlawless ((Arguments.mk values [] none none).check place []) fun new ↦
      new = .mk values [] none none ∧ Q := by
  rw [Arguments.check]
  refine Keeps.bind h fun news hnews ↦ ?_
  exact keeps_pure ⟨by rw [hnews.1]; rfl, hnews.2⟩

/-- A filter that exists is accepted if its input and its arguments are. -/
theorem safe_checkFilter {line : Nat} {input : Expr} {name : String} {values : List Expr}
    {Q R : Prop}
    (hname : (Filter.ofName? name).isNone = false)
    (hinput : Keeps Notes.IsFlawless (input.check place) fun new ↦ new = input ∧ Q)
    (hvalues : Keeps Notes.IsFlawless (checkAll place values) fun news ↦ news = values ∧ R) :
    Keeps Notes.IsFlawless ((Expr.filter line input name (.mk values [] none none)).check place)
      fun new ↦ new = .filter line input name (.mk values [] none none) ∧ Q ∧ R := by
  rw [Expr.check, if_neg (by simp [hname])]
  refine Keeps.bind hinput fun i hi ↦ ?_
  refine Keeps.bind (safe_checkPositional hvalues) fun new hnew ↦ keeps_pure ?_
  exact ⟨by rw [hi.1, hnew.1], hi.2, hnew.2⟩

/-- A test that exists is accepted if its input and its arguments are. -/
theorem safe_checkTest {line : Nat} {input : Expr} {name : String} {values : List Expr}
    {Q R : Prop}
    (hname : (Test.ofName? name).isNone = false)
    (hinput : Keeps Notes.IsFlawless (input.check place) fun new ↦ new = input ∧ Q)
    (hvalues : Keeps Notes.IsFlawless (checkAll place values) fun news ↦ news = values ∧ R) :
    Keeps Notes.IsFlawless ((Expr.test line input name (.mk values [] none none)).check place)
      fun new ↦ new = .test line input name (.mk values [] none none) ∧ Q ∧ R := by
  rw [Expr.check, if_neg (by simp [hname])]
  refine Keeps.bind hinput fun i hi ↦ ?_
  refine Keeps.bind (safe_checkPositional hvalues) fun new hnew ↦ keeps_pure ?_
  exact ⟨by rw [hi.1, hnew.1], hi.2, hnew.2⟩

/-- The filters on texts exist. -/
theorem isNone_ofName?_of_mem_textFilters {name : String} (h : name ∈ textFilters) :
    (Filter.ofName? name).isNone = false := by
  have hall : ∀ name ∈ textFilters, (Filter.ofName? name).isNone = false := by decide
  exact hall name h

/-- An expression of a kind is accepted where all its names are found. -/
theorem Expr.HasKind.isChecked {frames : List Frame}
    (h : e.HasKind (fun n ↦ IsOrdinary n ∧ Frame.Binds frames n) k)
    (hframes : place.frames = frames) : e.IsChecked place k := by
  induction h generalizing place with
  | literal => exact (ValueKind.IsPresent.of_text _ _).isChecked
  | truth => exact (ValueKind.IsPresent.of_bool _).isChecked
  | nothing => exact ValueKind.IsPresent.isChecked ⟨trivial, rfl⟩
  | name hname =>
    obtain ⟨hordinary, hbinds⟩ := hname
    rw [IsChecked, check, hframes, ← Option.not_isSome, hbinds]
    exact keeps_pure ⟨rfl, .name hordinary⟩
  | body =>
    rw [IsChecked, check]
    exact keeps_pure ⟨rfl, .body⟩
  | noElse =>
    rw [IsChecked, check]
    exact keeps_pure ⟨rfl, .noElse⟩
  | not _ ih =>
    rw [IsChecked, check]
    refine (ih hframes).map fun new notes hnew ↦ ?_
    exact ⟨⟨by rw [hnew.1.1], .not hnew.1.2⟩, hnew.2⟩
  | and _ _ ihleft ihright =>
    rw [IsChecked, check]
    refine Keeps.bind (ihleft hframes) fun l hl ↦ ?_
    refine Keeps.bind (ihright hframes) fun r hr ↦ keeps_pure ?_
    exact ⟨by rw [hl.1, hr.1], .and hl.2 hr.2⟩
  | or _ _ ihleft ihright =>
    rw [IsChecked, check]
    refine Keeps.bind (ihleft hframes) fun l hl ↦ ?_
    refine Keeps.bind (ihright hframes) fun r hr ↦ keeps_pure ?_
    exact ⟨by rw [hl.1, hr.1], .or hl.2 hr.2⟩
  | concat _ ih =>
    rw [IsChecked, check]
    refine (safe_checkAll fun part hpart ↦ ih part hpart hframes).map
      fun news notes hnews ↦ ?_
    exact ⟨⟨by rw [hnews.1.1], .concat hnews.1.2⟩, hnews.2⟩
  | choose _ _ _ ihtest ihyes ihno =>
    rw [IsChecked, check]
    refine Keeps.bind (ihyes hframes) fun y hy ↦ ?_
    refine Keeps.bind (ihtest hframes) fun t ht ↦ ?_
    refine Keeps.bind (ihno hframes) fun n hn ↦ keeps_pure ?_
    exact ⟨by rw [ht.1, hy.1, hn.1], .choose ht.2 hy.2 hn.2⟩
  | equality hrelations _ _ ihfirst ihothers =>
    rw [IsChecked, check]
    refine Keeps.bind (ihfirst hframes) fun f hf ↦ ?_
    refine Keeps.bind (safe_checkRelations fun other hother ↦ ihothers other hother hframes)
      fun news hnews ↦ keeps_pure ?_
    exact ⟨by rw [hf.1, hnews.1], .equality hrelations hf.2 hnews.2⟩
  | order hrelations _ _ ihfirst ihothers =>
    rw [IsChecked, check]
    refine Keeps.bind (ihfirst hframes) fun f hf ↦ ?_
    refine Keeps.bind (safe_checkRelations fun other hother ↦ ihothers other hother hframes)
      fun news hnews ↦ keeps_pure ?_
    exact ⟨by rw [hf.1, hnews.1], .order hrelations hf.2 hnews.2⟩
  | @membership relation _ whole hrelation _ _ ihpart ihwhole =>
    have hothers : ∀ other ∈ [(relation, whole)], other.2.IsChecked place .text := by
      intro other hother
      obtain rfl := List.mem_singleton.mp hother
      exact ihwhole hframes
    rw [IsChecked, check]
    refine Keeps.bind (ihpart hframes) fun p hp ↦ ?_
    refine Keeps.bind (safe_checkRelations hothers) fun news hnews ↦ keeps_pure ?_
    exact ⟨by rw [hp.1, hnews.1], .membership hrelation hp.2 (hnews.2 _ List.mem_cons_self)⟩
  | filtered hname _ ih =>
    have hexists := isNone_ofName?_of_mem_textFilters hname
    refine (safe_checkFilter hexists (ih hframes)
      (safe_checkAll (k := .plain) (by simp))).mono fun new notes hnew ↦ ?_
    exact ⟨⟨hnew.1.1, .filtered hname hnew.1.2.1⟩, hnew.2⟩
  | replaced _ _ _ ihinput ihold ihnew =>
    refine (safe_checkFilter (by decide) (ihinput hframes)
      (safe_checkAll (k := .plain) ?_)).mono fun new notes hnew ↦ ?_
    · simpa using ⟨ihold hframes, ihnew hframes⟩
    · obtain ⟨hold, hnew'⟩ := List.forall_mem_cons.mp hnew.1.2.2
      exact ⟨⟨hnew.1.1, .replaced hnew.1.2.1 hold (hnew' _ List.mem_cons_self)⟩, hnew.2⟩
  | @defaulted j _ _ value flags hlength _ _ _ ihinput ihvalue ihflags =>
    have hvalues : Keeps Notes.IsFlawless (checkAll place (value :: flags)) fun news ↦
        news = value :: flags ∧ value.HasKind IsOrdinary j ∧
          ∀ flag ∈ flags, flag.HasKind IsOrdinary .plain := by
      rw [checkAll]
      refine Keeps.bind (ihvalue hframes) fun v hv ↦ ?_
      refine Keeps.bind (safe_checkAll fun flag hflag ↦ ihflags flag hflag hframes)
        fun fs hfs ↦ keeps_pure ?_
      exact ⟨by rw [hv.1, hfs.1], hv.2, hfs.2⟩
    refine (safe_checkFilter (by decide) (ihinput hframes) hvalues).mono fun new notes hnew ↦ ?_
    obtain ⟨hinput, hvalue, hflags⟩ := hnew.1.2
    exact ⟨⟨hnew.1.1, .defaulted hlength hinput hvalue hflags⟩, hnew.2⟩
  | tested hname _ ih =>
    have hexists : (Test.ofName? _).isNone = false := Option.isNone_eq_false_iff.mpr
      (Option.isSome_iff_ne_none.mpr hname)
    refine (safe_checkTest hexists (ih hframes)
      (safe_checkAll (k := .plain) (by simp))).mono fun new notes hnew ↦ ?_
    exact ⟨⟨hnew.1.1, .tested hname hnew.1.2.1⟩, hnew.2⟩
  | ofFilled _ ih =>
    exact (ih hframes).mono fun new notes hnew ↦ ⟨⟨hnew.1.1, .ofFilled hnew.1.2⟩, hnew.2⟩
  | ofText _ ih =>
    exact (ih hframes).mono fun new notes hnew ↦ ⟨⟨hnew.1.1, .ofText hnew.1.2⟩, hnew.2⟩

/-- An expression of a kind is no list, which would be made ready part by part. -/
theorem Expr.HasKind.prepare_eq {known : String → Prop} (h : e.HasKind known k) :
    e.prepare place = (do
      if heightLimit < e.height then throw (.fault .recursion)
      (← liftM e.fold).check place) := by
  induction h with
  | ofFilled _ ih => exact ih
  | ofText _ ih => exact ih
  | _ => rw [Expr.prepare] <;> simp

/-- A safe expression is made ready where all its names are found. It reads no names that it did not
read before. -/
theorem Expr.IsSafe.safe_ready (h : e.IsSafe k)
    (hnames : ∀ n ∈ e.names, Frame.Binds place.frames n) {around : Nat} (haround : around ≤ 1) :
    Keeps Notes.IsFlawless (e.ready place around) fun new ↦
      new.HasKind IsOrdinary k ∧ ∀ n ∈ new.names, n ∈ e.names := by
  obtain ⟨new, hfold, hnew⟩ := (h.hasKind.of_names fun _ hn ↦ hn).foldsTo
  have hread : ∀ n ∈ new.names, n ∈ e.names := fun n hn ↦ hnew.hasKind.known_of_mem_names hn
  have hbound : new.HasKind (fun n ↦ IsOrdinary n ∧ Frame.Binds place.frames n) k :=
    hnew.hasKind.of_names fun n hn ↦
      ⟨h.hasKind.known_of_mem_names (hread n hn), hnames n (hread n hn)⟩
  have hprepare : e.prepare place = new.check place := by
    rw [h.hasKind.prepare_eq, if_neg (Nat.not_lt.mpr h.height), hfold]
    rfl
  rw [ready, hprepare]
  refine Keeps.bind (hbound.isChecked rfl) fun prepared hprepared ↦ ?_
  obtain ⟨rfl, hkind⟩ := hprepared
  have hbrackets : ¬ bracketLimit < around + prepared.brackets place.frames := by
    have hle := hnew.brackets place.frames
    have hlt := h.brackets
    omega
  rw [if_neg hbrackets]
  exact keeps_pure ⟨hkind, hread⟩

/-! ### Statements -/

/-- Whether a place has room for statements with so many levels of indentation and so many loops in
one another, and nothing is left out there. -/
structure Place.HasRoom (place : Place) (levels loops : Nat) : Prop where
  unguarded : place.guarded = false
  indent : place.indent + levels < indentLimit
  loops : place.loops + loops ≤ loopLimit

/-- What is known of statements that are ready. -/
abbrev AreReady (levels loops : Nat) (body : List Statement) : Prop :=
  ∀ s ∈ body, s.IsMadeOf (fun k e ↦ e.HasKind IsOrdinary k) levels loops

variable {levels loops : Nat} {s : Statement}

theorem Statement.IsMadeOf.isExtension_eq_false {P : ValueKind → Expr → Prop}
    (h : s.IsMadeOf P levels loops) : s.isExtension = false := by
  cases h <;> rfl

/-- A body extends a template if one of its statements does. -/
theorem bodyExtends_eq_any (body : List Statement) :
    bodyExtends body = body.any Statement.extends := by
  induction body with
  | nil => rfl
  | cons s rest ih => rw [bodyExtends, ih, List.any_cons]

/-- The cases of a branch extend a template if the body of one does. -/
theorem caseExtends_eq_any (cases : List (Expr × List Statement)) :
    caseExtends cases = cases.any fun c ↦ c.2.any Statement.extends := by
  induction cases with
  | nil => rfl
  | cons c rest ih => rw [caseExtends, ih, List.any_cons, bodyExtends_eq_any]

/-- A statement that is made of expressions extends no template. -/
theorem Statement.IsMadeOf.extends_eq_false {P : ValueKind → Expr → Prop}
    (h : s.IsMadeOf P levels loops) : s.extends = false := by
  induction h with
  | text | print | assign => rfl
  | branch _ _ _ ihbodies ihotherwise =>
    rw [Statement.extends, caseExtends_eq_any, bodyExtends_eq_any, Bool.or_eq_false_iff]
    refine ⟨?_, by simpa using ihotherwise⟩
    simpa using ihbodies
  | loop _ _ _ _ ihbody ihotherwise =>
    rw [Statement.extends, bodyExtends_eq_any, bodyExtends_eq_any, Bool.or_eq_false_iff]
    exact ⟨by simpa using ihbody, by simpa using ihotherwise⟩
  | capture _ _ _ ihbody =>
    rw [Statement.extends, bodyExtends_eq_any]
    simpa using ihbody
  | filtered _ _ ihbody =>
    rw [Statement.extends, bodyExtends_eq_any]
    simpa using ihbody

/-- Enough room for levels is not used up. -/
theorem keeps_checkIndent {n : Nat} (h : place.indent + n < indentLimit) :
    Keeps Notes.IsFlawless (place.checkIndent n) fun _ ↦ True := by
  rw [Place.checkIndent, if_neg (Nat.not_le.mpr h)]
  exact keeps_pure trivial

/-- Statements are made ready if each of them is, where a frame has the names that they add. -/
theorem safe_checkBody {outer : List Frame} {g : Frame} {body : List Statement}
    (hextension : ∀ s ∈ body, s.isExtension = false)
    (h : ∀ s ∈ body, ∀ f, g.Includes (Frame.addStatement outer f s) →
      Keeps Notes.IsFlawless (s.check place) (AreReady levels loops))
    (f : Frame) (hframe : g.Includes (Frame.addBody outer f body)) :
    Keeps Notes.IsFlawless (checkBody place body) (AreReady levels loops) := by
  induction body generalizing f with
  | nil =>
    rw [checkBody]
    exact keeps_pure (List.forall_mem_nil _)
  | cons s rest ih =>
    rw [Frame.addBody] at hframe
    rw [checkBody]
    refine keeps_get_bind fun notes hnotes ↦ ?_
    refine Keeps.bind (h s List.mem_cons_self f
      (hframe.trans (Frame.includes_addBody outer _ rest))) fun first hfirst ↦ ?_
    have hplain : (notes.extended && s.isExtension) = false := by
      rw [hextension s List.mem_cons_self, Bool.and_false]
    simp only [hplain, Bool.false_eq_true, if_false]
    refine Keeps.bind (ih (fun t ht ↦ hextension t (List.mem_cons_of_mem s ht))
      (fun t ht ↦ h t (List.mem_cons_of_mem s ht)) _ hframe) fun others hothers ↦ keeps_pure ?_
    exact List.forall_mem_append.mpr ⟨hfirst, hothers⟩

/-- Cases are made ready if their tests and their bodies are. -/
theorem safe_checkCases {cases : List (Expr × List Statement)}
    (htests : ∀ c ∈ cases, Keeps Notes.IsFlawless
      (c.1.ready { place with soft := true, root := false } 0)
      fun new ↦ new.HasKind IsOrdinary .plain ∧ ∀ n ∈ new.names, n ∈ c.1.names)
    (hbodies : ∀ c ∈ cases, Keeps Notes.IsFlawless (checkBody place.ofCase c.2)
      (AreReady levels loops)) :
    Keeps Notes.IsFlawless (checkCases place cases) fun news ↦
      ∀ c ∈ news, c.1.HasKind IsOrdinary .plain ∧ AreReady levels loops c.2 := by
  induction cases with
  | nil =>
    rw [checkCases]
    exact keeps_pure (by simp)
  | cons c rest ih =>
    obtain ⟨test, body⟩ := c
    rw [checkCases]
    refine Keeps.bind (htests _ List.mem_cons_self) fun ready hready ↦ ?_
    refine Keeps.bind (hbodies _ List.mem_cons_self) fun inner hinner ↦ ?_
    refine Keeps.bind (ih (fun c hc ↦ htests c (List.mem_cons_of_mem _ hc))
      fun c hc ↦ hbodies c (List.mem_cons_of_mem _ hc)) fun others hothers ↦ keeps_pure ?_
    exact List.forall_mem_cons.mpr ⟨⟨hready.1, hinner⟩, hothers⟩

/-- A value of some kind is ready to be printed. -/
theorem safe_checkPrinted (h : e.IsSafe .plain)
    (hnames : ∀ n ∈ e.names, Frame.Binds place.frames n) :
    Keeps Notes.IsFlawless (checkPrinted place e) fun s ↦
      s.IsMadeOf (fun k e ↦ e.HasKind IsOrdinary k) levels loops := by
  rw [checkPrinted]
  split
  · exact keeps_pure .text
  · exact (h.safe_ready hnames (Nat.le_refl 1)).map fun new notes hnew ↦
      ⟨.print hnew.1.1, hnew.2⟩

/-- The condition of a loop made ready, if there is one. -/
def checkCondition (place : Place) (target : Target) : Option Expr → Checking (Option Expr)
  | some e => do
    place.checkIndent 3
    some <$> e.ready (place.ofCondition target e) 0
  | none => pure none

/-- How a loop that is not recursive is checked. -/
theorem check_loop {place : Place} {target : Target} {items : Expr} {condition : Option Expr}
    {body otherwise : List Statement} (hloops : place.loops < loopLimit) :
    (Statement.loop target items condition false body otherwise).check place =
      checkCondition place target condition >>= fun test ↦
      match (Statement.loop target items condition false body otherwise).loopLine? with
      | some line => throw (.malformed line .loopAssigned)
      | none => do
        let ready ← items.ready place 0
        place.checkIndent 1
        let rounds ← checkBody (place.ofLoop target (Frame.usesLoop false body) body) body
        let rest ← checkBody (place.ofOtherwise otherwise) otherwise
        return [.loop target ready test false rounds rest] := by
  rw [Statement.check.eq_def]
  cases condition with
  | none =>
    simp only [checkCondition, Bool.false_eq_true, if_false, Nat.not_le.mpr hloops, pure_bind]
    cases (Statement.loop target items none false body otherwise).loopLine? <;> rfl
  | some e =>
    simp only [checkCondition, Bool.false_eq_true, if_false, Nat.not_le.mpr hloops, pure_bind,
      bind_assoc]
    refine bind_congr fun _ ↦ bind_congr fun test ↦ ?_
    cases (Statement.loop target items (some e) false body otherwise).loopLine? <;> rfl
/-- An expression that is read where a frame has all its names is ready. -/
theorem Expr.IsSafe.safe_ready_read (h : e.IsSafe k)
    {outer : List Frame} {f g : Frame} (hframes : place.frames = g :: outer)
    (hframe : g.Includes (f.readAll outer e.names)) :
    Keeps Notes.IsFlawless (e.ready place 0) fun new ↦
      new.HasKind IsOrdinary k ∧ ∀ n ∈ new.names, n ∈ e.names := by
  refine h.safe_ready (fun n hn ↦ ?_) (Nat.zero_le 1)
  rw [hframes]
  exact hframe.binds (Frame.binds_readAll f hn)

/-- The condition of a loop is ready if it is safe and there are levels enough for it. -/
theorem safe_checkCondition {target : Target} {condition : Option Expr}
    (h : ∀ e ∈ condition, e.IsSafe .plain ∧ place.indent + 3 < indentLimit) :
    Keeps Notes.IsFlawless (checkCondition place target condition) fun test ↦
      ∀ e ∈ test, e.HasKind IsOrdinary .plain ∧ condition.isSome = true := by
  cases condition with
  | none => exact keeps_pure (by simp)
  | some e =>
    obtain ⟨he, hindent⟩ := h e rfl
    refine Keeps.bind (keeps_checkIndent hindent) fun _ _ ↦ ?_
    refine (he.safe_ready_read rfl (Frame.includes_refl _)).map fun new notes hnew ↦
      ⟨?_, hnew.2⟩
    rintro _ ⟨⟩
    exact ⟨hnew.1.1, rfl⟩

/-- A statement of safe expressions is made ready where a frame has the names that it adds, unless
the name of a loop is assigned. -/
theorem Statement.IsMadeOf.safe_check (h : s.IsMadeOf Expr.IsSafe levels loops)
    (hroom : place.HasRoom levels loops) {outer : List Frame} {f g : Frame}
    (hframes : place.frames = g :: outer) (hframe : g.Includes (Frame.addStatement outer f s)) :
    Keeps Notes.IsFlawless (s.check place) (AreReady levels loops) := by
  induction h generalizing place outer f g with
  | text =>
    rw [check, hroom.unguarded]
    exact keeps_get_bind fun _ _ ↦ keeps_pure (List.forall_mem_singleton.mpr .text)
  | print hvalue =>
    rw [check, hroom.unguarded]
    refine keeps_get_bind fun _ _ ↦ ?_
    simp only [Bool.false_and, Bool.false_eq_true, if_false]
    refine Keeps.bind (safe_checkPrinted hvalue fun n hn ↦ ?_) fun new hnew ↦
      keeps_pure (List.forall_mem_singleton.mpr hnew)
    rw [hframes]
    exact hframe.binds (Frame.binds_readAll f hn)
  | @branch levels loops cases otherwise htests hbodies hotherwise ihbodies ihotherwise =>
    obtain ⟨hcovers, f', hframe'⟩ := Frame.covers_of_branch hframe
    have hindent := hroom.indent
    have hinner : place.ofCase.HasRoom levels loops :=
      ⟨hroom.unguarded, by simp only [Place.ofCase]; omega, hroom.loops⟩
    have hcases : Keeps Notes.IsFlawless (checkCases place cases) fun news ↦
        ∀ c ∈ news, c.1.HasKind IsOrdinary .plain ∧ AreReady levels loops c.2 := by
      refine safe_checkCases (fun c hc ↦ ?_) fun c hc ↦ ?_
      · refine (htests c hc).safe_ready (fun n hn ↦ ?_) (Nat.zero_le 1)
        exact hframes ▸ (hcovers c hc).test n hn
      · obtain ⟨f'', hbody⟩ := (hcovers c hc).body
        exact safe_checkBody (fun s hs ↦ (hbodies c hc s hs).isExtension_eq_false)
          (fun s hs _ hs' ↦ ihbodies c hc s hs hinner hframes hs') f'' hbody
    have hrest := safe_checkBody (fun s hs ↦ (hotherwise s hs).isExtension_eq_false)
      (fun s hs _ hs' ↦ ihotherwise s hs hinner hframes hs') f' hframe'
    rw [check]
    refine Keeps.bind (keeps_checkIndent (by omega)) fun _ _ ↦ ?_
    refine Keeps.bind hcases fun ready hready ↦ Keeps.bind hrest fun rest hrest ↦ keeps_pure ?_
    exact List.forall_mem_singleton.mpr
      (.branch (fun c hc ↦ (hready c hc).1) (fun c hc ↦ (hready c hc).2) hrest)
  | @loop levels loops line name items condition body otherwise hitems hcondition hbody hotherwise
      ihbody ihotherwise =>
    have hindent := hroom.indent
    have hloops := hroom.loops
    have hwithin : (place.ofLoop (.name line name) (Frame.usesLoop false body) body).HasRoom
        levels loops :=
      ⟨hroom.unguarded, by simp only [Place.ofLoop]; omega, by simp only [Place.ofLoop]; omega⟩
    have hbeside : (place.ofOtherwise otherwise).HasRoom levels (loops + 1) :=
      ⟨hroom.unguarded, by simp only [Place.ofOtherwise, Place.enter]; omega, hroom.loops⟩
    have hlevels : condition.isSome = true → 2 ≤ levels := by
      intro hsome
      obtain ⟨e, he⟩ := Option.isSome_iff_exists.mp hsome
      exact (hcondition e he).2
    have hrounds := safe_checkBody (fun s hs ↦ (hbody s hs).isExtension_eq_false)
      (fun s hs _ hs' ↦ ihbody s hs hwithin rfl hs') _ (Frame.includes_refl _)
    have hrest := safe_checkBody (fun s hs ↦ (hotherwise s hs).isExtension_eq_false)
      (fun s hs _ hs' ↦ ihotherwise s hs hbeside rfl hs') .empty (Frame.includes_refl _)
    rw [check_loop (by omega)]
    refine Keeps.bind (safe_checkCondition fun e he ↦ ⟨(hcondition e he).1, ?_⟩) fun test htest ↦ ?_
    · have hlevels := hlevels (Option.isSome_iff_exists.mpr ⟨e, he⟩)
      omega
    split
    · exact fun _ _ ↦ trivial
    · refine Keeps.bind (hitems.safe_ready_read hframes hframe) fun ready hready ↦ ?_
      refine Keeps.bind (keeps_checkIndent (by omega)) fun _ _ ↦ ?_
      refine Keeps.bind hrounds fun rounds hrounds ↦ Keeps.bind hrest fun rest hrest ↦ keeps_pure ?_
      exact List.forall_mem_singleton.mpr
        (.loop hready.1 (fun e he ↦ ⟨(htest e he).1, hlevels (htest e he).2⟩) hrounds hrest)
  | @assign _ _ line name value hvalue =>
    have hread : g.Includes (f.readAll outer value.names) :=
      hframe.trans (Frame.includes_assignTarget _ (.name line name))
    rw [check]
    refine Keeps.bind (hvalue.safe_ready_read hframes hread) fun new hnew ↦
      keeps_pure (List.forall_mem_singleton.mpr (.assign hnew.1))
  | @capture levels loops _ _ value body hvalue hnames hbody ihbody =>
    have hinner : Place.HasRoom { place.enter (.ofBody place.frames body) with guarded := false }
        levels loops := ⟨rfl, hroom.indent, hroom.loops⟩
    have hinside := safe_checkBody (fun s hs ↦ (hbody s hs).isExtension_eq_false)
      (fun s hs _ hs' ↦ ihbody s hs hinner rfl hs') .empty (Frame.includes_refl _)
    rw [check]
    refine Keeps.bind hinside fun ready hready ↦ ?_
    refine Keeps.bind (hvalue.safe_ready (by simp [hnames]) (Nat.zero_le 1)) fun new hnew ↦
      keeps_pure (List.forall_mem_singleton.mpr ?_)
    have hnone : new.names = [] :=
      List.eq_nil_iff_forall_not_mem.mpr fun n hn ↦ by simpa [hnames] using hnew.2 n hn
    exact .capture hnew.1 hnone hready
  | @filtered levels loops value body hvalue hbody ihbody =>
    have hinner : (place.enter (.ofFiltered place.frames value body)).HasRoom levels loops :=
      ⟨hroom.unguarded, hroom.indent, hroom.loops⟩
    have hinside := safe_checkBody (fun s hs ↦ (hbody s hs).isExtension_eq_false)
      (fun s hs _ hs' ↦ ihbody s hs hinner rfl hs') .empty (Frame.includes_readAll _ _)
    rw [check]
    refine Keeps.bind hinside fun ready hready ↦ ?_
    refine Keeps.bind (hvalue.safe_ready_read rfl (Frame.includes_refl _)) fun new hnew ↦
      keeps_pure (List.forall_mem_singleton.mpr (.filtered hnew.1 hready))

/-- A template of safe expressions is made ready, unless the name of a loop is assigned. -/
theorem yields_checkTemplate {body : List Statement}
    (h : ∀ s ∈ body, s.IsMadeOf Expr.IsSafe levels loops) (hlevels : levels + 1 < indentLimit)
    (hloops : loops ≤ loopLimit) : Yields (AreReady levels loops) (checkTemplate body) := by
  have hguarded : bodyExtends body = false := by
    rw [bodyExtends_eq_any]
    simpa using fun s hs ↦ (h s hs).extends_eq_false
  have hroom : Place.HasRoom ⟨[.ofTemplate body], false, true, true, false, bodyExtends body, 1, 0⟩
      levels loops :=
    ⟨hguarded, show 1 + levels < indentLimit by omega, show 0 + loops ≤ loopLimit by omega⟩
  rw [checkTemplate]
  refine (safe_checkBody (fun s hs ↦ (h s hs).isExtension_eq_false)
    (fun s hs _ hs' ↦ (h s hs).safe_check hroom rfl hs') _ (Frame.includes_refl _)
    ⟨false, none⟩ rfl).bind fun result hresult ↦ ?_
  obtain ⟨ready, notes⟩ := result
  obtain ⟨hready, hnotes⟩ := hresult
  simp only [Notes.IsFlawless] at hnotes
  simp only [hnotes]
  exact hready

end Scriptorium.Template
