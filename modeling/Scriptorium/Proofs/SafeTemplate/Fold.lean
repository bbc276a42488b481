import Mathlib.Data.List.Forall2
import Scriptorium.Proofs.SafeTemplate.Eval

/-!
# Constants that cannot fault

An expression of a kind keeps its kind when its constant parts are replaced by their values, and
this does not fail (`HasKind.fold`). A constant value of a kind is one that can be written down, and
is never absent (`ValueKind.IsPresent`): what may be absent is a name, or a choice without an
alternative, and neither is constant. Nor are there more brackets open at once than before.
-/

set_option autoImplicit false
set_option relaxedAutoImplicit false

namespace Scriptorium.Template

/-! ### Values that are present -/

/-- Whether a value of a kind is there. -/
structure ValueKind.IsPresent (k : ValueKind) (v : Item) : Prop where
  holds : k.Holds v
  present : v.isAbsent = false

namespace ValueKind.IsPresent

variable {k : ValueKind} {v : Item}

theorem eq (h : k.IsPresent v) : v = .none ∨ (∃ b, v = .bool b) ∨ ∃ s, v = .text s := by
  rcases eq_of_holds_plain h.holds.plain with hnone | hbool | htext | ⟨strict, cause, rfl⟩
  · exact .inl hnone
  · exact .inr (.inl hbool)
  · exact .inr (.inr htext)
  · cases h.present

theorem of_text (k : ValueKind) (s : List Char) : k.IsPresent (.text s) :=
  ⟨holds_text k s, rfl⟩

theorem of_bool (b : Bool) : ValueKind.plain.IsPresent (.bool b) :=
  ⟨trivial, rfl⟩

theorem exists_textOf (h : k.IsPresent v) : ∃ s, v.textOf = .ok s := by
  rcases h.eq with rfl | ⟨_ | _, rfl⟩ | ⟨s, rfl⟩ <;> exact ⟨_, rfl⟩

theorem isPlain (h : k.IsPresent v) : v.isPlain = true := by
  rcases h.eq with rfl | ⟨b, rfl⟩ | ⟨s, rfl⟩ <;> rfl

theorem brackets (h : k.IsPresent v) : v.brackets = 0 := by
  rcases h.eq with rfl | ⟨b, rfl⟩ | ⟨s, rfl⟩ <;> rfl

theorem plain (h : k.IsPresent v) : ValueKind.plain.IsPresent v :=
  ⟨h.holds.plain, h.present⟩

/-- A value that is there is an expression of its kind. -/
theorem hasKind (h : k.IsPresent v) {known : String → Prop} :
    (Expr.const v).HasKind known k := by
  have hkind := h.holds
  rcases h.eq with rfl | ⟨b, rfl⟩ | ⟨s, rfl⟩
  · cases k with
    | plain => exact .nothing
    | _ => exact hkind.elim
  · cases k with
    | plain => exact .truth
    | _ => exact hkind.elim
  · cases k with
    | filled => exact .literal
    | text => exact .ofFilled .literal
    | plain => exact .ofText (.ofFilled .literal)

end ValueKind.IsPresent

/-! ### Constants -/

/-- Whether a part that may not be constant does not fail, and has a property if it is constant. -/
def Settles {α : Type} (Q : α → Prop) (x : Folding α) : Prop :=
  ∃ found, x.run = .ok found ∧ ∀ a ∈ found, Q a

section Combinators

variable {α β : Type} {Q : α → Prop} {R : β → Prop}

theorem settles_pure {a : α} (h : Q a) : Settles Q (pure a) :=
  ⟨some a, rfl, by simpa using h⟩

theorem settles_notConstant : Settles Q (notConstant : Folding α) :=
  ⟨none, rfl, by simp⟩

theorem Settles.bind {x : Folding α} {next : α → Folding β} (hx : Settles Q x)
    (hnext : ∀ a, Q a → Settles R (next a)) : Settles R (x >>= next) := by
  obtain ⟨found, hrun, hfound⟩ := hx
  rw [Settles, OptionT.run_bind, hrun]
  cases found with
  | none => exact ⟨none, rfl, by simp⟩
  | some a => exact hnext a (hfound a rfl)

theorem Settles.map {f : α → β} {x : Folding α} (hx : Settles Q x) (hf : ∀ a, Q a → R (f a)) :
    Settles R (f <$> x) := by
  rw [map_eq_pure_bind]
  exact hx.bind fun a ha ↦ settles_pure (hf a ha)

theorem Settles.mono {S : α → Prop} {x : Folding α} (hx : Settles Q x) (hQS : ∀ a, Q a → S a) :
    Settles S x := by
  obtain ⟨found, hrun, hfound⟩ := hx
  exact ⟨found, hrun, fun a ha ↦ hQS a (hfound a ha)⟩

/-- An attempt never fails. -/
theorem settles_attempt {x : Folding α} (h : ∀ a, x.run = .ok (some a) → Q a) :
    Settles Q (attempt x) := by
  cases hrun : x.run with
  | error failure => exact ⟨none, by simp [attempt, hrun], by simp⟩
  | ok found =>
    refine ⟨found, by simp [attempt, hrun], ?_⟩
    rintro a rfl
    exact h a hrun

theorem settles_attempt_true (x : Folding α) : Settles (fun _ ↦ True) (attempt x) :=
  settles_attempt fun _ _ ↦ trivial

theorem Settles.attempt {x : Folding α} (hx : Settles Q x) : Settles Q (Template.attempt x) := by
  obtain ⟨found, hrun, hfound⟩ := hx
  refine settles_attempt fun a ha ↦ hfound a ?_
  rw [hrun] at ha
  exact Except.ok.inj ha

/-- An attempt at an operation has what its outcome has. -/
theorem settles_attempt_liftM {x : Outcome α} (h : Yields Q x) :
    Settles Q (attempt (liftM x)) := by
  refine settles_attempt fun a ha ↦ ?_
  cases x with
  | error failure => cases ha
  | ok b =>
    obtain rfl : b = a := by simpa using ha
    exact h

end Combinators

theorem settles_constants_nil : Settles (fun vs ↦ vs = []) (constants []) := by
  rw [constants]
  exact settles_pure rfl

theorem settles_constants_cons {Q : Item → Prop} {R : List Item → Prop} {e : Expr} {es : List Expr}
    (he : Settles Q e.constant) (hes : Settles R (constants es)) :
    Settles (fun vs ↦ ∃ v rest, vs = v :: rest ∧ Q v ∧ R rest) (constants (e :: es)) := by
  rw [constants]
  exact he.bind fun v hv ↦ hes.bind fun rest hrest ↦ settles_pure ⟨v, rest, rfl, hv, hrest⟩

/-- Constant expressions have what each of them has. -/
theorem settles_constants {Q : Item → Prop} {es : List Expr}
    (h : ∀ e ∈ es, Settles Q e.constant) :
    Settles (fun vs ↦ vs.length = es.length ∧ ∀ v ∈ vs, Q v) (constants es) := by
  induction es with
  | nil => exact settles_constants_nil.mono fun vs hvs ↦ by simp [hvs]
  | cons e rest ih =>
    have hrest := ih fun other hother ↦ h other (List.mem_cons_of_mem e hother)
    refine (settles_constants_cons (h e List.mem_cons_self) hrest).mono ?_
    rintro vs ⟨v, others, rfl, hv, hlength, hothers⟩
    exact ⟨by rw [List.length_cons, List.length_cons, hlength],
      List.forall_mem_cons.mpr ⟨hv, hothers⟩⟩

/-- The texts of constant expressions. -/
theorem settles_constantTexts {es : List Expr}
    (h : ∀ e ∈ es, Settles ValueKind.plain.IsPresent e.constant) :
    Settles (fun _ ↦ True) (constantTexts es) := by
  induction es with
  | nil =>
    rw [constantTexts]
    exact settles_pure trivial
  | cons e rest ih =>
    rw [constantTexts]
    refine (h e List.mem_cons_self).bind fun v hv ↦ ?_
    obtain ⟨s, hs⟩ := hv.exists_textOf
    rw [hs]
    exact (ih fun other hother ↦ h other (List.mem_cons_of_mem e hother)).bind fun _ _ ↦
      settles_pure trivial

/-- Constant arguments by position alone. -/
theorem settles_arguments {Q : List Item → Prop} {values : List Expr}
    (h : Settles Q (constants values)) :
    Settles (fun all ↦ Q all.1 ∧ all.2 = []) (Arguments.mk values [] none none).constant := by
  rw [Arguments.constant]
  refine h.bind fun vs hvs ↦ ?_
  have hrest : Settles (fun all : List Item × List (String × Item) ↦ Q all.1 ∧ all.2 = [])
      (pure (vs ++ [], [])) := settles_pure ⟨by rwa [List.append_nil], rfl⟩
  exact hrest

namespace Expr

variable {known : String → Prop} {k : ValueKind} {e : Expr}

/-- An expression of a kind that is constant has a value of this kind that is there. -/
theorem HasKind.settles_constant (h : e.HasKind known k) : Settles k.IsPresent e.constant := by
  induction h with
  | literal => exact settles_pure (.of_text _ _)
  | truth => exact settles_pure (.of_bool _)
  | nothing => exact settles_pure ⟨trivial, rfl⟩
  | name | body | noElse => exact settles_notConstant
  | not _ ih =>
    rw [constant]
    exact (ih.bind fun v _ ↦ settles_pure (.of_bool _)).attempt
  | and _ _ ihleft ihright =>
    rw [constant]
    refine ihleft.bind fun l hl ↦ ?_
    split
    · exact ihright
    · exact settles_pure hl
  | or _ _ ihleft ihright =>
    rw [constant]
    refine ihleft.bind fun l hl ↦ ?_
    split
    · exact settles_pure hl
    · exact ihright
  | concat _ ih =>
    rw [constant]
    exact (settles_constantTexts ih).map fun s _ ↦ .of_text _ s
  | choose _ _ _ ihtest ihyes ihno =>
    rw [constant]
    refine ihtest.bind fun t _ ↦ ?_
    split
    · exact ihyes
    · exact ihno
  | equality _ _ _ ihfirst _ | order _ _ _ ihfirst _ | membership _ _ _ ihfirst _ =>
    rw [constant]
    exact ihfirst.bind fun _ _ ↦ (settles_attempt_true _).map fun b _ ↦ .of_bool b
  | filtered hname _ ih =>
    rw [constant]
    split
    · exact settles_notConstant
    · refine (settles_arguments settles_constants_nil).bind fun all hall ↦ ?_
      obtain ⟨vs, named⟩ := all
      obtain ⟨rfl, rfl⟩ := hall
      refine ih.bind fun i hi ↦ settles_attempt_liftM ?_
      refine (yields_textFilter hname hi.holds).mono fun v hv ↦ ?_
      obtain ⟨s, rfl⟩ := ValueKind.eq_of_holds_filled hv
      exact .of_text _ s
  | replaced _ _ _ ihinput ihold ihnew =>
    rw [constant]
    split
    · exact settles_notConstant
    · refine (settles_arguments (settles_constants (Q := ValueKind.plain.IsPresent) ?_)).bind
        fun all hall ↦ ?_
      · simpa using ⟨ihold, ihnew⟩
      · obtain ⟨vs, named⟩ := all
        obtain ⟨⟨hlength, hvs⟩, rfl⟩ := hall
        obtain ⟨old, new, rfl⟩ := List.length_eq_two.mp hlength
        refine ihinput.bind fun i hi ↦ settles_attempt_liftM ?_
        refine (yields_replace hi.holds (hvs old (by simp)).holds (hvs new (by simp)).holds).mono
          fun v hv ↦ ?_
        obtain ⟨s, rfl⟩ := ValueKind.eq_of_holds_filled hv
        exact .of_text _ s
  | defaulted hlength _ _ _ ihinput ihvalue ihflags =>
    rw [constant]
    split
    · exact settles_notConstant
    · refine (settles_arguments (settles_constants_cons ihvalue (settles_constants ihflags))).bind
        fun all hall ↦ ?_
      obtain ⟨vs, named⟩ := all
      obtain ⟨⟨v, flags, rfl, hv, hflags, -⟩, rfl⟩ := hall
      refine ihinput.bind fun i hi ↦ settles_attempt_liftM ?_
      exact yields_default (hflags.trans_le hlength) hi.holds (.of_text _) hv
  | tested hname _ ih =>
    rw [constant]
    split
    · exact settles_notConstant
    · refine (settles_arguments settles_constants_nil).bind fun all hall ↦ ?_
      obtain ⟨vs, named⟩ := all
      obtain ⟨rfl, rfl⟩ := hall
      refine ih.bind fun i hi ↦ settles_attempt_liftM ((yields_test hname).mono ?_)
      rintro v ⟨b, rfl⟩
      exact .of_bool b
  | ofFilled _ ih => exact ih.mono fun v hv ↦ ⟨hv.holds.text_of_filled, hv.present⟩
  | ofText _ ih => exact ih.mono fun v hv ↦ hv.plain

/-! ### Folding -/

/-- Whether an expression can take the place of another one of a kind: it has this kind, and never
has more brackets open at once. -/
structure Replaces (known : String → Prop) (k : ValueKind) (e new : Expr) : Prop where
  hasKind : new.HasKind known k
  brackets : ∀ frames, new.brackets frames ≤ e.brackets []

/-- Whether an expression is folded to one that can take its place. -/
def FoldsTo (known : String → Prop) (k : ValueKind) (e : Expr) : Prop :=
  ∃ new, e.fold = .ok new ∧ Replaces known k e new

/-- What takes the place of an expression stays, or is settled to its value. -/
theorem Replaces.settled {new : Expr} (h : Replaces known k e new) :
    ∃ last, new.settled = .ok last ∧ Replaces known k e last := by
  obtain ⟨found, hrun, hfound⟩ := h.hasKind.settles_constant
  cases found with
  | none => exact ⟨new, by rw [Expr.settled, hrun], h⟩
  | some v =>
    have hv := hfound v rfl
    refine ⟨.const v, by rw [Expr.settled, hrun]; simp [hv.isPlain], hv.hasKind, fun frames ↦ ?_⟩
    rw [Expr.brackets, hv.brackets]
    exact Nat.zero_le _

/-- Expressions that are folded one after the other. -/
theorem exists_foldAll {es : List Expr} (h : ∀ e ∈ es, FoldsTo known k e) :
    ∃ news, foldAll es = .ok news ∧ List.Forall₂ (Replaces known k) es news := by
  induction es with
  | nil => exact ⟨[], by rw [foldAll], .nil⟩
  | cons e rest ih =>
    obtain ⟨new, hfold, hnew⟩ := h e List.mem_cons_self
    obtain ⟨news, hrest, hnews⟩ := ih fun other hother ↦ h other (List.mem_cons_of_mem e hother)
    exact ⟨new :: news, by rw [foldAll, hfold, hrest]; rfl, .cons hnew hnews⟩

/-- Operands of relations that are folded one after the other. -/
theorem exists_foldRelations {others : List (Comparison × Expr)}
    (h : ∀ other ∈ others, FoldsTo known k other.2) :
    ∃ news, foldRelations others = .ok news ∧
      List.Forall₂ (fun o n ↦ n.1 = o.1 ∧ Replaces known k o.2 n.2) others news := by
  induction others with
  | nil => exact ⟨[], by rw [foldRelations], .nil⟩
  | cons other rest ih =>
    obtain ⟨relation, e⟩ := other
    obtain ⟨new, hfold, hnew⟩ := h _ List.mem_cons_self
    obtain ⟨news, hrest, hnews⟩ := ih fun o ho ↦ h o (List.mem_cons_of_mem _ ho)
    exact ⟨(relation, new) :: news, by rw [foldRelations, hfold, hrest]; rfl,
      .cons ⟨rfl, hnew⟩ hnews⟩

theorem bracketsOfAll_le {es news : List Expr} (h : List.Forall₂ (Replaces known k) es news)
    (frames : List Frame) : bracketsOfAll frames news ≤ bracketsOfAll [] es := by
  induction h with
  | nil => exact Nat.le_refl _
  | cons hfirst _ ih =>
    have hbrackets := hfirst.brackets frames
    simp only [bracketsOfAll]
    omega

theorem bracketsOfRelations_le {others news : List (Comparison × Expr)}
    (h : List.Forall₂ (fun o n ↦ n.1 = o.1 ∧ Replaces known k o.2 n.2) others news)
    (frames : List Frame) : bracketsOfRelations frames news ≤ bracketsOfRelations [] others := by
  induction h with
  | nil => exact Nat.le_refl _
  | cons hfirst _ ih =>
    have hbrackets := hfirst.2.brackets frames
    simp only [bracketsOfRelations]
    omega

theorem forall_mem_of_forall₂ {α β : Type} {R : α → β → Prop} {S : β → Prop} {as : List α}
    {bs : List β} (h : List.Forall₂ R as bs) (hRS : ∀ a ∈ as, ∀ b, R a b → S b) :
    ∀ b ∈ bs, S b := by
  induction h with
  | nil => simp
  | cons hfirst _ ih =>
    refine List.forall_mem_cons.mpr ⟨hRS _ List.mem_cons_self _ hfirst, ?_⟩
    exact ih fun a ha ↦ hRS a (List.mem_cons_of_mem _ ha)

/-- Arguments by position alone are folded as their expressions are. -/
theorem fold_positional {values news : List Expr} (h : foldAll values = .ok news) :
    (Arguments.mk values [] none none).fold = .ok (.mk news [] none none) := by
  rw [Arguments.fold, h]
  rfl

theorem brackets_positional (frames : List Frame) (values : List Expr) :
    (Arguments.mk values [] none none).brackets frames = bracketsOfAll frames values := by
  simp [Arguments.brackets, bracketsOfNamed, bracketsOfOption]

theorem foldsTo_of_settled (new : Expr) (hfold : e.fold = new.settled)
    (h : Replaces known k e new) : FoldsTo known k e := by
  obtain ⟨last, hsettled, hlast⟩ := h.settled
  exact ⟨last, hfold.trans hsettled, hlast⟩

theorem forall_hasKind_of_forall₂ {es news : List Expr}
    (h : List.Forall₂ (Replaces known k) es news) :
    ∀ new ∈ news, new.HasKind known k :=
  forall_mem_of_forall₂ h fun _ _ _ hnew ↦ hnew.hasKind

/-- A comparison is folded as its operands are. -/
theorem foldsTo_compare {first f : Expr} {others news : List (Comparison × Expr)}
    {j i : ValueKind} (hfoldf : first.fold = .ok f) (hf : Replaces known j first f)
    (hfold : foldRelations others = .ok news)
    (hnews : List.Forall₂ (fun o n ↦ n.1 = o.1 ∧ Replaces known i o.2 n.2) others news)
    (hkind : (Expr.compare f news).HasKind known k) :
    FoldsTo known k (.compare first others) := by
  refine foldsTo_of_settled (.compare f news) (by rw [fold, hfoldf, hfold]; rfl)
    ⟨hkind, fun frames ↦ ?_⟩
  have hbf := hf.brackets frames
  have hbo := bracketsOfRelations_le hnews frames
  simp only [brackets]
  omega

section Positional

variable {line : Nat} {name : String} {input i : Expr} {values news : List Expr} {j : ValueKind}

/-- A filter is folded as its input and its arguments are. -/
theorem foldsTo_filter (hfoldi : input.fold = .ok i) (hi : Replaces known j input i)
    (hfold : foldAll values = .ok news)
    (hnews : ∀ frames, bracketsOfAll frames news ≤ bracketsOfAll [] values)
    (hkind : (Expr.filter line i name (.mk news [] none none)).HasKind known k) :
    FoldsTo known k (.filter line input name (.mk values [] none none)) := by
  refine foldsTo_of_settled (.filter line i name (.mk news [] none none)) ?_
    ⟨hkind, fun frames ↦ ?_⟩
  · rw [fold, hfoldi, fold_positional hfold]
    rfl
  · have hbi := hi.brackets frames
    have hbv := hnews frames
    simp only [brackets, brackets_positional]
    omega

/-- A test is folded as its input and its arguments are. -/
theorem foldsTo_test (hfoldi : input.fold = .ok i) (hi : Replaces known j input i)
    (hfold : foldAll values = .ok news)
    (hnews : ∀ frames, bracketsOfAll frames news ≤ bracketsOfAll [] values)
    (hkind : (Expr.test line i name (.mk news [] none none)).HasKind known k) :
    FoldsTo known k (.test line input name (.mk values [] none none)) := by
  refine foldsTo_of_settled (.test line i name (.mk news [] none none)) ?_
    ⟨hkind, fun frames ↦ ?_⟩
  · rw [fold, hfoldi, fold_positional hfold]
    rfl
  · have hbi := hi.brackets frames
    have hbv := hnews frames
    simp only [brackets, brackets_positional]
    omega

end Positional

/-- An expression of a kind is folded to one of this kind. -/
theorem HasKind.foldsTo (h : e.HasKind known k) : FoldsTo known k e := by
  induction h with
  | literal => exact ⟨_, rfl, .literal, fun _ ↦ Nat.le_refl _⟩
  | truth => exact ⟨_, rfl, .truth, fun _ ↦ Nat.le_refl _⟩
  | nothing => exact ⟨_, rfl, .nothing, fun _ ↦ Nat.le_refl _⟩
  | body => exact ⟨_, rfl, .body, fun _ ↦ Nat.le_refl _⟩
  | noElse => exact ⟨_, rfl, .noElse, fun _ ↦ Nat.le_refl _⟩
  | name hname =>
    refine ⟨_, rfl, .name hname, fun frames ↦ ?_⟩
    simp only [brackets, Frame.isParameter]
    split <;> simp
  | not _ ih =>
    obtain ⟨new, hfold, hnew⟩ := ih
    refine foldsTo_of_settled (.not new) (by rw [fold, hfold]; rfl)
      ⟨.not hnew.hasKind, fun frames ↦ ?_⟩
    exact Nat.succ_le_succ (hnew.brackets frames)
  | and _ _ ihleft ihright =>
    obtain ⟨l, hfoldl, hl⟩ := ihleft
    obtain ⟨r, hfoldr, hr⟩ := ihright
    refine foldsTo_of_settled (.and l r) (by rw [fold, hfoldl, hfoldr]; rfl)
      ⟨.and hl.hasKind hr.hasKind, fun frames ↦ ?_⟩
    have hbl := hl.brackets frames
    have hbr := hr.brackets frames
    simp only [brackets]
    omega
  | or _ _ ihleft ihright =>
    obtain ⟨l, hfoldl, hl⟩ := ihleft
    obtain ⟨r, hfoldr, hr⟩ := ihright
    refine foldsTo_of_settled (.or l r) (by rw [fold, hfoldl, hfoldr]; rfl)
      ⟨.or hl.hasKind hr.hasKind, fun frames ↦ ?_⟩
    have hbl := hl.brackets frames
    have hbr := hr.brackets frames
    simp only [brackets]
    omega
  | concat _ ih =>
    obtain ⟨news, hfold, hnews⟩ := exists_foldAll ih
    refine foldsTo_of_settled (.concat news) (by rw [fold, hfold]; rfl)
      ⟨.concat (forall_hasKind_of_forall₂ hnews), fun frames ↦ ?_⟩
    exact Nat.add_le_add_right (bracketsOfAll_le hnews frames) 2
  | choose _ _ _ ihtest ihyes ihno =>
    obtain ⟨t, hfoldt, ht⟩ := ihtest
    obtain ⟨y, hfoldy, hy⟩ := ihyes
    obtain ⟨n, hfoldn, hn⟩ := ihno
    refine foldsTo_of_settled (.choose t y n) (by rw [fold, hfoldt, hfoldy, hfoldn]; rfl)
      ⟨.choose ht.hasKind hy.hasKind hn.hasKind, fun frames ↦ ?_⟩
    have hbt := ht.brackets frames
    have hby := hy.brackets frames
    have hbn := hn.brackets frames
    simp only [brackets]
    omega
  | equality hrelations _ _ ihfirst ihothers =>
    obtain ⟨f, hfoldf, hf⟩ := ihfirst
    obtain ⟨news, hfold, hnews⟩ := exists_foldRelations ihothers
    refine foldsTo_compare hfoldf hf hfold hnews (.equality ?_ hf.hasKind ?_)
    · exact forall_mem_of_forall₂ hnews fun o ho _ hn ↦ hn.1 ▸ hrelations o ho
    · exact forall_mem_of_forall₂ hnews fun _ _ _ hn ↦ hn.2.hasKind
  | order hrelations _ _ ihfirst ihothers =>
    obtain ⟨f, hfoldf, hf⟩ := ihfirst
    obtain ⟨news, hfold, hnews⟩ := exists_foldRelations ihothers
    refine foldsTo_compare hfoldf hf hfold hnews (.order ?_ hf.hasKind ?_)
    · exact forall_mem_of_forall₂ hnews fun o ho _ hn ↦ hn.1 ▸ hrelations o ho
    · exact forall_mem_of_forall₂ hnews fun _ _ _ hn ↦ hn.2.hasKind
  | @membership relation _ whole hrelation _ _ ihpart ihwhole =>
    obtain ⟨p, hfoldp, hp⟩ := ihpart
    obtain ⟨w, hfoldw, hw⟩ := ihwhole
    have hfold : foldRelations [(relation, whole)] = .ok [(relation, w)] := by
      rw [foldRelations, hfoldw, foldRelations]
      rfl
    exact foldsTo_compare hfoldp hp hfold (.cons ⟨rfl, hw⟩ .nil)
      (.membership hrelation hp.hasKind hw.hasKind)
  | filtered hname _ ih =>
    obtain ⟨i, hfoldi, hi⟩ := ih
    exact foldsTo_filter hfoldi hi (by rw [foldAll]) (fun _ ↦ Nat.le_refl _)
      (.filtered hname hi.hasKind)
  | replaced _ _ _ ihinput ihold ihnew =>
    obtain ⟨i, hfoldi, hi⟩ := ihinput
    obtain ⟨o, hfoldo, ho⟩ := ihold
    obtain ⟨n, hfoldn, hn⟩ := ihnew
    exact foldsTo_filter hfoldi hi
      (by rw [foldAll, foldAll, foldAll, hfoldo, hfoldn]; rfl)
      (bracketsOfAll_le (.cons ho (.cons hn .nil)))
      (.replaced hi.hasKind ho.hasKind hn.hasKind)
  | defaulted hlength _ _ _ ihinput ihvalue ihflags =>
    obtain ⟨i, hfoldi, hi⟩ := ihinput
    obtain ⟨v, hfoldv, hv⟩ := ihvalue
    obtain ⟨flags, hfoldf, hflags⟩ := exists_foldAll ihflags
    refine foldsTo_filter hfoldi hi (by rw [foldAll, hfoldv, hfoldf]; rfl) (fun frames ↦ ?_)
      (.defaulted (hflags.length_eq ▸ hlength) hi.hasKind hv.hasKind
        (forall_hasKind_of_forall₂ hflags))
    have hbv := hv.brackets frames
    have hbf := bracketsOfAll_le hflags frames
    simp only [bracketsOfAll]
    omega
  | tested hname _ ih =>
    obtain ⟨i, hfoldi, hi⟩ := ih
    exact foldsTo_test hfoldi hi (by rw [foldAll]) (fun _ ↦ Nat.le_refl _)
      (.tested hname hi.hasKind)
  | ofFilled _ ih =>
    obtain ⟨new, hfold, hnew⟩ := ih
    exact ⟨new, hfold, .ofFilled hnew.hasKind, hnew.brackets⟩
  | ofText _ ih =>
    obtain ⟨new, hfold, hnew⟩ := ih
    exact ⟨new, hfold, .ofText hnew.hasKind, hnew.brackets⟩

end Expr

end Scriptorium.Template
