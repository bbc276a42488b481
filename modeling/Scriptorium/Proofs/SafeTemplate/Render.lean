import Scriptorium.Proofs.SafeTemplate.Eval

/-!
# Rendering that cannot fault

A template whose expressions have kinds renders a text, or uses a value that is absent
(`yields_renderChecked`). No such statement asks a loop about itself, so a loop never looks ahead of
the item that it has come to (`IsMadeOf.usesLoop_eq_false`), and each of its rounds is as safe as
its body.
-/

set_option autoImplicit false
set_option relaxedAutoImplicit false

namespace Scriptorium.Template

/-! ### Names that are read -/

theorem mem_namesOfAll {n : String} {es : List Expr} :
    n ∈ namesOfAll es ↔ ∃ e ∈ es, n ∈ e.names := by
  induction es with
  | nil => simp [namesOfAll]
  | cons e rest ih => simp [namesOfAll, ih]

theorem mem_namesOfRelations {n : String} {others : List (Comparison × Expr)} :
    n ∈ namesOfRelations others ↔ ∃ other ∈ others, n ∈ other.2.names := by
  induction others with
  | nil => simp [namesOfRelations]
  | cons other rest ih => simp [namesOfRelations, ih]

theorem names_positional (values : List Expr) :
    (Arguments.mk values [] none none).names = namesOfAll values := by
  simp [Arguments.names, namesOfNamed, namesOfOption]

/-- Every name that an expression of a kind reads is known. -/
theorem Expr.HasKind.known_of_mem_names {known : String → Prop} {k : ValueKind}
    {e : Expr} (h : e.HasKind known k) {n : String} (hn : n ∈ e.names) : known n := by
  induction h with
  | name hname =>
    obtain rfl := List.mem_singleton.mp hn
    exact hname
  | not _ ih => exact ih hn
  | and _ _ ihleft ihright => exact (List.mem_append.mp hn).elim ihleft ihright
  | or _ _ ihleft ihright => exact (List.mem_append.mp hn).elim ihleft ihright
  | concat _ ih =>
    obtain ⟨part, hpart, hmem⟩ := mem_namesOfAll.mp hn
    exact ih part hpart hmem
  | choose _ _ _ ihtest ihyes ihno =>
    rw [Expr.names, List.mem_append, List.mem_append] at hn
    rcases hn with (htest | hyes) | hno
    · exact ihtest htest
    · exact ihyes hyes
    · exact ihno hno
  | equality _ _ _ ihfirst ihothers =>
    rcases List.mem_append.mp hn with hfirst | hothers
    · exact ihfirst hfirst
    · obtain ⟨other, hother, hmem⟩ := mem_namesOfRelations.mp hothers
      exact ihothers other hother hmem
  | order _ _ _ ihfirst ihothers =>
    rcases List.mem_append.mp hn with hfirst | hothers
    · exact ihfirst hfirst
    · obtain ⟨other, hother, hmem⟩ := mem_namesOfRelations.mp hothers
      exact ihothers other hother hmem
  | membership _ _ _ ihpart ihwhole =>
    rcases List.mem_append.mp hn with hpart | hwhole
    · exact ihpart hpart
    · obtain ⟨other, hother, hmem⟩ := mem_namesOfRelations.mp hwhole
      obtain rfl := List.mem_singleton.mp hother
      exact ihwhole hmem
  | ofFilled _ ih => exact ih hn
  | ofText _ ih => exact ih hn
  | literal | truth | nothing | body | noElse => cases hn
  | filtered _ _ ih =>
    rw [Expr.names, names_positional, List.mem_append] at hn
    exact hn.elim ih fun hnone ↦ absurd hnone List.not_mem_nil
  | replaced _ _ _ ihinput ihold ihnew =>
    rw [Expr.names, names_positional, List.mem_append, mem_namesOfAll] at hn
    rcases hn with hinput | ⟨e, he, hmem⟩
    · exact ihinput hinput
    · rcases List.mem_cons.mp he with rfl | hlast
      · exact ihold hmem
      · obtain rfl := List.mem_singleton.mp hlast
        exact ihnew hmem
  | defaulted _ _ _ _ ihinput ihvalue ihflags =>
    rw [Expr.names, names_positional, List.mem_append, mem_namesOfAll] at hn
    rcases hn with hinput | ⟨e, he, hmem⟩
    · exact ihinput hinput
    · rcases List.mem_cons.mp he with rfl | hflag
      · exact ihvalue hmem
      · exact ihflags e hflag hmem
  | tested _ _ ih =>
    rw [Expr.names, names_positional, List.mem_append] at hn
    exact hn.elim ih fun hnone ↦ absurd hnone List.not_mem_nil

theorem mem_usesOfBody {u : NameUse} {body : List Statement} :
    u ∈ usesOfBody body ↔ ∃ s ∈ body, u ∈ s.uses := by
  induction body with
  | nil => simp [usesOfBody]
  | cons s rest ih => simp [usesOfBody, ih]

theorem mem_usesOfCases {u : NameUse} {cases : List (Expr × List Statement)} :
    u ∈ usesOfCases cases ↔ ∃ c ∈ cases, u ∈ readsOf c.1.names ∨ ∃ s ∈ c.2, u ∈ s.uses := by
  induction cases with
  | nil => simp [usesOfCases]
  | cons c rest ih => simp [usesOfCases, mem_usesOfBody, ih, or_assoc]

/-- A name that is never read is not read first. -/
theorem readsFirst_eq_false {name : String} {uses : List NameUse} (h : .read name ∉ uses) :
    readsFirst name uses = false := by
  induction uses with
  | nil => rfl
  | cons u rest ih =>
    have hrest := ih fun hmem ↦ h (List.mem_cons_of_mem u hmem)
    cases u with
    | read n =>
      have hne : n ≠ name := fun heq ↦ h (heq ▸ List.mem_cons_self)
      simp [readsFirst, hne, hrest]
    | write n => simp [readsFirst, hrest]

namespace Statement

variable {P : ValueKind → Expr → Prop} {levels loops : Nat} {s : Statement}

/-- A statement reads a name only if an expression in it does. -/
theorem IsMadeOf.not_mem_uses (h : s.IsMadeOf P levels loops) {n : String}
    (hP : ∀ k e, P k e → n ∉ e.names) : .read n ∉ s.uses := by
  have hreads : ∀ {k e}, P k e → .read n ∉ readsOf e.names := by
    intro k e he hmem
    obtain ⟨m, hm, heq⟩ := List.mem_map.mp hmem
    obtain rfl := NameUse.read.inj heq
    exact hP k e he hm
  have hwrites : ∀ target : Target, .read n ∉ writesOf target := by
    intro target hmem
    obtain ⟨m, -, heq⟩ := List.mem_map.mp hmem
    cases heq
  induction h with
  | text => exact List.not_mem_nil
  | print hvalue => exact hreads hvalue
  | branch htests _ _ ihbodies ihotherwise =>
    intro hmem
    rw [uses, List.mem_append, mem_usesOfCases, mem_usesOfBody] at hmem
    rcases hmem with ⟨c, hc, htest | ⟨s, hs, hmem⟩⟩ | ⟨s, hs, hmem⟩
    · exact hreads (htests c hc) htest
    · exact ihbodies c hc s hs hmem
    · exact ihotherwise s hs hmem
  | @loop _ _ _ _ _ condition _ _ hitems hcondition _ _ ihbody ihotherwise =>
    intro hmem
    simp only [uses, List.mem_append, mem_usesOfBody] at hmem
    rcases hmem with (((hname | hmem) | ⟨s, hs, hmem⟩) | ⟨s, hs, hmem⟩) | hmem
    · exact hwrites _ hname
    · exact hreads hitems hmem
    · exact ihbody s hs hmem
    · exact ihotherwise s hs hmem
    · cases condition with
      | none => cases hmem
      | some e => exact hreads (hcondition e rfl).1 hmem
  | assign hvalue =>
    intro hmem
    exact (List.mem_append.mp hmem).elim (hwrites _) (hreads hvalue)
  | capture hvalue _ _ ihbody =>
    intro hmem
    simp only [uses, List.mem_append, mem_usesOfBody] at hmem
    rcases hmem with (hname | hmem) | ⟨s, hs, hmem⟩
    · exact hwrites _ hname
    · exact hreads hvalue hmem
    · exact ihbody s hs hmem
  | filtered hvalue _ ihbody =>
    intro hmem
    simp only [uses, List.mem_append, mem_usesOfBody] at hmem
    rcases hmem with ⟨s, hs, hmem⟩ | hmem
    · exact ihbody s hs hmem
    · exact hreads hvalue hmem

end Statement

/-! ### Frames and targets -/

section Statements

variable {scope : Scope}

/-- The names of a frame get texts, or nothing. -/
theorem Memory.IsSound.fill (level : Nat) (sources : List (String × Source)) {m : Memory}
    (h : m.IsSound) : (scope.fill level m sources).IsSound := by
  induction sources generalizing m with
  | nil => exact h
  | cons source rest ih =>
    obtain ⟨n, source⟩ := source
    cases source with
    | parameter => exact ih h
    | argument =>
      refine ih (h.store fun _ v hv ↦ ?_)
      obtain ⟨value, -, rfl⟩ := Option.map_eq_some_iff.mp hv
      exact ValueKind.holds_text _ _
    | outer other =>
      refine ih (h.store fun hname v hv ↦ ?_)
      have hother : (Cell.ofName other n).name ≠ Text.compatible "self".toList := hname
      exact h.holds_load? hother hv
    | unset => exact (ih h).store fun _ v hv ↦ by cases hv

theorem safe_enter (frame : Frame) : SafeEvaluation (scope.enter frame) fun _ ↦ True :=
  fun _ hm ↦ ⟨trivial, hm.fill scope.frames.length frame.sources⟩

/-- A name can be assigned a text, or what is absent. -/
theorem safe_assign {line : Nat} {n : String} {v : Item} (hv : ValueKind.text.Holds v) :
    SafeEvaluation ((Target.name line n).assign scope v) fun _ ↦ True := by
  rw [Target.assign]
  refine fun m hm ↦ ⟨trivial, hm.store fun _ w hw ↦ ?_⟩
  obtain rfl := Option.some.inj hw
  exact hv

theorem yields_items {v : Item} (h : ValueKind.text.Holds v) :
    Yields (fun items ↦ ∀ item ∈ items, ValueKind.text.Holds item) v.items := by
  rcases ValueKind.eq_of_holds_text h with ⟨s, rfl⟩ | ⟨_ | _, cause, rfl⟩
  · intro item hitem
    obtain ⟨c, -, rfl⟩ := List.mem_map.mp hitem
    exact ValueKind.holds_text _ _
  · intro item hitem
    cases hitem
  · exact trivial

/-- Whether a loop keeps an item can be asked if its condition has a kind. -/
theorem safe_keeps {line : Nat} {n : String} {condition : Option Expr}
    (hcondition : ∀ e ∈ condition, e.HasKind IsOrdinary .plain) {item : Item}
    (hitem : ValueKind.text.Holds item) :
    SafeEvaluation (scope.keeps (.name line n) condition item) fun _ ↦ True := by
  cases condition with
  | none => exact keeps_pure trivial
  | some e =>
    refine keeps_get_bind fun m hm ↦ ?_
    refine Keeps.bind (safe_enter _) fun inner _ ↦ ?_
    refine Keeps.bind (safe_assign hitem) fun _ _ ↦ ?_
    refine Keeps.bind (hcondition e rfl).safe_eval fun v _ ↦ ?_
    exact Keeps.bind (S := fun _ ↦ True) (safe_modify fun _ _ ↦ ⟨trivial, hm⟩) fun _ _ ↦
      keeps_pure trivial

/-- The rounds of a loop that does not look ahead render texts if each of them does. -/
theorem safe_loopRounds {keeps : Item → Evaluation Bool}
    {round : List Item → Item → List Item × Option Failure → Evaluation Rendering}
    {items : List Item}
    (hkeeps : ∀ item ∈ items, SafeEvaluation (keeps item) fun _ ↦ True)
    (hround : ∀ passed, ∀ item ∈ items,
      SafeEvaluation (round passed item ([], none)) (· ≠ none)) (passed : List Item) :
    SafeEvaluation (loopRounds false keeps round items passed) fun result ↦ result.2 ≠ none := by
  induction items generalizing passed with
  | nil =>
    rw [loopRounds]
    exact keeps_pure (by simp)
  | cons item rest ih =>
    have hrest := ih (fun other hother ↦ hkeeps other (List.mem_cons_of_mem item hother))
      fun passed other hother ↦ hround passed other (List.mem_cons_of_mem item hother)
    rw [loopRounds]
    refine Keeps.bind (hkeeps item List.mem_cons_self) fun kept _ ↦ ?_
    split
    · refine keeps_get_bind fun m hm ↦ ?_
      refine Keeps.bind (hround passed item List.mem_cons_self) fun text htext ↦ ?_
      refine Keeps.bind (hrest (item :: passed)) fun result hothers ↦ ?_
      obtain ⟨ran, others⟩ := result
      refine keeps_pure ?_
      obtain ⟨first, rfl⟩ := Option.ne_none_iff_exists'.mp htext
      obtain ⟨more, rfl⟩ := Option.ne_none_iff_exists'.mp hothers
      exact Option.some_ne_none _
    · exact hrest passed

/-- A body renders a text if each of its statements does. -/
theorem safe_renderBody {body : List Statement}
    (h : ∀ s ∈ body, SafeEvaluation (s.render scope) (· ≠ none)) :
    SafeEvaluation (renderBody scope body) (· ≠ none) := by
  induction body with
  | nil =>
    rw [renderBody]
    exact keeps_pure (Option.some_ne_none _)
  | cons s rest ih =>
    rw [renderBody]
    refine Keeps.bind (h s List.mem_cons_self) fun first hfirst ↦ ?_
    refine Keeps.bind (ih fun other hother ↦ h other (List.mem_cons_of_mem s hother))
      fun others hothers ↦ keeps_pure ?_
    obtain ⟨text, rfl⟩ := Option.ne_none_iff_exists'.mp hfirst
    obtain ⟨more, rfl⟩ := Option.ne_none_iff_exists'.mp hothers
    exact Option.some_ne_none _

/-- The first case whose test holds renders a text, if there is one. -/
theorem safe_renderCases {cases : List (Expr × List Statement)}
    (htests : ∀ c ∈ cases, c.1.HasKind IsOrdinary .plain)
    (hbodies : ∀ c ∈ cases, SafeEvaluation (renderBody scope c.2) (· ≠ none)) :
    SafeEvaluation (renderCases scope cases) fun found ↦ ∀ r ∈ found, r ≠ none := by
  induction cases with
  | nil =>
    rw [renderCases]
    exact keeps_pure fun r hr ↦ by cases hr
  | cons c rest ih =>
    obtain ⟨test, body⟩ := c
    rw [renderCases]
    refine Keeps.bind (htests _ List.mem_cons_self).safe_eval fun v _ ↦ ?_
    split
    · refine (hbodies _ List.mem_cons_self).map fun r m hr ↦ ⟨?_, hr.2⟩
      rintro found ⟨⟩
      exact hr.1
    · exact ih (fun c hc ↦ htests c (List.mem_cons_of_mem _ hc))
        fun c hc ↦ hbodies c (List.mem_cons_of_mem _ hc)

/-! ### Statements -/

theorem yields_text_of_ne_none {r : Rendering} (h : r ≠ none) : Yields (fun _ ↦ True) r.text := by
  obtain ⟨text, rfl⟩ := Option.ne_none_iff_exists'.mp h
  exact trivial

/-- A statement of expressions that have the kinds it needs renders a text, or uses a value that is
absent. -/
theorem Statement.IsMadeOf.safe_render {s : Statement} {levels loops : Nat}
    (h : s.IsMadeOf (fun k e ↦ e.HasKind IsOrdinary k) levels loops) :
    SafeEvaluation (s.render scope) (· ≠ none) := by
  induction h generalizing scope with
  | text =>
    rw [render]
    exact keeps_pure (Option.some_ne_none _)
  | print hvalue =>
    rw [render]
    refine Keeps.bind hvalue.safe_eval fun v hv ↦ ?_
    exact Keeps.bind (safe_liftM (yields_textOf hv)) fun _ _ ↦
      keeps_pure (Option.some_ne_none _)
  | branch htests _ _ ihbodies ihotherwise =>
    rw [render]
    refine Keeps.bind (safe_renderCases htests fun c hc ↦
      safe_renderBody fun s hs ↦ ihbodies c hc s hs) fun found hfound ↦ ?_
    cases found with
    | some rendering => exact keeps_pure (hfound rendering rfl)
    | none => exact safe_renderBody fun s hs ↦ ihotherwise s hs
  | @loop _ _ line name items condition body otherwise hitems hcondition hbody _ ihbody
      ihotherwise =>
    have hlooks : Frame.usesLoop false body = false := by
      refine readsFirst_eq_false fun hmem ↦ ?_
      obtain ⟨s, hs, hread⟩ := mem_usesOfBody.mp hmem
      exact (hbody s hs).not_mem_uses
        (fun _ _ he hname ↦ (he.known_of_mem_names hname).1 rfl) hread
    rw [render]
    simp only [hlooks, Bool.false_eq_true, if_false]
    refine Keeps.bind hitems.safe_eval fun v hv ↦ ?_
    refine Keeps.bind (safe_liftM (yields_items hv)) fun candidates hcandidates ↦ ?_
    refine keeps_get_bind fun m hm ↦ ?_
    refine Keeps.bind (S := fun _ ↦ True) (safe_modify fun _ hm ↦ ⟨trivial, hm⟩) fun _ _ ↦ ?_
    refine Keeps.bind (safe_loopRounds (fun item hitem ↦ safe_keeps
      (fun e he ↦ (hcondition e he).1) (hcandidates item hitem)) ?_ []) fun result hresult ↦ ?_
    · intro passed item hitem
      refine Keeps.bind (safe_assign (hcandidates item hitem)) fun _ _ ↦ ?_
      exact Keeps.bind (safe_enter _) fun within _ ↦ safe_renderBody fun s hs ↦ ihbody s hs
    · obtain ⟨ran, text⟩ := result
      dsimp only
      split
      · exact keeps_pure hresult
      · exact Keeps.bind (safe_enter _) fun within _ ↦ safe_renderBody fun s hs ↦ ihotherwise s hs
  | assign hvalue =>
    rw [render]
    refine Keeps.bind hvalue.safe_eval fun v hv ↦ ?_
    exact Keeps.bind (safe_assign hv) fun _ _ ↦
      keeps_pure (Option.some_ne_none _)
  | capture hvalue _ _ ihbody =>
    rw [render]
    refine Keeps.bind (safe_enter _) fun inner _ ↦ ?_
    refine Keeps.bind (safe_renderBody fun s hs ↦ ihbody s hs) fun r hr ↦ ?_
    refine Keeps.bind (safe_liftM (yields_text_of_ne_none hr)) fun text _ ↦ ?_
    refine Keeps.bind hvalue.safe_eval fun v hv ↦ ?_
    exact Keeps.bind (safe_assign hv) fun _ _ ↦
      keeps_pure (Option.some_ne_none _)
  | filtered hvalue _ ihbody =>
    rw [render]
    refine Keeps.bind (safe_enter _) fun inner _ ↦ ?_
    refine Keeps.bind (safe_renderBody fun s hs ↦ ihbody s hs) fun r hr ↦ ?_
    refine Keeps.bind (safe_liftM (yields_text_of_ne_none hr)) fun text _ ↦ ?_
    refine Keeps.bind hvalue.safe_eval fun v hv ↦ ?_
    obtain ⟨filtered, rfl⟩ := ValueKind.eq_of_holds_filled hv
    exact keeps_pure (Option.some_ne_none _)

/-- A template of such statements renders a text, or uses a value that is absent. -/
theorem yields_renderChecked {body : List Statement} {levels loops : Nat}
    (h : ∀ s ∈ body, s.IsMadeOf (fun k e ↦ e.HasKind IsOrdinary k) levels loops)
    (arguments : List (String × String)) :
    Yields (fun result ↦ Yields (fun _ ↦ True) result.1.text)
      ((renderChecked arguments body).run .empty) := by
  have hempty : Memory.empty.IsSound := by
    intro cell v _ hlookup
    cases hlookup
  have hsafe : SafeEvaluation (renderChecked arguments body) (· ≠ none) := by
    refine Keeps.bind (S := fun _ ↦ True) (safe_modify fun m hm ↦ ⟨trivial, ?_⟩) fun _ _ ↦ ?_
    · exact hm.store fun hname ↦ absurd rfl hname
    · exact Keeps.bind (safe_enter _) fun scope _ ↦
        safe_renderBody fun s hs ↦ (h s hs).safe_render
  exact (hsafe .empty hempty).mono fun result hresult ↦ yields_text_of_ne_none hresult.1

end Statements

end Scriptorium.Template
