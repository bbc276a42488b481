import Scriptorium.Proofs.Placeholder.Fill

/-!
# Names without a value

A name that no argument gives a value and that no statement assigns has none as long as a template
is rendered. Names share a cell exactly if they are the same in their compatibility forms, so this
is said of such a form: a memory that `Lacks` it has no value in a cell of it, at any level.

`Preserves` is what a computation does to a property of the memory, and the steps of rendering
preserve it one by one. An expression stores nothing in a cell (`preserves_eval`), the names of
a frame get their values from the arguments or from cells (`Memory.lacks_fill`), and assignments are
to the names that statements write (`renderBody_preserves`). So a body that prints a placeholder of
such a name renders nothing (`renderBody_ne_ok`).
-/

set_option autoImplicit false
set_option relaxedAutoImplicit false

namespace Scriptorium.Template

open Text

/-! ### Computations that preserve a property of the cells -/

/-- Whether a computation keeps a property of the cells of the memory whenever it succeeds. -/
def Evaluation.Preserves {α : Type} (I : List (Cell × Option Item) → Prop) (x : Evaluation α) :
    Prop :=
  ∀ m result after, I m.cells → x m = .ok (result, after) → I after.cells

open Evaluation (Preserves)

variable {I : List (Cell × Option Item) → Prop}

section Combinators

variable {α β : Type}

theorem preserves_pure (a : α) : Preserves I (pure a : Evaluation α) := by
  rintro m result after hm ⟨⟩
  exact hm

theorem preserves_throw (failure : Failure) : Preserves I (throw failure : Evaluation α) := by
  rintro m result after - ⟨⟩

theorem preserves_liftM (x : Outcome α) : Preserves I (liftM x : Evaluation α) := by
  intro m result after hm hrun
  rw [liftM_eq x m] at hrun
  cases x with
  | error failure => cases hrun
  | ok a =>
    cases hrun
    exact hm

theorem preserves_modify {f : Memory → Memory} (h : ∀ m, I m.cells → I (f m).cells) :
    Preserves I (modify f : Evaluation Unit) := by
  rintro m result after hm ⟨⟩
  exact h m hm

theorem preserves_bind {x : Evaluation α} {next : α → Evaluation β} (hx : Preserves I x)
    (hnext : ∀ a, Preserves I (next a)) : Preserves I (x >>= next) := by
  intro m result after hm hrun
  cases hfirst : x m with
  | error failure =>
    rw [bind_of_error hfirst] at hrun
    cases hrun
  | ok middle =>
    obtain ⟨a, inner⟩ := middle
    rw [bind_of_ok hfirst] at hrun
    exact hnext a inner result after (hx m a inner hm hfirst) hrun

/-- What reads the memory may use the property of its cells. -/
theorem preserves_get_bind {next : Memory → Evaluation β}
    (h : ∀ m, I m.cells → Preserves I (next m)) : Preserves I (get >>= next) :=
  fun m result after hm hrun ↦ h m hm m result after hm hrun

theorem preserves_map {x : Evaluation α} (f : α → β) (hx : Preserves I x) :
    Preserves I (f <$> x) :=
  preserves_bind hx fun a ↦ preserves_pure (f a)

end Combinators

/-! ### Expressions -/

theorem preserves_adopt (item : Item) : Preserves I (adopt item) := by
  rintro m result after hm ⟨⟩
  exact hm

theorem preserves_literalValue (item : Item) : Preserves I (literalValue item) := by
  unfold literalValue
  split
  · exact preserves_adopt item
  · exact preserves_throw _

theorem preserves_loopChanged (number : Nat) (values : List Item) :
    Preserves I (loopChanged number values) := by
  unfold loopChanged
  refine preserves_get_bind fun m hm ↦ ?_
  have hremember : ∀ same : Bool, Preserves I (if same = true then pure (.bool false) else do
      set { m with asked := assocSet number values m.asked }
      pure (.bool true) : Evaluation Item) := by
    intro same
    split
    · exact preserves_pure _
    · rintro before result after - ⟨⟩
      exact hm
  split
  · exact preserves_bind (preserves_pure _) hremember
  · split
    · exact preserves_bind (preserves_liftM _) hremember
    · exact preserves_bind (preserves_pure _) hremember

theorem preserves_callMethod (owner : Item) (name : String) (arguments : List Item)
    (named : List (String × Item)) : Preserves I (callMethod owner name arguments named) := by
  unfold callMethod
  cases sharedMethod? name owner arguments named with
  | some result => exact preserves_liftM result
  | none =>
    cases owner with
    | tuple items =>
      dsimp only
      split <;> exact preserves_liftM _
    | list n items =>
      refine preserves_bind (preserves_liftM _) fun result ↦ ?_
      dsimp only
      split
      · exact preserves_bind (preserves_modify fun _ hm ↦ hm) fun _ ↦ preserves_pure _
      · exact preserves_pure _
    | dict n entries =>
      refine preserves_bind (preserves_liftM _) fun result ↦ ?_
      dsimp only
      split
      · exact preserves_bind (preserves_modify fun _ hm ↦ hm) fun _ ↦ preserves_pure _
      · exact preserves_pure _
    | loop n passed current ahead trouble =>
      dsimp only
      split
      · exact preserves_liftM _
      · exact preserves_loopChanged n arguments
      · exact preserves_liftM _
    | _ => exact preserves_liftM _

theorem preserves_callItem (function : Item) (arguments : List Item)
    (named : List (String × Item)) : Preserves I (callItem function arguments named) := by
  unfold callItem
  split
  · exact preserves_throw _
  · exact preserves_callMethod _ _ _ _
  · exact preserves_liftM _

section Expressions

variable (scope : Scope) (body : List Char)

mutual

/-- An expression is evaluated without storing anything in a cell. -/
theorem preserves_eval : (e : Expr) → Preserves I (e.eval scope body)
  | .const v => by
    rw [Expr.eval]
    exact preserves_literalValue v
  | .name _ n => by
    rw [Expr.eval]
    exact preserves_get_bind fun _ _ ↦ preserves_pure _
  | .body => by
    rw [Expr.eval]
    exact preserves_pure _
  | .noElse line => by
    rw [Expr.eval]
    exact preserves_pure _
  | .list items => by
    rw [Expr.eval]
    exact preserves_bind (preserves_evalAll items) fun _ ↦ preserves_adopt _
  | .tuple items => by
    rw [Expr.eval]
    exact preserves_bind (preserves_evalAll items) fun _ ↦ preserves_pure _
  | .dict entries => by
    rw [Expr.eval]
    exact preserves_bind (preserves_evalPairs entries) fun _ ↦
      preserves_bind (preserves_liftM _) fun _ ↦ preserves_adopt _
  | .not e => by
    rw [Expr.eval]
    exact preserves_bind (preserves_eval e) fun _ ↦ preserves_pure _
  | .negative e => by
    rw [Expr.eval]
    exact preserves_bind (preserves_eval e) fun _ ↦ preserves_liftM _
  | .positive e => by
    rw [Expr.eval]
    exact preserves_bind (preserves_eval e) fun _ ↦ preserves_liftM _
  | .arith op left right => by
    rw [Expr.eval]
    exact preserves_bind (preserves_eval left) fun _ ↦ preserves_bind (preserves_eval right) fun _ ↦
      preserves_bind (preserves_liftM _) fun _ ↦ preserves_adopt _
  | .and left right => by
    rw [Expr.eval]
    refine preserves_bind (preserves_eval left) fun l ↦ ?_
    split
    · exact preserves_eval right
    · exact preserves_pure _
  | .or left right => by
    rw [Expr.eval]
    refine preserves_bind (preserves_eval left) fun l ↦ ?_
    split
    · exact preserves_pure _
    · exact preserves_eval right
  | .concat parts => by
    rw [Expr.eval]
    exact preserves_bind (preserves_evalAll parts) fun _ ↦
      preserves_bind (preserves_liftM _) fun _ ↦ preserves_pure _
  | .compare first others => by
    rw [Expr.eval]
    exact preserves_bind (preserves_eval first) fun left ↦
      preserves_bind (preserves_evalRelations left others) fun _ ↦ preserves_pure _
  | .choose test yes no => by
    rw [Expr.eval]
    refine preserves_bind (preserves_eval test) fun t ↦ ?_
    split
    · exact preserves_eval yes
    · exact preserves_eval no
  | .member owner name => by
    rw [Expr.eval]
    exact preserves_bind (preserves_eval owner) fun _ ↦ preserves_liftM _
  | .element owner index => by
    cases index with
    | bounds start stop step =>
      rw [Expr.eval]
      exact preserves_bind (preserves_eval owner) fun _ ↦
        preserves_bind (preserves_eval start) fun _ ↦
          preserves_bind (preserves_eval stop) fun _ ↦
            preserves_bind (preserves_eval step) fun _ ↦
              preserves_bind (preserves_liftM _) fun _ ↦ preserves_adopt _
    | _ =>
      rw [Expr.eval]
      · exact preserves_bind (preserves_eval owner) fun _ ↦
          preserves_bind (preserves_eval _) fun _ ↦ preserves_liftM _
      · intro start stop step heq
        cases heq
  | .bounds _ _ _ => by
    rw [Expr.eval]
    exact preserves_liftM _
  | .call function arguments => by
    rw [Expr.eval]
    exact preserves_bind (preserves_eval function) fun _ ↦
      preserves_bind (preserves_evalArguments arguments) fun _ ↦
        preserves_bind (preserves_callItem _ _ _) fun _ ↦ preserves_adopt _
  | .filter _ input name arguments => by
    rw [Expr.eval]
    exact preserves_bind (preserves_eval input) fun _ ↦
      preserves_bind (preserves_evalArguments arguments) fun _ ↦ preserves_liftM _
  | .test _ input name arguments => by
    rw [Expr.eval]
    exact preserves_bind (preserves_eval input) fun _ ↦
      preserves_bind (preserves_evalArguments arguments) fun _ ↦ preserves_liftM _

theorem preserves_evalArguments : (a : Arguments) → Preserves I (a.eval scope body)
  | .mk values named spread spreadNamed => by
    rw [Arguments.eval]
    refine preserves_bind (preserves_evalAll values) fun vs ↦
      preserves_bind (preserves_evalOption spread) fun item ↦ ?_
    have hnamed : ∀ more : List Item, Preserves I (do
        let ns ← evalNamed scope body named
        let all ← match ← evalOption scope body spreadNamed with
          | some (.dict _ entries) => liftM (addNamed ns entries)
          | some (.absent _ cause) => throw (.absent cause)
          | some _ => liftM (typeMismatch : Outcome (List (String × Item)))
          | none => pure ns
        return (vs ++ more, all)) := by
      intro more
      refine preserves_bind (preserves_evalNamed named) fun ns ↦
        preserves_bind (preserves_evalOption spreadNamed) fun rest ↦ ?_
      dsimp only
      split
      · exact preserves_bind (preserves_liftM _) fun _ ↦ preserves_pure _
      · exact preserves_bind (preserves_throw _) fun _ ↦ preserves_pure _
      · exact preserves_bind (preserves_liftM _) fun _ ↦ preserves_pure _
      · exact preserves_bind (preserves_pure _) fun _ ↦ preserves_pure _
    dsimp only
    split
    · exact preserves_bind (preserves_liftM _) hnamed
    · exact preserves_bind (preserves_pure _) hnamed

theorem preserves_evalAll : (es : List Expr) → Preserves I (evalAll scope body es)
  | [] => by
    rw [evalAll]
    exact preserves_pure _
  | e :: rest => by
    rw [evalAll]
    exact preserves_bind (preserves_eval e) fun _ ↦
      preserves_bind (preserves_evalAll rest) fun _ ↦ preserves_pure _

theorem preserves_evalPairs : (entries : List (Expr × Expr)) →
    Preserves I (evalPairs scope body entries)
  | [] => by
    rw [evalPairs]
    exact preserves_pure _
  | (key, value) :: rest => by
    rw [evalPairs]
    exact preserves_bind (preserves_eval key) fun _ ↦
      preserves_bind (preserves_eval value) fun _ ↦
        preserves_bind (preserves_evalPairs rest) fun _ ↦ preserves_pure _

theorem preserves_evalRelations (left : Item) : (others : List (Comparison × Expr)) →
    Preserves I (evalRelations scope body left others)
  | [] => by
    rw [evalRelations]
    exact preserves_pure _
  | (relation, e) :: rest => by
    rw [evalRelations]
    refine preserves_bind (preserves_eval e) fun right ↦
      preserves_bind (preserves_liftM _) fun holds ↦ ?_
    split
    · exact preserves_evalRelations right rest
    · exact preserves_pure _

theorem preserves_evalNamed : (named : List (String × Expr)) →
    Preserves I (evalNamed scope body named)
  | [] => by
    rw [evalNamed]
    exact preserves_pure _
  | (name, e) :: rest => by
    rw [evalNamed]
    exact preserves_bind (preserves_eval e) fun _ ↦
      preserves_bind (preserves_evalNamed rest) fun _ ↦ preserves_pure _

theorem preserves_evalOption : (e? : Option Expr) → Preserves I (evalOption scope body e?)
  | none => by
    rw [evalOption]
    exact preserves_pure _
  | some e => by
    rw [evalOption]
    exact preserves_map _ (preserves_eval e)

end

end Expressions

/-! ### Cells without a value -/

variable {name : List Char}

/-- Whether no cell of a name in its compatibility form has a value. -/
def Lacks (name : List Char) (cells : List (Cell × Option Item)) : Prop :=
  ∀ level, (cells.lookup ⟨level, name⟩).join = none

/-- Whether no argument is given under a name of a compatibility form. -/
def Scope.Withholds (scope : Scope) (name : List Char) : Prop :=
  ∀ n, compatible n.toList = name → scope.arguments.lookup n = none

/-- Whether no name of a compatibility form is among those that are assigned. -/
def Spares (name : List Char) (uses : List NameUse) : Prop :=
  ∀ n, .write n ∈ uses → compatible n.toList ≠ name

theorem spares_append {first second : List NameUse} :
    Spares name (first ++ second) ↔ Spares name first ∧ Spares name second := by
  simp only [Spares, List.mem_append]
  exact ⟨fun h ↦ ⟨fun n hn ↦ h n (Or.inl hn), fun n hn ↦ h n (Or.inr hn)⟩,
    fun h n hn ↦ hn.elim (h.1 n) (h.2 n)⟩

theorem Spares.of_writesOf {target : Target} (h : Spares name (writesOf target)) :
    ∀ n ∈ target.names, compatible n.toList ≠ name :=
  fun n hn ↦ h n (List.mem_map_of_mem hn)

theorem Lacks.load?_eq_none {m : Memory} (h : Lacks name m.cells) {cell : Cell}
    (hcell : cell.name = name) : m.load? cell = none := by
  obtain ⟨level, own⟩ := cell
  obtain rfl : own = name := hcell
  rw [Memory.load?, h level]
  rfl

theorem Lacks.store {m : Memory} (h : Lacks name m.cells) {cell : Cell} {value : Option Item}
    (hvalue : cell.name = name → value = none) : Lacks name (m.store cell value).cells := by
  intro level
  rw [Memory.store, lookup_assocSet]
  split
  · rename_i hcell
    rw [Option.join_some]
    exact hvalue (congrArg Cell.name (eq_of_beq hcell)).symm
  · exact h level

section Statements

variable {scope : Scope}

/-- The names of a frame get their values from where the name has none. -/
theorem lacks_fill (hscope : scope.Withholds name) (level : Nat)
    (sources : List (String × Source)) {m : Memory} (h : Lacks name m.cells) :
    Lacks name (scope.fill level m sources).cells := by
  induction sources generalizing m with
  | nil => exact h
  | cons source rest ih =>
    obtain ⟨n, source⟩ := source
    cases source with
    | parameter => exact ih h
    | argument =>
      refine ih (h.store fun hname ↦ ?_)
      rw [Scope.argument?, hscope n hname]
      rfl
    | outer other => exact ih (h.store fun hname ↦ h.load?_eq_none hname)
    | unset => exact (ih h).store fun _ ↦ rfl

theorem preserves_enter_bind {α : Type} (hscope : scope.Withholds name) {frame : Frame}
    {next : Scope → Evaluation α}
    (h : ∀ inner : Scope, inner.Withholds name → Preserves (Lacks name) (next inner)) :
    Preserves (Lacks name) (scope.enter frame >>= next) := by
  intro m result after hm hrun
  exact h { scope with frames := frame :: scope.frames } hscope _ result after
    (lacks_fill hscope scope.frames.length frame.sources hm) hrun

mutual

theorem preserves_assign {value : Item} : (target : Target) →
    (∀ n ∈ target.names, compatible n.toList ≠ name) →
    Preserves (Lacks name) (target.assign scope value)
  | .name _ n, h => by
    rw [Target.assign]
    exact preserves_modify fun m hm ↦ hm.store fun hname ↦
      absurd hname (h n List.mem_cons_self)
  | .tuple targets, h => by
    rw [Target.assign]
    refine preserves_bind (preserves_liftM _) fun items ↦ ?_
    split
    · exact preserves_assignAll targets h
    · exact preserves_liftM _
  | .slot owner slot, _ => by
    rw [Target.assign, Scope.setSlot]
    refine preserves_get_bind fun m _ ↦ ?_
    split
    · exact preserves_bind (preserves_liftM _) fun _ ↦ preserves_modify fun _ hm ↦ hm
    · exact preserves_liftM _

theorem preserves_assignAll {values : List Item} : (targets : List Target) →
    (∀ n ∈ namesOfTargets targets, compatible n.toList ≠ name) →
    Preserves (Lacks name) (assignAll scope values targets)
  | [], _ => by
    rw [assignAll]
    exact preserves_pure _
  | t :: targets, h => by
    cases values with
    | nil =>
      rw [assignAll]
      exact preserves_pure _
    | cons v vs =>
      rw [assignAll]
      exact preserves_bind
        (preserves_assign t fun n hn ↦ h n (List.mem_append_left _ hn))
        fun _ ↦ preserves_assignAll targets fun n hn ↦ h n (List.mem_append_right _ hn)

end

theorem preserves_keeps (hscope : scope.Withholds name) {target : Target}
    (htarget : ∀ n ∈ target.names, compatible n.toList ≠ name) (condition : Option Expr)
    (item : Item) : Preserves (Lacks name) (scope.keeps target condition item) := by
  unfold Scope.keeps
  cases condition with
  | none => exact preserves_pure _
  | some e =>
    refine preserves_get_bind fun m hm ↦ preserves_enter_bind hscope fun inner _ ↦ ?_
    exact preserves_bind (preserves_assign target htarget) fun _ ↦
      preserves_bind (preserves_eval _ _ e) fun _ ↦
        preserves_bind (preserves_modify fun _ _ ↦ hm) fun _ ↦ preserves_pure _

/-- The rounds of a loop preserve what its condition and each of them preserve. -/
theorem preserves_loopRounds {looks : Bool} {keeps : Item → Evaluation Bool}
    {round : List Item → Item → List Item × Option Failure → Evaluation Rendering}
    (hkeeps : ∀ item, Preserves I (keeps item))
    (hround : ∀ passed item ahead, Preserves I (round passed item ahead))
    (items passed : List Item) : Preserves I (loopRounds looks keeps round items passed) := by
  induction items generalizing passed with
  | nil =>
    rw [loopRounds]
    exact preserves_pure _
  | cons item rest ih =>
    rw [loopRounds]
    refine preserves_bind (hkeeps item) fun kept ↦ ?_
    split
    · refine preserves_get_bind fun m _ ↦ preserves_bind (hround _ _ _) fun text ↦
        preserves_bind (ih _) fun _ ↦ preserves_pure _
    · exact ih passed

mutual

theorem preserves_render {scope : Scope} (hscope : scope.Withholds name)
    (hloop : compatible "loop".toList ≠ name) :
    (s : Statement) → Spares name s.uses → Preserves (Lacks name) (s.render scope)
  | .text text, _ => by
    rw [Statement.render]
    exact preserves_pure _
  | .print value, _ => by
    rw [Statement.render]
    exact preserves_bind (preserves_eval _ _ value) fun _ ↦
      preserves_bind (preserves_liftM _) fun _ ↦ preserves_pure _
  | .branch cases otherwise, h => by
    rw [Statement.render]
    obtain ⟨hcases, hotherwise⟩ := spares_append.mp h
    refine preserves_bind (preserves_renderCases hscope hloop cases hcases) fun found ↦ ?_
    split
    · exact preserves_pure _
    · exact preserves_renderBody hscope hloop otherwise hotherwise
  | .loop target items condition recursive body otherwise, h => by
    rw [Statement.render]
    obtain ⟨hbefore, -⟩ := spares_append.mp h
    obtain ⟨hrounds, hotherwise⟩ := spares_append.mp hbefore
    obtain ⟨hnames, hbody⟩ := spares_append.mp hrounds
    have htarget := (spares_append.mp hnames).1.of_writesOf
    refine preserves_bind (preserves_eval _ _ items) fun collection ↦
      preserves_bind (preserves_liftM _) fun candidates ↦ preserves_get_bind fun m _ ↦
        preserves_bind (preserves_modify fun _ hm ↦ hm) fun _ ↦ preserves_bind
          (preserves_loopRounds (preserves_keeps hscope htarget condition) ?_ _ _) ?_
    · intro passed item ahead
      refine preserves_bind (preserves_assign target htarget) fun _ ↦ ?_
      dsimp only
      split
      · refine preserves_bind (preserves_modify fun m hm ↦ hm.store fun hname ↦
          absurd hname hloop) fun _ ↦ preserves_enter_bind hscope fun inner hinner ↦ ?_
        exact preserves_renderBody hinner hloop body hbody
      · exact preserves_enter_bind hscope fun inner hinner ↦
          preserves_renderBody hinner hloop body hbody
    · rintro ⟨ran, text⟩
      dsimp only
      split
      · exact preserves_pure _
      · exact preserves_enter_bind hscope fun inner hinner ↦
          preserves_renderBody hinner hloop otherwise hotherwise
  | .assign target value, h => by
    rw [Statement.render]
    have htarget := (spares_append.mp h).1.of_writesOf
    have hassign : Preserves (Lacks name) (do
        target.assign scope (← value.eval scope [])
        return some [] : Evaluation Rendering) :=
      preserves_bind (preserves_eval _ _ value) fun _ ↦
        preserves_bind (preserves_assign target htarget) fun _ ↦ preserves_pure _
    split
    · exact preserves_bind (preserves_throw _) fun _ ↦ hassign
    · exact hassign
  | .capture target value body, h => by
    rw [Statement.render]
    obtain ⟨hnames, hbody⟩ := spares_append.mp h
    have htarget := (spares_append.mp hnames).1.of_writesOf
    exact preserves_enter_bind hscope fun inner hinner ↦
      preserves_bind (preserves_renderBody hinner hloop body hbody) fun _ ↦
        preserves_bind (preserves_liftM _) fun _ ↦ preserves_bind (preserves_eval _ _ value)
          fun _ ↦ preserves_bind (preserves_assign target htarget) fun _ ↦ preserves_pure _
  | .filtered value body, h => by
    rw [Statement.render]
    refine preserves_enter_bind hscope fun inner hinner ↦
      preserves_bind (preserves_renderBody hinner hloop body (spares_append.mp h).1) fun _ ↦
        preserves_bind (preserves_liftM _) fun _ ↦ preserves_bind (preserves_eval _ _ value)
          fun _ ↦ ?_
    split <;> exact preserves_pure _
  | .inclusion template ignoreMissing, _ => by
    rw [Statement.render]
    exact preserves_bind (preserves_eval _ _ template) fun _ ↦
      preserves_bind (preserves_liftM _) fun _ ↦ preserves_pure _
  | .extension _ template, _ => by
    rw [Statement.render]
    exact preserves_bind (preserves_eval _ _ template) fun _ ↦ preserves_liftM _
  | .importation template _, _ => by
    rw [Statement.render]
    exact preserves_bind (preserves_eval _ _ template) fun _ ↦ preserves_liftM _

theorem preserves_renderBody {scope : Scope} (hscope : scope.Withholds name)
    (hloop : compatible "loop".toList ≠ name) :
    (body : List Statement) → Spares name (usesOfBody body) →
    Preserves (Lacks name) (renderBody scope body)
  | [], _ => by
    rw [renderBody]
    exact preserves_pure _
  | s :: rest, h => by
    rw [renderBody]
    obtain ⟨hown, hrest⟩ := spares_append.mp h
    exact preserves_bind (preserves_render hscope hloop s hown) fun _ ↦
      preserves_bind (preserves_renderBody hscope hloop rest hrest) fun _ ↦ preserves_pure _

theorem preserves_renderCases {scope : Scope} (hscope : scope.Withholds name)
    (hloop : compatible "loop".toList ≠ name) :
    (cases : List (Expr × List Statement)) → Spares name (usesOfCases cases) →
    Preserves (Lacks name) (renderCases scope cases)
  | [], _ => by
    rw [renderCases]
    exact preserves_pure _
  | (test, body) :: rest, h => by
    rw [renderCases]
    obtain ⟨hown, hrest⟩ := spares_append.mp h
    refine preserves_bind (preserves_eval _ _ test) fun value ↦ ?_
    split
    · exact preserves_map _ (preserves_renderBody hscope hloop body (spares_append.mp hown).2)
    · exact preserves_renderCases hscope hloop rest hrest

end

end Statements

/-! ### Templates that print a name -/

/-- A body that prints a placeholder fails if its name has no value. -/
theorem renderBody_ne_ok {scope : Scope} {p : Placeholder} {line : Nat}
    (hscope : scope.Withholds (compatible p.name.toList)) {body : List Statement}
    (hbody : Spares (compatible p.name.toList) (usesOfBody body))
    (hprint : .print (p.expr line) ∈ body) {m : Memory}
    (hm : Lacks (compatible p.name.toList) m.cells) (result : Rendering × Memory) :
    renderBody scope body m ≠ .ok result := by
  have hloop : compatible "loop".toList ≠ compatible p.name.toList := by
    intro hsame
    have hcell : Cell.ofName 0 "loop" = Cell.ofName 0 p.name := congrArg (Cell.mk 0) hsame
    have hname : "loop" = p.name := (ofName_inj (by decide) p.plain).mp hcell
    exact p.unreserved (hname ▸ by decide)
  -- The memory goes on lacking the name up to the print, as no statement before it assigns it.
  induction body generalizing m result with
  | nil => cases hprint
  | cons s rest ih =>
    obtain ⟨hown, hrest⟩ := spares_append.mp hbody
    intro hrun
    cases hfirst : s.render scope m with
    | error failure =>
      rw [renderBody, bind_of_error hfirst] at hrun
      cases hrun
    | ok rendered =>
      obtain ⟨first, middle⟩ := rendered
      rcases List.mem_cons.mp hprint with rfl | hlater
      · have hload : m.load? (scope.cell p.name) = scope.argument? p.name := by
          rw [hm.load?_eq_none rfl, Scope.argument?, hscope p.name rfl]
          rfl
        rw [render_print hload, hscope p.name rfl] at hfirst
        cases hfirst
      · rw [renderBody_cons_of_ok hfirst] at hrun
        cases hothers : renderBody scope rest middle with
        | error failure =>
          rw [hothers] at hrun
          cases hrun
        | ok others =>
          have hmiddle := preserves_render hscope hloop s hown m first middle hm hfirst
          exact ih hrest hlater hmiddle others hothers

/-- Whether code is a template that prints a placeholder of a name outside of all its blocks, and
that assigns nothing to the name. -/
def AlwaysPrints (code : List Char) (name : String) : Prop :=
  hasTag (unifyOpenings code) ∧
    ∃ read body, readTemplate (unifyNewlines (unifyOpenings code)) = .ok read ∧
      checkTemplate read = .ok body ∧
      (∃ (p : Placeholder) (line : Nat), p.name = name ∧ .print (p.expr line) ∈ body) ∧
      Spares (compatible name.toList) (usesOfBody body)

/-- A template that always prints a name is filled in only if the name is given, under itself or
under a name that is the same in its compatibility form. -/
theorem exists_given_of_expand_eq_ok {code text : List Char} {name : String}
    (hprints : AlwaysPrints code name) {arguments : List (String × String)}
    (h : expand code arguments = .ok text) :
    ∃ given ∈ entryNames arguments,
      compatible given.toList = compatible name.toList := by
  obtain ⟨htag, read, body, hread, hcheck, ⟨p, line, rfl, hprint⟩, hbody⟩ := hprints
  by_contra hnone
  let entered : Scope := ⟨arguments, [Frame.ofTemplate body]⟩
  have hscope : entered.Withholds (compatible p.name.toList) := by
    intro n hn
    exact lookup_eq_none_iff.mpr fun hmem ↦ hnone ⟨n, hmem, hn⟩
  have hself : Cell.ofName 0 "self" ≠ Cell.ofName 0 p.name := by
    rw [ne_eq, ofName_inj (by decide) p.plain]
    exact fun hname ↦ p.unreserved (hname ▸ by decide)
  have hempty : Lacks (compatible p.name.toList) Memory.empty.cells := fun _ ↦ rfl
  have hstart : Lacks (compatible p.name.toList)
      (Memory.empty.store (Cell.ofName 0 "self") (some .template)).cells :=
    hempty.store fun hname ↦ absurd (congrArg (Cell.mk 0) hname) hself
  have houtside : Scope.Withholds ⟨arguments, []⟩ (compatible p.name.toList) := hscope
  have hentered := lacks_fill houtside 0 (Frame.ofTemplate body).sources hstart
  have hrender : ∀ result, renderBody entered body _ ≠ .ok result :=
    renderBody_ne_ok hscope hbody hprint hentered
  rw [expand, if_pos htag, renderTemplate, hread] at h
  change (checkTemplate read >>= fun ready ↦ (renderChecked arguments ready).run .empty >>=
    fun result ↦ result.1.text) = _ at h
  rw [hcheck] at h
  change (renderChecked arguments body .empty >>= fun result ↦ result.1.text) = _ at h
  cases hrun : renderChecked arguments body .empty with
  | error failure =>
    rw [hrun] at h
    cases h
  | ok result => exact hrender result hrun

/-- Placeholders are printed. -/
theorem exists_print_mem_partStatements (newlines : Nat) {parts : List (Placeholder × List Char)}
    {p : Placeholder} (hp : p ∈ parts.map (·.1)) :
    ∃ line, .print (p.expr line) ∈ partStatements newlines parts := by
  induction parts with
  | nil => cases hp
  | cons part rest ih =>
    obtain ⟨q, text⟩ := part
    rcases List.mem_cons.mp hp with rfl | hrest
    · exact ⟨_, List.mem_cons_self⟩
    · obtain ⟨line, hline⟩ := ih hrest
      exact ⟨line, List.mem_cons_of_mem _ (List.mem_append_right _ hline)⟩

/-- Code of text and placeholders always prints each of the placeholders if none of them has too
many filters. -/
theorem Layout.alwaysPrints_of_mem {layout : Layout} (htags : layout.isTagFree)
    (hnested : isTooNested layout.parts = false) {p : Placeholder}
    (hp : p ∈ layout.parts.map (·.1)) : AlwaysPrints layout.written p.name := by
  have hhigh : isTooHigh layout.parts = false := by
    by_contra hhigh
    rw [isTooNested_of_isTooHigh (Bool.not_eq_false _ ▸ hhigh)] at hnested
    cases hnested
  have hchecked : checkTemplate (layout.mapText unifyNewlines).statements =
      .ok (layout.mapText unifyNewlines).statements := by
    have hmapped : isTooHigh (layout.mapText unifyNewlines).parts = false ∧
        isTooNested (layout.mapText unifyNewlines).parts = false :=
      ⟨List.any_map.trans hhigh, List.any_map.trans hnested⟩
    rw [checkTemplate_statements, hmapped.1, hmapped.2]
    rfl
  have hkept : p ∈ (layout.mapText unifyNewlines).parts.map (·.1) := by
    rw [Layout.mapText, List.map_map]
    exact hp
  obtain ⟨line, hprint⟩ := exists_print_mem_partStatements
    (newlineCount (layout.mapText unifyNewlines).unified) hkept
  refine ⟨?_, (layout.mapText unifyNewlines).statements, (layout.mapText unifyNewlines).statements,
    ?_, hchecked, ⟨p, line, rfl, List.mem_append_right _ hprint⟩, ?_⟩
  · have hparts : layout.parts ≠ [] := by
      rintro hnil
      rw [hnil] at hp
      cases hp
    rw [unifyOpenings_written htags, hasTag_unified htags, List.isEmpty_eq_false_iff.mpr hparts]
    rfl
  · rw [unifyOpenings_written htags, unifyNewlines_unified,
      readTemplate_unified (Layout.isTagFree_mapText_unifyNewlines htags)]
  · intro n hn
    rw [Layout.statements, usesOfBody_textStatements, usesOfBody_partStatements] at hn
    obtain ⟨other, -, hread⟩ := List.mem_map.mp hn
    cases hread

end Scriptorium.Template
