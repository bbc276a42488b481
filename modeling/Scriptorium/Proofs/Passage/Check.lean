import Scriptorium.Proofs.Passage.Read

/-!
# Checks of passages

What `checkTemplate` says of a passage. A passage reads the names of its placeholders and of its
tags and assigns none, so its frame takes all of them from the arguments (`Frame.Gains`), in
whatever branch they are read. Then all its statements are accepted as they are. What can be noted
on the way is indentation that is too deep: each branch adds a level, and there is a bound on the
levels (`isTooDeep`). So the check comes to the depth of the passage (`checkTemplate_parses`).
-/

set_option autoImplicit false
set_option relaxedAutoImplicit false

namespace Scriptorium.Template

/-! ### Sources -/

/-- The names of sources after one is set. -/
theorem any_setSource (name : String) (source : Source) (sources : List (String × Source))
    (n : String) :
    (Frame.setSource name source sources).any (·.1 == n) =
      (sources.any (·.1 == n) || name == n) := by
  induction sources with
  | nil => simp [Frame.setSource]
  | cons s rest ih =>
    obtain ⟨m, t⟩ := s
    by_cases hname : m = name
    · subst hname
      rw [Frame.setSource, if_pos (beq_self_eq_true m), List.any_cons, List.any_cons]
      cases m == n <;> simp
    · rw [Frame.setSource, if_neg (by simpa using hname), List.any_cons, List.any_cons, ih,
        Bool.or_assoc]

/-- Sources from the arguments after another is set. -/
theorem forall_setSource {sources : List (String × Source)}
    (h : ∀ s ∈ sources, s.2 = .argument) (name : String) :
    ∀ s ∈ Frame.setSource name .argument sources, s.2 = .argument := by
  induction sources with
  | nil =>
    intro s hs
    rw [List.mem_singleton.mp hs]
  | cons s rest ih =>
    obtain ⟨m, t⟩ := s
    intro u hu
    rw [Frame.setSource] at hu
    split at hu
    · rcases List.mem_cons.mp hu with rfl | hrest
      · rfl
      · exact h u (List.mem_cons_of_mem _ hrest)
    · rcases List.mem_cons.mp hu with rfl | hrest
      · exact h _ List.mem_cons_self
      · exact ih (fun v hv ↦ h v (List.mem_cons_of_mem _ hv)) u hrest

/-- Sources with others set after them. -/
def setSources (done sources : List (String × Source)) : List (String × Source) :=
  sources.foldl (fun s (name, source) ↦ Frame.setSource name source s) done

/-- The names of sources after others are set. -/
theorem any_setSources (done sources : List (String × Source)) (n : String) :
    (setSources done sources).any (·.1 == n) =
      (done.any (·.1 == n) || sources.any (·.1 == n)) := by
  induction sources generalizing done with
  | nil => simp [setSources]
  | cons s rest ih =>
    refine (ih (Frame.setSource s.1 s.2 done)).trans ?_
    rw [any_setSource, List.any_cons, Bool.or_assoc]

/-- Sources from the arguments after others from the arguments are set. -/
theorem forall_setSources {done sources : List (String × Source)}
    (hdone : ∀ s ∈ done, s.2 = .argument) (hsources : ∀ s ∈ sources, s.2 = .argument) :
    ∀ s ∈ setSources done sources, s.2 = .argument := by
  induction sources generalizing done with
  | nil => exact hdone
  | cons s rest ih =>
    obtain ⟨name, source⟩ := s
    obtain rfl : source = .argument := hsources _ List.mem_cons_self
    exact ih (forall_setSource hdone name) fun t ht ↦ hsources t (List.mem_cons_of_mem _ ht)

/-! ### Frames that gain names -/

namespace Frame

/-- Whether a frame is another one with some names more. Neither assigns any, and all names get
their values from the arguments. -/
structure Gains (f g : Frame) (names : List String) : Prop where
  before : f.IsOfArguments
  after : g.IsOfArguments
  unassigned : f.assigned = []
  stillUnassigned : g.assigned = []
  has (name : String) : g.has name = (f.has name || names.contains name)

variable {f g h : Frame} {names others : List String}

/-- A frame gains the names that it gains in two steps. -/
theorem Gains.trans (hfg : Gains f g names) (hgh : Gains g h others) :
    Gains f h (names ++ others) where
  before := hfg.before
  after := hgh.after
  unassigned := hfg.unassigned
  stillUnassigned := hgh.stillUnassigned
  has name := by
    rw [hgh.has, hfg.has, Bool.or_assoc]
    congr 1
    rw [Bool.eq_iff_iff]
    simp

/-- Reading names assigns none. -/
theorem assigned_readAll (f : Frame) (names : List String) :
    (f.readAll [] names).assigned = f.assigned := by
  induction names generalizing f with
  | nil => rfl
  | cons name rest ih =>
    have hread : (f.read [] name).assigned = f.assigned := by
      rw [read_nil]
      split <;> rfl
    exact (ih (f.read [] name)).trans hread

/-- A frame gains the names that are read in it. -/
theorem gains_readAll (hbefore : f.IsOfArguments) (hunassigned : f.assigned = [])
    (names : List String) : Gains f (f.readAll [] names) names where
  before := hbefore
  after := isOfArguments_readAll hbefore names
  unassigned := hunassigned
  stillUnassigned := (assigned_readAll f names).trans hunassigned
  has := has_readAll f names

/-- What several frames add to one is what each of them adds, where none assigns a name. -/
theorem merge_of_unassigned {branches : List Frame} (hf : f.assigned = [])
    (h : ∀ b ∈ branches, b.assigned = []) :
    merge [] f branches =
      ⟨branches.foldl (fun done b ↦ setSources done b.sources) f.sources, []⟩ := by
  have hassigned : branches.flatMap (·.assigned) = [] := by
    rw [List.flatMap_eq_nil_iff]
    exact h
  simp only [merge, hassigned, hf]
  rfl

/-- A frame gains from two branches, of which one may have a further case, the names that they gain
from it. -/
theorem gains_merge {first second : Frame} (hfirst : Gains f first names)
    (hsecond : Gains f second others) :
    Gains f (merge [] f [first, f, second]) (names ++ others) := by
  have hmerge : merge [] f [first, f, second] =
      ⟨setSources (setSources (setSources f.sources first.sources) f.sources) second.sources,
        []⟩ := by
    refine merge_of_unassigned hfirst.unassigned ?_
    simp [hfirst.stillUnassigned, hfirst.unassigned, hsecond.stillUnassigned]
  have hsources : ∀ name, (merge [] f [first, f, second]).has name =
      (((f.has name || first.has name) || f.has name) || second.has name) := by
    intro name
    rw [hmerge]
    simp only [has, any_setSources]
  refine ⟨hfirst.before, ?_, hfirst.unassigned, by rw [hmerge], ?_⟩
  · rw [hmerge]
    exact forall_setSources (forall_setSources (forall_setSources hfirst.before hfirst.after)
      hfirst.before) hsecond.after
  · intro name
    rw [hsources, hfirst.has, hsecond.has, Bool.eq_iff_iff]
    simp only [Bool.or_eq_true, List.contains_iff_mem, List.mem_append]
    tauto

end Frame

/-! ### Names of a passage -/

/-- The names that a passage reads. -/
def Passage.names : Passage → List String
  | text run => partNames (runLayout run).parts
  | guarded before _ name body _ rest =>
    partNames (runLayout before).parts ++ (name.text :: (body.names ++ rest.names))
  | either before _ name body _ otherwise _ rest =>
    partNames (runLayout before).parts ++
      (name.text :: (body.names ++ (otherwise.names ++ rest.names)))

/-- The names that a passage reads are plain and no words of the language. -/
theorem Passage.isPlainName_of_mem_names {p : Passage} {name : String} (h : name ∈ p.names) :
    isPlainName name.toList ∧ name ∉ reservedNames := by
  induction p with
  | text run => exact isPlainName_of_mem_partNames h
  | guarded before opening test body closing rest hbody hrest =>
    simp only [names, List.mem_append, List.mem_cons] at h
    rcases h with hbefore | rfl | hinside | hbehind
    · exact isPlainName_of_mem_partNames hbefore
    · exact ⟨test.plain, test.unreserved⟩
    · exact hbody hinside
    · exact hrest hbehind
  | either before opening test body middle otherwise closing rest hbody hotherwise hrest =>
    simp only [names, List.mem_append, List.mem_cons] at h
    rcases h with hbefore | rfl | hinside | hbeside | hbehind
    · exact isPlainName_of_mem_partNames hbefore
    · exact ⟨test.plain, test.unreserved⟩
    · exact hbody hinside
    · exact hotherwise hbeside
    · exact hrest hbehind

variable {p : Passage} {tokens : List Token} {statements : List Statement}

/-- Statements use the names that those before and those after use. -/
theorem usesOfBody_append (first second : List Statement) :
    usesOfBody (first ++ second) = usesOfBody first ++ usesOfBody second := by
  induction first with
  | nil => rfl
  | cons s rest ih => rw [List.cons_append, usesOfBody, usesOfBody, ih, List.append_assoc]

/-- Statements add names to a frame one after the other. -/
theorem addBody_append (f : Frame) (first second : List Statement) :
    Frame.addBody [] f (first ++ second) = Frame.addBody [] (Frame.addBody [] f first) second := by
  induction first generalizing f with
  | nil => rfl
  | cons s rest ih => rw [List.cons_append, Frame.addBody, Frame.addBody, ih]

/-- Statements extend a template if those before or those after do. -/
theorem bodyExtends_append (first second : List Statement) :
    bodyExtends (first ++ second) = (bodyExtends first || bodyExtends second) := by
  induction first with
  | nil => rfl
  | cons s rest ih => rw [List.cons_append, bodyExtends, bodyExtends, ih, Bool.or_assoc]

/-- A passage uses its names by reading them. -/
theorem usesOfBody_parses (h : p.Parses tokens statements) :
    usesOfBody statements = readsOf p.names := by
  induction h with
  | text run newlines => exact usesOfBody_statementsFrom newlines (runLayout run)
  | guarded before newlines opening first name hbody closing last hrest ihbody ihrest =>
    simp only [usesOfBody_append, usesOfBody_statementsFrom, usesOfBody, Statement.uses,
      usesOfCases, ihbody, ihrest, Passage.names, readsOf, Expr.names, List.map_append,
      List.map_cons, List.map_nil, List.append_nil, List.cons_append, List.nil_append]
  | either before newlines opening first name hbody middle second hotherwise closing last hrest
      ihbody ihotherwise ihrest =>
    simp only [usesOfBody_append, usesOfBody_statementsFrom, usesOfBody, Statement.uses,
      usesOfCases, ihbody, ihotherwise, ihrest, Passage.names, readsOf, Expr.names,
      List.map_append, List.map_cons, List.map_nil, List.append_nil, List.cons_append,
      List.nil_append, List.append_assoc]

/-- A passage extends no template. -/
theorem bodyExtends_parses (h : p.Parses tokens statements) : bodyExtends statements = false := by
  induction h with
  | text run newlines => exact bodyExtends_statementsFrom newlines (runLayout run)
  | guarded before newlines opening first name hbody closing last hrest ihbody ihrest =>
    simp [bodyExtends_append, bodyExtends_statementsFrom, bodyExtends, Statement.extends,
      caseExtends, ihbody, ihrest]
  | either before newlines opening first name hbody middle second hotherwise closing last hrest
      ihbody ihotherwise ihrest =>
    simp [bodyExtends_append, bodyExtends_statementsFrom, bodyExtends, Statement.extends,
      caseExtends, ihbody, ihotherwise, ihrest]

/-- A frame gains the names of a branch: that of its test, and those of its bodies. -/
theorem gains_branch {f : Frame} (hbefore : f.IsOfArguments) (hunassigned : f.assigned = [])
    (line : Nat) (name : String) {inner other : List Statement} {inside beside : List String}
    (hinner : ∀ g : Frame, g.IsOfArguments → g.assigned = [] →
      Frame.Gains g (Frame.addBody [] g inner) inside)
    (hother : ∀ g : Frame, g.IsOfArguments → g.assigned = [] →
      Frame.Gains g (Frame.addBody [] g other) beside) :
    Frame.Gains f (Frame.addStatement [] f (.branch [(.name line name, inner)] other))
      (name :: (inside ++ beside)) := by
  have htest := Frame.gains_readAll hbefore hunassigned [name]
  exact htest.trans (Frame.gains_merge (hinner _ htest.after htest.stillUnassigned)
    (hother _ htest.after htest.stillUnassigned))

/-- A frame gains the names of a passage. -/
theorem gains_parses (h : p.Parses tokens statements) {f : Frame} (hbefore : f.IsOfArguments)
    (hunassigned : f.assigned = []) : Frame.Gains f (Frame.addBody [] f statements) p.names := by
  have hnone : ∀ g : Frame, g.IsOfArguments → g.assigned = [] →
      Frame.Gains g (Frame.addBody [] g []) [] := fun g hg hassigned ↦
    Frame.gains_readAll hg hassigned []
  induction h generalizing f with
  | text run newlines =>
    rw [addBody_statementsFrom]
    exact Frame.gains_readAll hbefore hunassigned _
  | guarded before newlines opening first name hbody closing last hrest ihbody ihrest =>
    have hrun := Frame.gains_readAll hbefore hunassigned (partNames (runLayout before).parts)
    have hbranch := gains_branch hrun.after hrun.stillUnassigned first name.text
      (fun _ hg hassigned ↦ ihbody hg hassigned) hnone
    have hwhole := hrun.trans (hbranch.trans (ihrest hbranch.after hbranch.stillUnassigned))
    rw [addBody_append, addBody_statementsFrom, Frame.addBody]
    simpa only [Passage.names, List.append_nil, List.cons_append] using hwhole
  | either before newlines opening first name hbody middle second hotherwise closing last hrest
      ihbody ihotherwise ihrest =>
    have hrun := Frame.gains_readAll hbefore hunassigned (partNames (runLayout before).parts)
    have hbranch := gains_branch hrun.after hrun.stillUnassigned first name.text
      (fun _ hg hassigned ↦ ihbody hg hassigned) (fun _ hg hassigned ↦ ihotherwise hg hassigned)
    have hwhole := hrun.trans (hbranch.trans (ihrest hbranch.after hbranch.stillUnassigned))
    rw [addBody_append, addBody_statementsFrom, Frame.addBody]
    simpa only [Passage.names, List.append_assoc, List.cons_append] using hwhole

/-- The frame of a passage has the names of the passage. -/
theorem gains_ofTemplate (h : p.Parses tokens statements) :
    Frame.Gains .empty (Frame.ofTemplate statements) p.names := by
  have hself : "self" ∉ p.names :=
    fun hmem ↦ (Passage.isPlainName_of_mem_names hmem).2 (by decide)
  rw [ofTemplate_of_usesOfBody (usesOfBody_parses h) hself]
  exact gains_parses h Frame.isOfArguments_empty rfl

/-! ### Indentation -/

/-- Whether branches that are nested so deep are indented too deep at a level. -/
def isTooDeep (indent depth : Nat) : Bool := depth != 0 && decide (indentLimit ≤ indent + depth)

/-- The deeper of two passages decides. -/
theorem isTooDeep_max (indent first second : Nat) :
    isTooDeep indent (max first second) = (isTooDeep indent first || isTooDeep indent second) := by
  rw [Bool.eq_iff_iff]
  simp only [isTooDeep, Bool.or_eq_true, Bool.and_eq_true, bne_iff_ne, decide_eq_true_eq]
  omega

/-- A branch adds a level, and its bodies are a level below it. -/
theorem isTooDeep_succ (indent depth : Nat) :
    isTooDeep indent (depth + 1) =
      (decide (indentLimit ≤ indent + 1) || isTooDeep (indent + 1) depth) := by
  rw [Bool.eq_iff_iff]
  simp only [isTooDeep, Bool.or_eq_true, Bool.and_eq_true, bne_iff_ne, decide_eq_true_eq]
  omega

variable {place : Place} {notes : Notes}

/-- Notes with indentation that is too deep, if it is. -/
def Notes.deepened (notes : Notes) (deep : Bool) : Notes :=
  if deep then { notes with flaw := some .deepIndentation } else notes

/-- Noting twice that indentation is too deep is noting it once. -/
theorem Notes.deepened_deepened (notes : Notes) (first second : Bool) :
    (notes.deepened first).deepened second = notes.deepened (first || second) := by
  cases first <;> cases second <;> rfl

/-- Indentation that is too deep is noted before any other flaw. -/
theorem checkIndent_eq (place : Place) (levels : Nat) (notes : Notes) :
    place.checkIndent levels notes =
      .ok ((), notes.deepened (decide (indentLimit ≤ place.indent + levels))) := by
  rw [Place.checkIndent]
  by_cases hdeep : indentLimit ≤ place.indent + levels
  · rw [if_pos hdeep, decide_eq_true hdeep]
    obtain ⟨extended, flaw⟩ := notes
    cases flaw <;> rfl
  · rw [if_neg hdeep, decide_eq_false hdeep]
    rfl

/-! ### Whether a passage is accepted -/

/-- The test of a branch is accepted if its name is known. -/
theorem ready_test {line : Nat} (name : ArgumentName)
    (hname : (Frame.levelOf? name.text place.frames).isSome)
    (hparameter : Frame.isParameter name.text place.frames = false) :
    (Expr.name line name.text).ready place 0 notes = .ok (.name line name.text, notes) := by
  have hprepare : (Expr.name line name.text).prepare place notes =
      .ok (.name line name.text, notes) :=
    prepare_expr_of_le (p := ⟨[], name.text, [], rfl, name.plain, name.unreserved⟩) hname
      (show 1 ≤ heightLimit by decide)
  have hbrackets : (Expr.name line name.text).brackets place.frames = 2 := by
    rw [Expr.brackets, hparameter]
    rfl
  rw [Expr.ready, bind_of_ok hprepare, hbrackets]
  rfl

/-- Whether statements with branches that are nested so deep are accepted as they are: all that is
noted is whether that is too deep. -/
def Accepts (place : Place) (depth : Nat) (body : List Statement) : Prop :=
  ∀ notes, checkBody place body notes =
    .ok (body, notes.deepened (isTooDeep place.indent depth))

/-- No statements are accepted. -/
theorem accepts_nil (place : Place) : Accepts place 0 [] := fun _ ↦ rfl

/-- A branch is accepted if its bodies are, a level below it. -/
theorem accepts_branch (line : Nat) {first second : Nat} (name : ArgumentName)
    {inner other : List Statement} (hname : (Frame.levelOf? name.text place.frames).isSome)
    (hparameter : Frame.isParameter name.text place.frames = false)
    (hinner : Accepts place.ofCase first inner) (hother : Accepts place.ofCase second other) :
    Accepts place (max first second + 1) [.branch [(.name line name.text, inner)] other] := by
  intro notes
  let deeper := notes.deepened (decide (indentLimit ≤ place.indent + 1))
  have htest : (Expr.name line name.text).ready { place with soft := true, root := false } 0
      deeper = .ok (.name line name.text, deeper) := ready_test name hname hparameter
  have hcases : checkCases place [(.name line name.text, inner)] deeper =
      .ok ([(.name line name.text, inner)],
        deeper.deepened (isTooDeep (place.indent + 1) first)) := by
    rw [checkCases, bind_of_ok htest, bind_of_ok (hinner deeper)]
    rfl
  have hbranch : (Statement.branch [(.name line name.text, inner)] other).check place notes =
      .ok ([.branch [(.name line name.text, inner)] other],
        (deeper.deepened (isTooDeep (place.indent + 1) first)).deepened
          (isTooDeep (place.indent + 1) second)) := by
    rw [Statement.check, bind_of_ok (checkIndent_eq place 1 notes), bind_of_ok hcases,
      bind_of_ok (hother _)]
    rfl
  rw [checkBody_cons_of_ok (Bool.and_false _) hbranch, Notes.deepened_deepened,
    Notes.deepened_deepened, isTooDeep_succ, isTooDeep_max]
  rfl

/-- A statement that extends a template itself is one among which some do. -/
theorem isExtension_of_bodyExtends {body : List Statement} (h : bodyExtends body = false)
    {s : Statement} (hs : s ∈ body) : s.isExtension = false := by
  induction body with
  | nil => cases hs
  | cons t rest ih =>
    rw [bodyExtends, Bool.or_eq_false_iff] at h
    rcases List.mem_cons.mp hs with rfl | hrest
    · cases s with
      | extension _ _ => cases h.1
      | _ => rfl
    · exact ih h.2 hrest

/-- Statements of which none extends a template, and statements after them that are accepted. -/
theorem checkBody_append {first second ready others : List Statement} {middle after : Notes}
    (hextension : ∀ s ∈ first, s.isExtension = false)
    (hfirst : checkBody place first notes = .ok (ready, middle))
    (hsecond : checkBody place second middle = .ok (others, after)) :
    checkBody place (first ++ second) notes = .ok (ready ++ others, after) := by
  induction first generalizing notes ready with
  | nil =>
    obtain ⟨rfl, rfl⟩ := Prod.mk.inj (Except.ok.inj hfirst)
    exact hsecond
  | cons s rest ih =>
    have hextended : (notes.extended && s.isExtension) = false := by
      rw [hextension s List.mem_cons_self, Bool.and_false]
    have hrest : ∀ t ∈ rest, t.isExtension = false :=
      fun t ht ↦ hextension t (List.mem_cons_of_mem _ ht)
    cases hs : s.check place notes with
    | error failure =>
      rw [checkBody_cons_of_error hs] at hfirst
      cases hfirst
    | ok checked =>
      obtain ⟨own, between⟩ := checked
      rw [checkBody_cons_of_ok hextended hs] at hfirst
      rw [List.cons_append, checkBody_cons_of_ok hextended hs]
      cases hbody : checkBody place rest between with
      | error failure =>
        rw [hbody] at hfirst
        cases hfirst
      | ok body =>
        rw [hbody] at hfirst
        obtain ⟨rfl, rfl⟩ := Prod.mk.inj (Except.ok.inj hfirst)
        rw [ih hrest hbody]
        simp [Except.map]

/-- Statements are accepted if those before and those after are, and none of those before extends a
template. -/
theorem Accepts.append {first second : Nat} {before after : List Statement}
    (hextension : ∀ s ∈ before, s.isExtension = false) (hbefore : Accepts place first before)
    (hafter : Accepts place second after) :
    Accepts place (max first second) (before ++ after) := by
  intro notes
  rw [checkBody_append hextension (hbefore notes) (hafter _), Notes.deepened_deepened,
    isTooDeep_max]

/-- A run is accepted if no placeholder has too many filters. -/
theorem accepts_run (hguarded : place.guarded = false) (newlines : Nat) {run : List TextLine}
    (hnames : ∀ name ∈ partNames (runLayout run).parts, (Frame.levelOf? name place.frames).isSome)
    (hparameters : ∀ name, Frame.isParameter name place.frames = false)
    (hnested : isTooNested (runLayout run).parts = false) :
    Accepts place 0 ((runLayout run).statementsFrom newlines) := by
  intro notes
  have hhigh : isTooHigh (runLayout run).parts = false := by
    by_contra hhigh
    rw [isTooNested_of_isTooHigh (Bool.not_eq_false _ ▸ hhigh)] at hnested
    cases hnested
  rw [checkBody_statementsFrom hguarded newlines hnames hparameters, hhigh, hnested]
  rfl

/-- A run, a branch and what follows it are accepted if each of them is. -/
theorem accepts_before (newlines : Nat) (before : List TextLine) {first second : Nat}
    {cases : List (Expr × List Statement)} {otherwise after : List Statement}
    (hrun : Accepts place 0 ((runLayout before).statementsFrom newlines))
    (hbranch : Accepts place first [.branch cases otherwise])
    (hafter : Accepts place second after) :
    Accepts place (max first second)
      ((runLayout before).statementsFrom newlines ++ .branch cases otherwise :: after) := by
  have hplain : ∀ s ∈ (runLayout before).statementsFrom newlines, s.isExtension = false :=
    fun s hs ↦ isExtension_of_bodyExtends (bodyExtends_statementsFrom newlines _) hs
  have hsingle : ∀ s ∈ [Statement.branch cases otherwise], s.isExtension = false := by
    intro s hs
    rw [List.mem_singleton.mp hs]
    rfl
  have hwhole := hrun.append hplain (hbranch.append hsingle hafter)
  rwa [Nat.zero_max] at hwhole

/-- A passage is accepted if no placeholder has too many filters. -/
theorem accepts_parses (h : p.Parses tokens statements) (hguarded : place.guarded = false)
    (hnames : ∀ name ∈ p.names, (Frame.levelOf? name place.frames).isSome)
    (hparameters : ∀ name, Frame.isParameter name place.frames = false)
    (hnested : ∀ run ∈ p.runs, isTooNested (runLayout run).parts = false) :
    Accepts place p.depth statements := by
  -- A body stands one level below its branch but in the same frames, as it assigns no name.
  induction h generalizing place with
  | text run newlines =>
    exact accepts_run hguarded newlines hnames hparameters (hnested run List.mem_cons_self)
  | guarded before newlines opening first name hbody closing last hrest ihbody ihrest =>
    simp only [Passage.names, List.mem_append, List.mem_cons] at hnames
    simp only [Passage.runs, List.mem_cons, List.mem_append] at hnested
    have hrun := accepts_run hguarded newlines (fun n hn ↦ hnames n (Or.inl hn)) hparameters
      (hnested before (Or.inl rfl))
    have hinner := ihbody (show place.ofCase.guarded = false from hguarded)
      (fun n hn ↦ hnames n (Or.inr (Or.inr (Or.inl hn)))) hparameters
      (fun run hrun ↦ hnested run (Or.inr (Or.inl hrun)))
    have hbranch := accepts_branch first name (hnames _ (Or.inr (Or.inl rfl))) (hparameters _)
      hinner (accepts_nil place.ofCase)
    have hafter := ihrest hguarded (fun n hn ↦ hnames n (Or.inr (Or.inr (Or.inr hn)))) hparameters
      (fun run hrun ↦ hnested run (Or.inr (Or.inr hrun)))
    have hwhole := accepts_before newlines before hrun hbranch hafter
    simpa only [Passage.depth, Nat.max_zero] using hwhole
  | either before newlines opening first name hbody middle second hotherwise closing last hrest
      ihbody ihotherwise ihrest =>
    simp only [Passage.names, List.mem_append, List.mem_cons] at hnames
    simp only [Passage.runs, List.mem_cons, List.mem_append] at hnested
    have hrun := accepts_run hguarded newlines (fun n hn ↦ hnames n (Or.inl hn)) hparameters
      (hnested before (Or.inl rfl))
    have hinner := ihbody (show place.ofCase.guarded = false from hguarded)
      (fun n hn ↦ hnames n (Or.inr (Or.inr (Or.inl hn)))) hparameters
      (fun run hrun ↦ hnested run (Or.inr (Or.inl hrun)))
    have hother := ihotherwise (show place.ofCase.guarded = false from hguarded)
      (fun n hn ↦ hnames n (Or.inr (Or.inr (Or.inr (Or.inl hn))))) hparameters
      (fun run hrun ↦ hnested run (Or.inr (Or.inr (Or.inl hrun))))
    have hbranch := accepts_branch first name (hnames _ (Or.inr (Or.inl rfl))) (hparameters _)
      hinner hother
    have hafter := ihrest hguarded
      (fun n hn ↦ hnames n (Or.inr (Or.inr (Or.inr (Or.inr hn))))) hparameters
      (fun run hrun ↦ hnested run (Or.inr (Or.inr (Or.inr hrun))))
    exact accepts_before newlines before hrun hbranch hafter

/-- What the check of a passage comes to. -/
theorem checkTemplate_parses (h : p.Parses tokens statements)
    (hnested : ∀ run ∈ p.runs, isTooNested (runLayout run).parts = false) :
    checkTemplate statements =
      if isTooDeep 1 p.depth then .error (.fault .deepIndentation) else .ok statements := by
  have hframe := gains_ofTemplate h
  have hnames : ∀ name ∈ p.names,
      (Frame.levelOf? name [Frame.ofTemplate statements]).isSome := by
    intro name hname
    have hhas : (Frame.ofTemplate statements).has name = true := by
      rw [hframe.has, List.contains_iff_mem.mpr hname, Bool.or_true]
    rw [Frame.levelOf?, if_pos hhas]
    rfl
  have hbody : checkBody ⟨[Frame.ofTemplate statements], false, true, true, false, false, 1, 0⟩
      statements ⟨false, none⟩ =
        .ok (statements, Notes.deepened ⟨false, none⟩ (isTooDeep 1 p.depth)) :=
    accepts_parses h rfl hnames (Frame.isParameter_of_isOfArguments hframe.after) hnested _
  rw [checkTemplate, bodyExtends_parses h]
  show (checkBody _ statements ⟨false, none⟩ >>= _) = _
  rw [hbody]
  cases isTooDeep 1 p.depth <;> rfl

end Scriptorium.Template
