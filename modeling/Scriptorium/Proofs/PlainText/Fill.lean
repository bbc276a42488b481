import Mathlib.Data.List.Nodup
import Scriptorium.Proofs.PlainText

/-!
# Filling in a placeholder beside plain text

Text before other statements is rendered before what these render, whatever they are
(`renderRead_stretchStatements`). So the code that a plain text and a placeholder after it make is
refused, or is some of the characters of the text and then the argument
(`exists_sublist_of_expand`): all of them, but for line ends, if the text opens no comment, and
fewer if it does. Alone the text stays in any case; beside the placeholder it stays exactly if it
has neither comments nor carriage returns (`fill_append_placeholder_iff`).
-/

set_option autoImplicit false
set_option relaxedAutoImplicit false

namespace Scriptorium.Template

open Text Reader

/-! ### Reading -/

/-- Stretches of text as statements. -/
def stretchStatements (stretches : List (Nat × List Char)) : List Statement :=
  stretches.flatMap fun s ↦ textStatements s.2

theorem stretchStatements_cons (s : Nat × List Char) (others : List (Nat × List Char)) :
    stretchStatements (s :: others) = textStatements s.2 ++ stretchStatements others := rfl

section Reading

variable {rest : List Token} {awaited : List (List String)} {opened closers : List String}

theorem stretchTokens_cons (s : Nat × List Char) (others : List (Nat × List Char)) :
    stretchTokens (s :: others) = dataTokens s.1 s.2 ++ stretchTokens others := rfl

/-- What goes on behind a token goes on where the rest can be read. -/
theorem advance_bind {α : Type} (t : Token) (rest : List Token) (l b : Nat)
    (next : Unit → Reader α) :
    (advance >>= next) ⟨t :: rest, l, b⟩ = settle ⟨rest, t.line, b⟩ >>= next () := by
  change ((settle ⟨rest, t.line, b⟩).map ((), ·) >>= fun result ↦ next result.1 result.2) = _
  cases settle ⟨rest, t.line, b⟩ <;> rfl

theorem isSettled_stretchTokens (hrest : IsSettled rest) (stretches : List (Nat × List Char)) :
    IsSettled (stretchTokens stretches ++ rest) := by
  induction stretches with
  | nil => exact hrest
  | cons s others ih =>
    rw [stretchTokens_cons, List.append_assoc]
    exact isSettled_dataTokens ih s.1 s.2

theorem readsThrough_stretchTokens (hrest : IsSettled rest) (stretches : List (Nat × List Char)) :
    ReadsThrough awaited opened closers (stretchTokens stretches) (stretchStatements stretches)
      rest := by
  induction stretches with
  | nil => exact readsThrough_nil
  | cons s others ih =>
    exact (readsThrough_dataTokens (isSettled_stretchTokens hrest others) s.1 s.2).append ih

/-- A body in which something cannot be read after text is refused, with any fuel. -/
theorem exists_error_of_unreadable (stretches : List (Nat × List Char)) (line : Nat)
    (obstacle : Obstacle) (n l b : Nat) :
    ∃ failure, (settle ⟨stretchTokens stretches ++ [⟨line, .unreadable obstacle⟩], l, b⟩ >>=
      readBody n awaited opened closers) = .error failure := by
  induction stretches generalizing n l with
  | nil => exact ⟨_, rfl⟩
  | cons s others ih =>
    obtain ⟨at', text⟩ := s
    by_cases hempty : text.isEmpty
    · rw [stretchTokens_cons, show dataTokens at' text = [] from if_pos hempty]
      exact ih n l
    · rw [stretchTokens_cons, show dataTokens at' text = [⟨at', .data text⟩] from if_neg hempty]
      cases n with
      | zero => exact ⟨_, rfl⟩
      | succ n =>
        obtain ⟨failure, hfailure⟩ := ih n at'
        refine ⟨failure, ?_⟩
        change readBody (n + 1) awaited opened closers
          ⟨⟨at', .data text⟩ :: (stretchTokens others ++ _), l, b⟩ = _
        rw [readBody, bind_of_ok (show peek _ = .ok (some (.data text), _) from rfl)]
        dsimp only
        rw [advance_bind]
        change (settle _ >>= fun c ↦ readBody n awaited opened closers c >>= _) = _
        rw [← bind_assoc, hfailure]
        rfl

/-- A template in which something cannot be read after text is refused. -/
theorem readTemplate_of_unreadable {text : List Char} {stretches : List (Nat × List Char)}
    {line : Nat} {obstacle : Obstacle}
    (hscan : Token.scan text = stretchTokens stretches ++ [⟨line, .unreadable obstacle⟩]) :
    ∃ failure, readTemplate text = .error failure := by
  obtain ⟨failure, hfailure⟩ : ∃ failure, (settle ⟨Token.scan text, 1, 1⟩ >>=
      readBody (32 * ((Token.scan text).length + 2)) [] [] []) = .error failure := by
    rw [hscan]
    exact exists_error_of_unreadable stretches line obstacle _ 1 1
  refine ⟨failure, ?_⟩
  rw [readTemplate]
  change (settle _ >>= fun start ↦ readBody _ [] [] [] start >>=
    fun result : List Statement × Cursor ↦ pure result.1) = _
  rw [← bind_assoc, hfailure]
  rfl

end Reading

/-! ### Rendering -/

/-- The text of statements that have been read. -/
def renderRead (arguments : List (String × String)) (body : List Statement) :
    Outcome (List Char) := do
  let ready ← checkTemplate body
  let (rendering, _) ← (renderChecked arguments ready).run .empty
  rendering.text

section Rendering

variable {rest : List Statement}

theorem bodyExtends_textStatements (text : List Char) (rest : List Statement) :
    bodyExtends (textStatements text ++ rest) = bodyExtends rest := by
  unfold textStatements
  split <;> rfl

theorem ofTemplate_textStatements (text : List Char) (rest : List Statement) :
    Frame.ofTemplate (textStatements text ++ rest) = Frame.ofTemplate rest := by
  rw [Frame.ofTemplate, usesOfBody_textStatements, addBody_textStatements, Frame.ofTemplate]

theorem checkTemplate_textStatements (hrest : bodyExtends rest = false) (text : List Char) :
    checkTemplate (textStatements text ++ rest) =
      (checkTemplate rest).map (textStatements text ++ ·) := by
  rw [checkTemplate, bodyExtends_textStatements, hrest, ofTemplate_textStatements]
  change (checkBody _ (textStatements text ++ rest) ⟨false, none⟩ >>= _) = _
  rw [checkBody_textStatements rfl, checkTemplate, hrest]
  change _ = Except.map _ (checkBody _ rest ⟨false, none⟩ >>= _)
  cases checkBody _ rest ⟨false, none⟩ with
  | error failure => rfl
  | ok checked =>
    obtain ⟨ready, notes⟩ := checked
    cases hflaw : notes.flaw <;> simp [Except.map, bind, Except.bind, hflaw] <;> rfl

theorem renderChecked_textStatements (arguments : List (String × String)) (text : List Char)
    (rest : List Statement) (m : Memory) :
    renderChecked arguments (textStatements text ++ rest) m =
      (renderChecked arguments rest m).map fun rendered ↦
        (Rendering.append (some text) rendered.1, rendered.2) := by
  change renderBody ⟨arguments, [Frame.ofTemplate (textStatements text ++ rest)]⟩
    (textStatements text ++ rest) (Scope.fill ⟨arguments, []⟩ 0 _
      (Frame.ofTemplate (textStatements text ++ rest)).sources) = _
  rw [ofTemplate_textStatements, renderBody_textStatements]
  rfl

/-- Text before other statements is rendered before what these render. -/
theorem renderRead_textStatements (arguments : List (String × String))
    (hrest : bodyExtends rest = false) (text : List Char) :
    renderRead arguments (textStatements text ++ rest) =
      (renderRead arguments rest).map (text ++ ·) := by
  rw [renderRead, renderRead, checkTemplate_textStatements hrest]
  cases checkTemplate rest with
  | error failure => rfl
  | ok ready =>
    change (renderChecked arguments (textStatements text ++ ready) .empty >>= _) =
      Except.map _ (renderChecked arguments ready .empty >>= _)
    rw [renderChecked_textStatements]
    cases renderChecked arguments ready .empty with
    | error failure => rfl
    | ok rendered =>
      obtain ⟨rendering, m⟩ := rendered
      cases rendering <;> rfl

theorem bodyExtends_stretchStatements (stretches : List (Nat × List Char))
    (rest : List Statement) :
    bodyExtends (stretchStatements stretches ++ rest) = bodyExtends rest := by
  induction stretches with
  | nil => rfl
  | cons s others ih =>
    rw [stretchStatements_cons, List.append_assoc, bodyExtends_textStatements, ih]

theorem renderRead_stretchStatements (arguments : List (String × String))
    (hrest : bodyExtends rest = false) (stretches : List (Nat × List Char)) :
    renderRead arguments (stretchStatements stretches ++ rest) =
      (renderRead arguments rest).map (stretches.flatMap (·.2) ++ ·) := by
  induction stretches with
  | nil => cases hrendered : renderRead arguments rest <;> exact hrendered
  | cons s others ih =>
    have hothers : bodyExtends (stretchStatements others ++ rest) = false :=
      (bodyExtends_stretchStatements others rest).trans hrest
    rw [stretchStatements_cons, List.append_assoc, renderRead_textStatements arguments hothers, ih]
    cases renderRead arguments rest with
    | error failure => rfl
    | ok rendered => simp [Except.map]

/-- A placeholder without filters renders its argument. -/
theorem renderRead_placeholder {arguments : List (String × String)} {p : Placeholder} {v : String}
    (hfilters : p.filters = []) (hvalue : arguments.lookup p.name = some v) (newlines : Nat) :
    renderRead arguments (partStatements newlines [(p, [])]) = .ok v.toList := by
  have hnested : isTooNested [(p, ([] : List Char))] = false :=
    isTooNested_of_filters_eq_nil (by simpa using hfilters)
  have hhigh : isTooHigh [(p, ([] : List Char))] = false := by
    rw [← Bool.not_eq_true] at hnested ⊢
    exact fun hhigh ↦ hnested (isTooNested_of_isTooHigh hhigh)
  have hcheck := checkTemplate_statementsFrom newlines ⟨[], [(p, [])]⟩
  rw [hhigh, hnested, if_neg Bool.false_ne_true, if_neg Bool.false_ne_true] at hcheck
  obtain ⟨m, hrender⟩ := renderChecked_statementsFrom arguments newlines ⟨[], [(p, [])]⟩
  have hfill : Layout.fill arguments ⟨[], [(p, [])]⟩ = .ok v.toList := by
    simp [Layout.fill, fillPlaceholders, hvalue, Placeholder.filtered, hfilters, Except.map]
  rw [hfill] at hrender
  change renderRead arguments (Layout.statementsFrom newlines ⟨[], [(p, [])]⟩) = _
  rw [renderRead, hcheck]
  change (renderChecked arguments (Layout.statementsFrom newlines ⟨[], [(p, [])]⟩) .empty >>= _) = _
  rw [hrender]
  rfl

end Rendering

/-! ### Plain text and a placeholder -/

section Placeholder

variable {p : Placeholder} {text less : List Char} {arguments : List (String × String)} {v : String}

/-- What stands in a tag ends no comment. -/
theorem splitAtCommentEnd?_of_not_mem (h : '#' ∉ text) : splitAtCommentEnd? text = none := by
  induction text with
  | nil => rfl
  | cons c rest ih =>
    have hnone : readCommentEnd? (c :: rest) = none := by
      unfold readCommentEnd?
      split
      · rename_i heq
        exact absurd (by simp [heq]) h
      · rename_i heq
        exact absurd (by simp [heq]) h
      · rename_i heq
        exact absurd (by simp [heq]) h
      · rfl
    rw [splitAtCommentEnd?, hnone, ih fun hmem ↦ h (List.mem_cons_of_mem c hmem)]
    rfl

theorem splitAtCommentEnd?_unified (hfilters : p.filters = []) :
    splitAtCommentEnd? p.unified = none := by
  refine splitAtCommentEnd?_of_not_mem fun hmem ↦ ?_
  simp only [Placeholder.unified, Placeholder.inner, hfilters, List.flatMap_nil, List.nil_append,
    List.mem_append] at hmem
  rcases hmem with hopening | hname | hend
  · exact absurd hopening (by decide)
  · have hchar : ('#' != '#') = true :=
      of_isNameRest (p := fun c ↦ c != '#') (by decide +kernel) (isNameRest_of_mem p.plain hname)
    cases hchar
  · exact absurd hend (by decide)

/-- Plain text and a placeholder after it are a template, whose line ends are unified. -/
theorem expand_append_placeholder (h : IsPassive text) (p : Placeholder)
    (arguments : List (String × String)) :
    expand (text ++ p.written) arguments =
      readTemplate (unifyNewlines text ++ p.unified) >>= renderRead arguments := by
  have halone : Layout.isTagFree ⟨[], [(p, [])]⟩ := by simp [Layout.isTagFree_iff, isTagFree]
  have hwritten : unifyOpenings p.written = p.unified := by
    have hunified := unifyOpenings_written halone
    simpa [Layout.written, Layout.unified, writtenParts, unifiedParts] using hunified
  have hunified : unifyNewlines (text ++ p.unified) = unifyNewlines text ++ p.unified := by
    rw [unifyNewlines_append (by simp [Placeholder.unified, printOpening]),
      unifyNewlines_of_not_mem fun hmem ↦ (Placeholder.ne_of_mem_unified hmem).1 rfl]
  have hdetached : IsDetached p.written := isDetached_braces _
  have htag : hasTag (text ++ p.unified) := hasTag_append_printOpening text p.inner
  rw [expand, unifyOpenings_append_of_isPassive h hdetached, hwritten, if_pos htag,
    renderTemplate, hunified]
  rfl

/-- If what a text and a placeholder leave of the text can be filled in, it comes before the
argument. -/
theorem exists_sublist_of_leaves (hfilters : p.filters = [])
    (hvalue : arguments.lookup p.name = some v) {newlines : Nat} {out : List Char}
    (hleaves : Leaves p newlines less (Token.scan text))
    (hout : readTemplate text >>= renderRead arguments = .ok out) :
    ∃ kept, kept.Sublist less ∧ out = kept ++ v.toList := by
  obtain ⟨stretches, tail, hscan, hless, htail⟩ := hleaves
  rcases htail with rfl | ⟨line, rfl⟩
  · refine ⟨stretches.flatMap (·.2), hless, ?_⟩
    have hread : readTemplate text =
        .ok (stretchStatements stretches ++ partStatements newlines [(p, [])]) := by
      have hsettled := isSettled_partTokens newlines [(p, [])] isSettled_nil
      rw [List.append_nil] at hsettled
      have hpart := (readsThrough_partTokens isSettled_nil newlines [(p, [])]).reads
        (reads_nil : Reads [] [] [] [] [] [])
      rw [List.append_nil, List.append_nil] at hpart
      refine readTemplate_of_reads ?_ ?_
      · rw [hscan]
        exact isSettled_stretchTokens hsettled stretches
      · rw [hscan]
        exact (readsThrough_stretchTokens hsettled stretches).reads hpart
    rw [hread] at hout
    change renderRead arguments _ = .ok out at hout
    have hextends : bodyExtends (partStatements newlines [(p, [])]) = false :=
      bodyExtends_statementsFrom newlines ⟨[], [(p, [])]⟩
    rw [renderRead_stretchStatements arguments hextends,
      renderRead_placeholder hfilters hvalue] at hout
    exact (Except.ok.inj hout).symm
  · obtain ⟨failure, hfailure⟩ := readTemplate_of_unreadable hscan
    rw [hfailure] at hout
    cases hout

/-- Plain text without tags and comments comes before the argument with its line ends unified. -/
theorem expand_append_of_not_isInfix (h : IsPassive text) (hcomment : ¬ commentOpening <:+: text)
    (hfilters : p.filters = []) (hvalue : arguments.lookup p.name = some v) :
    expand (text ++ p.written) arguments = .ok (unifyNewlines text ++ v.toList) := by
  have htags : Layout.isTagFree ⟨text, [(p, [])]⟩ := by
    rw [Layout.isTagFree_iff]
    exact ⟨(isTagFree_iff_of_isPassive h).mpr hcomment, by simp [isTagFree]⟩
  have hnested : isTooNested [(p, ([] : List Char))] = false :=
    isTooNested_of_filters_eq_nil (by simpa using hfilters)
  have hexpand := expand_written_of_not_isTooNested htags (List.cons_ne_nil _ _) hnested arguments
  have hwritten : Layout.written ⟨text, [(p, [])]⟩ = text ++ p.written := by
    simp [Layout.written, writtenParts]
  rw [hwritten] at hexpand
  rw [hexpand]
  simp [Layout.fill, Layout.mapText, fillPlaceholders, hvalue, Placeholder.filtered, hfilters,
    Except.map, unifyNewlines]

/-- What plain text and a placeholder make is some of the characters of the text, and then the
argument; and not all of them if the text opens a comment. -/
theorem exists_sublist_of_expand (h : IsPassive text) (hfilters : p.filters = [])
    (hvalue : arguments.lookup p.name = some v) {out : List Char}
    (hout : expand (text ++ p.written) arguments = .ok out) :
    ∃ kept, kept.Sublist (unifyNewlines text) ∧ out = kept ++ v.toList ∧
      (commentOpening <:+: unifyNewlines text → kept.length < (unifyNewlines text).length) := by
  have hp := splitAtCommentEnd?_unified hfilters
  have hpassive := isPassive_unifyNewlines h
  rw [expand_append_placeholder h] at hout
  by_cases hcomment : commentOpening <:+: unifyNewlines text
  · obtain ⟨less, hless, hshorter, hleaves⟩ : ∃ less, less.Sublist (unifyNewlines text) ∧
        less.length < (unifyNewlines text).length ∧
        Leaves p _ less (Token.scan (unifyNewlines text ++ p.unified)) :=
      exists_leaves_of_isPassive hp hpassive hcomment _ _ true
    obtain ⟨kept, hkept, heq⟩ := exists_sublist_of_leaves hfilters hvalue hleaves hout
    exact ⟨kept, hkept.trans hless, heq, fun _ ↦ hkept.length_le.trans_lt hshorter⟩
  · have hleaves :
        Leaves p _ (unifyNewlines text) (Token.scan (unifyNewlines text ++ p.unified)) :=
      leaves_of_isPassive hp hpassive _ _ true
    obtain ⟨kept, hkept, heq⟩ := exists_sublist_of_leaves hfilters hvalue hleaves hout
    exact ⟨kept, hkept, heq, fun hopened ↦ absurd hopened hcomment⟩

end Placeholder

end Scriptorium.Template

namespace Scriptorium.Arguments

open Template

variable {t v : String} {p : Placeholder} {a : Arguments}

/-- Plain text alone stays, whatever it holds. Beside a placeholder without filters it stays exactly
if it opens no comment and has no carriage return. -/
theorem fill_append_placeholder_iff (h : IsPassive t.toList) (hfilters : p.filters = [])
    (hvalue : a.get? p.name = some v) :
    a.fill t = .ok t ∧
      (a.fill (t ++ String.ofList p.written) = .ok (t ++ v) ↔
        ¬ commentOpening <:+: t.toList ∧ '\r' ∉ t.toList) := by
  have hcode : (t ++ String.ofList p.written).toList = t.toList ++ p.written := by simp
  have hopenings : unifyOpenings t.toList = t.toList := by
    have happend := unifyOpenings_append_of_isPassive h isDetached_nil
    have hnil : unifyOpenings [] = [] := unifyOpenings_of_hasTag (by rw [unifyOpenings]; rfl)
    rwa [hnil, List.append_nil] at happend
  refine ⟨fill_of_hasTag (by rw [hopenings]; exact hasTag_of_isPassive h) a, ?_⟩
  rw [fill, hcode]
  constructor
  · intro hfill
    cases hout : expand (t.toList ++ p.written) a.entries with
    | error failure =>
      rw [hout] at hfill
      cases hfill
    | ok out =>
      rw [hout] at hfill
      obtain ⟨kept, hkept, rfl, hless⟩ := exists_sublist_of_expand h hfilters hvalue hout
      have heq : kept = t.toList := by
        have htexts := congrArg String.toList (Except.ok.inj hfill)
        simpa using htexts
      subst heq
      have hreturn : '\r' ∉ t.toList := fun hmem ↦ not_mem_unifyNewlines _ (hkept.subset hmem)
      rw [Text.unifyNewlines_of_not_mem hreturn] at hless
      exact ⟨fun hcomment ↦ (hless hcomment).ne rfl, hreturn⟩
  · rintro ⟨hcomment, hreturn⟩
    rw [expand_append_of_not_isInfix h hcomment hfilters hvalue,
      Text.unifyNewlines_of_not_mem hreturn]
    simp

/-- One argument. -/
def oneArgument : Arguments := ⟨[("a", "v")], List.nodup_singleton "a"⟩

/-- The length of a variable opens no comment. -/
theorem fill_append_placeholder_length :
    IsPassive "echo $\x7b#x\x7d ".toList ∧
      oneArgument.fill "echo $\x7b#x\x7d " = .ok "echo $\x7b#x\x7d " ∧
      oneArgument.fill ("echo $\x7b#x\x7d " ++ "\x7b\x7b $a \x7d\x7d") =
        .ok ("echo $\x7b#x\x7d " ++ "v") := by
  have hpassive : IsPassive "echo $\x7b#x\x7d ".toList :=
    isPassive_of_not_isInfix (by decide +kernel) (by decide +kernel)
  have hfill := fill_append_placeholder_iff (p := { blanks := [' '], name := "a", filters := [] })
    hpassive rfl (show oneArgument.get? "a" = some "v" from rfl)
  exact ⟨hpassive, hfill.1, hfill.2.mpr ⟨by decide +kernel, by decide +kernel⟩⟩

/-- A comment stays in plain text alone, and is left out beside a placeholder. -/
theorem fill_append_placeholder_comment :
    IsPassive "echo \x7b## b ##\x7d".toList ∧
      oneArgument.fill "echo \x7b## b ##\x7d" = .ok "echo \x7b## b ##\x7d" ∧
      oneArgument.fill ("echo \x7b## b ##\x7d" ++ "\x7b\x7b $a \x7d\x7d") = .ok "echo v" ∧
      oneArgument.fill ("echo \x7b## b ##\x7d" ++ "\x7b\x7b $a \x7d\x7d") ≠
        .ok ("echo \x7b## b ##\x7d" ++ "v") := by
  have halone : expand "echo \x7b## b ##\x7d".toList [("a", "v")] =
      .ok "echo \x7b## b ##\x7d".toList := by
    decide +kernel
  have hbeside : expand ("echo \x7b## b ##\x7d" ++ "\x7b\x7b $a \x7d\x7d").toList [("a", "v")] =
      .ok "echo v".toList := by
    decide +kernel
  have hfill : oneArgument.fill ("echo \x7b## b ##\x7d" ++ "\x7b\x7b $a \x7d\x7d") =
      .ok "echo v" := by
    rw [fill, show oneArgument.entries = [("a", "v")] from rfl, hbeside]
    rfl
  refine ⟨isPassive_of_not_isInfix (by decide +kernel) (by decide +kernel), ?_, hfill, ?_⟩
  · rw [fill, show oneArgument.entries = [("a", "v")] from rfl, halone]
    rfl
  · rw [hfill]
    intro heq
    exact absurd (Except.ok.inj heq) (by decide)

end Scriptorium.Arguments
