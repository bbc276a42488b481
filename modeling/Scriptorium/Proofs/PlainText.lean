import Scriptorium.Proofs.Placeholder.Outline

/-!
# Plain text, alone and beside a placeholder

Text that opens no statement and no print tag (`IsPassive`) is no template, so it stays as it is
(`hasTag_of_isPassive`). Beside a placeholder it is part of a template, and scanned like all of it.
What can then happen to it is that it opens a comment: the scan leaves it out, up to its end, and
what is left of the text is shorter than it was; or the comment has no end, and the template cannot
be read (`exists_leaves_of_isPassive`). A text that opens none is left whole.
-/

set_option autoImplicit false
set_option relaxedAutoImplicit false

namespace Scriptorium.Template

open Text

/-! ### Text without statements and print tags -/

/-- Whether a text opens no statement and no print tag. It may open comments. -/
structure IsPassive (text : List Char) : Prop where
  print : ∀ blanks : List Char, (∀ c ∈ blanks, isBlank c = true) →
    ¬ ('\x7b' :: '\x7b' :: (blanks ++ ['$'])) <:+: text
  statement : ¬ ['\x7b', '%'] <:+: text

/-- The opening of a comment. -/
def commentOpening : List Char := ['\x7b', '#', '#']

variable {text after : List Char}

theorem IsPassive.of_infix {part : List Char} (h : IsPassive text) (hpart : part <:+: text) :
    IsPassive part where
  print blanks hblanks hopening := h.print blanks hblanks (hopening.trans hpart)
  statement hopening := h.statement (hopening.trans hpart)

theorem isPassive_of_not_isInfix (hbraces : ¬ ['\x7b', '\x7b'] <:+: text)
    (hstatement : ¬ ['\x7b', '%'] <:+: text) : IsPassive text where
  print _ _ hopening :=
    hbraces (List.IsInfix.trans (List.prefix_append ['\x7b', '\x7b'] _).isInfix hopening)
  statement := hstatement

/-- What begins with the opening of a print tag has blanks and a dollar sign after two braces. -/
theorem exists_of_afterPrintOpening? (h : afterPrintOpening? text = some after) :
    ∃ blanks, (∀ c ∈ blanks, isBlank c = true) ∧
      text = '\x7b' :: '\x7b' :: (blanks ++ '$' :: after) := by
  unfold afterPrintOpening? at h
  split at h
  · rename_i rest
    split at h
    · rename_i more hmore
      obtain rfl := Option.some.inj h
      refine ⟨rest.takeWhile isBlank, fun c hc ↦ List.mem_takeWhile_imp hc, ?_⟩
      rw [← hmore, trimLeft, List.takeWhile_append_dropWhile]
    · cases h
  · cases h

theorem IsPassive.afterPrintOpening?_eq_none (h : IsPassive text) :
    afterPrintOpening? text = none := by
  cases hopening : afterPrintOpening? text with
  | none => rfl
  | some after =>
    obtain ⟨blanks, hblanks, rfl⟩ := exists_of_afterPrintOpening? hopening
    refine absurd ?_ (h.print blanks hblanks)
    exact List.IsPrefix.isInfix ⟨after, by simp⟩

theorem IsPassive.isPrefixOf_statement (h : IsPassive text) :
    ['\x7b', '%'].isPrefixOf text = false := by
  rw [← Bool.not_eq_true, List.isPrefixOf_iff_prefix]
  exact fun hprefix ↦ h.statement hprefix.isInfix

/-- The only tag that such a text can begin with is a comment. -/
theorem IsPassive.beginsTag_iff (h : IsPassive text) :
    beginsTag text = true ↔ ∃ rest, text = commentOpening ++ rest := by
  rw [beginsTag, h.isPrefixOf_statement, h.afterPrintOpening?_eq_none]
  constructor
  · intro hbegins
    obtain ⟨rest, hrest⟩ : commentOpening <+: text := by simpa [commentOpening] using hbegins
    exact ⟨rest, hrest.symm⟩
  · rintro ⟨rest, rfl⟩
    rfl

theorem isTagFree_iff_of_isPassive (h : IsPassive text) :
    isTagFree text = true ↔ ¬ commentOpening <:+: text := by
  induction text with
  | nil => simp [isTagFree, commentOpening]
  | cons c rest ih =>
    have hrest := ih (h.of_infix (List.suffix_cons c rest).isInfix)
    have hprefix : commentOpening <+: c :: rest ↔ beginsTag (c :: rest) = true :=
      (exists_congr fun _ ↦ eq_comm).trans h.beginsTag_iff.symm
    rw [isTagFree, Bool.and_eq_true, Bool.not_eq_true', ← Bool.not_eq_true, hrest,
      List.infix_cons_iff, not_or, hprefix]

/-- Such a text is no template. -/
theorem hasTag_of_isPassive (h : IsPassive text) : hasTag text = false := by
  induction text with
  | nil => rfl
  | cons c rest ih =>
    have hprint : printOpening.isPrefixOf (c :: rest) = false := by
      rw [← Bool.not_eq_true, List.isPrefixOf_iff_prefix]
      exact fun hprefix ↦ h.print [' '] (List.forall_mem_singleton.mpr rfl) hprefix.isInfix
    rw [hasTag, hprint, h.isPrefixOf_statement, ih (h.of_infix (List.suffix_cons c rest).isInfix)]
    rfl

/-- No print tag is opened where such a text goes on with none. -/
theorem unifyOpenings_append_of_isPassive (h : IsPassive text) (hafter : IsDetached after) :
    unifyOpenings (text ++ after) = text ++ unifyOpenings after := by
  induction text with
  | nil => rfl
  | cons c rest ih =>
    have hnone : afterPrintOpening? (c :: (rest ++ after)) = none := by
      cases hbegins : beginsTag (c :: rest) with
      | false => exact afterPrintOpening?_of_beginsTag (beginsTag_append hbegins hafter)
      | true =>
        obtain ⟨more, hmore⟩ := h.beginsTag_iff.mp hbegins
        rw [← List.cons_append, hmore]
        rfl
    rw [List.cons_append, unifyOpenings_of_none hnone,
      ih (h.of_infix (List.suffix_cons c rest).isInfix), List.cons_append]

/-! ### Line ends -/

theorem not_mem_unifyNewlines (text : List Char) : '\r' ∉ unifyNewlines text := by
  fun_induction unifyNewlines text with
  | case1 => exact List.not_mem_nil
  | case2 rest ih => simpa using ih
  | case3 rest _ ih => simpa using ih
  | case4 c rest _ hc ih => simpa [eq_comm] using ⟨hc, ih⟩

/-- What is put before such a text opens no tag if it does not begin one. -/
theorem isPassive_cons {c : Char} {rest : List Char}
    (hprint : afterPrintOpening? (c :: rest) = none)
    (hstatement : ¬ ['\x7b', '%'] <+: c :: rest) (hrest : IsPassive rest) :
    IsPassive (c :: rest) where
  print blanks hblanks hopening := by
    rcases List.infix_cons_iff.mp hopening with ⟨after, hafter⟩ | hinner
    · have hsome := afterPrintOpening?_blanks hblanks after
      rw [← hafter, List.cons_append, List.cons_append, List.append_assoc] at hprint
      cases hprint.symm.trans hsome
    · exact hrest.print blanks hblanks hinner
  statement hopening := (List.infix_cons_iff.mp hopening).elim hstatement hrest.statement

/-- Unifying line ends opens no tag. -/
theorem isPassive_unifyNewlines (h : IsPassive text) : IsPassive (unifyNewlines text) := by
  have hfeed : ∀ rest, IsPassive rest → IsPassive ('\n' :: rest) := fun rest hrest ↦
    isPassive_cons (afterPrintOpening?_of_ne (by decide) rest) (by simp) hrest
  fun_induction unifyNewlines text with
  | case1 => exact h
  | case2 rest ih =>
    exact hfeed _ (ih (h.of_infix ⟨['\r', '\n'], [], by simp⟩))
  | case3 rest _ ih =>
    exact hfeed _ (ih (h.of_infix (List.suffix_cons _ rest).isInfix))
  | case4 c rest _ hc ih =>
    have hrest := ih (h.of_infix (List.suffix_cons c rest).isInfix)
    cases hbegins : beginsTag (c :: rest) with
    | false =>
      have hunified := beginsTag_unifyNewlines hc hbegins
      refine isPassive_cons (afterPrintOpening?_of_beginsTag hunified) ?_ hrest
      intro hprefix
      rw [beginsTag, List.isPrefixOf_iff_prefix.mpr hprefix] at hunified
      cases hunified
    | true =>
      obtain ⟨more, hmore⟩ := h.beginsTag_iff.mp hbegins
      obtain ⟨rfl, rfl⟩ := List.cons.inj hmore
      exact isPassive_cons rfl (by simp [unifyNewlines]) hrest

/-! ### Comments -/

/-- A text that opens a comment is divided at its first one. -/
theorem splitAtOpening_of_isPassive (h : IsPassive text) (hcomment : commentOpening <:+: text)
    (hafter : IsDetached after) :
    ∃ before rest, text = before ++ (commentOpening ++ rest) ∧
      splitAtOpening (text ++ after) =
        (before, some (.comment, readSign (rest ++ after))) := by
  induction text with
  | nil => exact absurd hcomment (by decide)
  | cons c rest ih =>
    cases hbegins : beginsTag (c :: rest) with
    | true =>
      obtain ⟨more, hmore⟩ := h.beginsTag_iff.mp hbegins
      refine ⟨[], more, hmore, ?_⟩
      rw [hmore]
      rfl
    | false =>
      have hnone := readOpening?_of_beginsTag (beginsTag_append hbegins hafter)
      have hrest : commentOpening <:+: rest := by
        refine (List.infix_cons_iff.mp hcomment).resolve_left fun ⟨more, hmore⟩ ↦ ?_
        cases hbegins.symm.trans (h.beginsTag_iff.mpr ⟨more, hmore.symm⟩)
      obtain ⟨before, more, heq, hsplit⟩ :=
        ih (h.of_infix (List.suffix_cons c rest).isInfix) hrest
      refine ⟨c :: before, more, by rw [heq]; rfl, ?_⟩
      rw [List.cons_append] at hnone ⊢
      simp only [splitAtOpening, hnone, hsplit]

/-- A sign is not read across a brace. -/
theorem exists_readSign_append (rest more : List Char) :
    ∃ sign inner, readSign (rest ++ '\x7b' :: more) = (sign, inner ++ '\x7b' :: more) ∧
      inner <:+ rest := by
  cases rest with
  | nil => exact ⟨.plain, [], rfl, List.suffix_refl _⟩
  | cons c rest =>
    by_cases hminus : c = '-'
    · subst hminus
      exact ⟨.strip, rest, rfl, List.suffix_cons _ _⟩
    by_cases hplus : c = '+'
    · subst hplus
      exact ⟨.keep, rest, rfl, List.suffix_cons _ _⟩
    · refine ⟨.plain, c :: rest, ?_, List.suffix_refl _⟩
      rw [List.cons_append, readSign.eq_3]
      · exact fun _ heq ↦ hminus (List.cons.inj heq).1
      · exact fun _ heq ↦ hplus (List.cons.inj heq).1

/-- What begins with signs other than a brace begins with them before the first brace. -/
theorem exists_of_append_eq_append {mark rest more : List Char} (hmark : '\x7b' ∉ mark)
    (h : text ++ '\x7b' :: more = mark ++ rest) :
    ∃ left, text = mark ++ left ∧ rest = left ++ '\x7b' :: more := by
  rcases List.append_eq_append_iff.mp h with ⟨behind, hbehind, hmore⟩ | ⟨left, hleft, hrest⟩
  · cases behind with
    | nil => exact ⟨[], by simpa using hbehind.symm, by simpa using hmore.symm⟩
    | cons c tail =>
      obtain ⟨rfl, -⟩ := List.cons.inj hmore
      exact absurd (by simp [hbehind]) hmark
  · exact ⟨left, hleft, hrest⟩

theorem trimLeft_append_brace (left more : List Char) :
    trimLeft (left ++ '\x7b' :: more) = trimLeft left ++ '\x7b' :: more := by
  rw [trimLeft_append]
  split
  · rename_i hnil
    rw [hnil]
    rfl
  · rfl

/-- The end of a comment leaves a brace behind it, and what stands before that. -/
theorem exists_of_readCommentEnd? {more : List Char}
    (h : readCommentEnd? (text ++ '\x7b' :: more) = some after) :
    ∃ left, after = left ++ '\x7b' :: more ∧ left <:+ text := by
  unfold readCommentEnd? at h
  split at h
  · rename_i rest heq
    obtain rfl := Option.some.inj h
    have hmark : text ++ '\x7b' :: more = ['+', '#', '#', '\x7d'] ++ rest := heq
    obtain ⟨left, rfl, rfl⟩ := exists_of_append_eq_append (by decide) hmark
    exact ⟨left, rfl, List.suffix_append _ _⟩
  · rename_i rest heq
    obtain rfl := Option.some.inj h
    have hmark : text ++ '\x7b' :: more = ['-', '#', '#', '\x7d'] ++ rest := heq
    obtain ⟨left, rfl, rfl⟩ := exists_of_append_eq_append (by decide) hmark
    exact ⟨trimLeft left, trimLeft_append_brace left more,
      (List.dropWhile_suffix isBlank).trans (List.suffix_append _ _)⟩
  · rename_i rest heq
    obtain rfl := Option.some.inj h
    have hmark : text ++ '\x7b' :: more = ['#', '#', '\x7d'] ++ rest := heq
    obtain ⟨left, rfl, rfl⟩ := exists_of_append_eq_append (by decide) hmark
    cases left with
    | nil => exact ⟨[], rfl, List.nil_suffix⟩
    | cons c left =>
      by_cases hfeed : c = '\n'
      · subst hfeed
        exact ⟨left, rfl, (List.suffix_cons _ _).trans (List.suffix_append _ _)⟩
      · refine ⟨c :: left, ?_, List.suffix_append _ _⟩
        rw [List.cons_append, dropNewline.eq_2 _ fun _ heq ↦ hfeed (List.cons.inj heq).1]
  · cases h

/-- So does what comes behind a comment, if no comment ends behind the brace. -/
theorem exists_of_splitAtCommentEnd? {more body : List Char}
    (hmore : splitAtCommentEnd? ('\x7b' :: more) = none)
    (h : splitAtCommentEnd? (text ++ '\x7b' :: more) = some (body, after)) :
    ∃ left, after = left ++ '\x7b' :: more ∧ left <:+ text := by
  induction text generalizing body with
  | nil => cases hmore.symm.trans h
  | cons c rest ih =>
    rw [List.cons_append, splitAtCommentEnd?] at h
    split at h
    · rename_i found hfound
      obtain ⟨-, rfl⟩ := Prod.mk.inj (Option.some.inj h)
      rw [← List.cons_append] at hfound
      exact exists_of_readCommentEnd? hfound
    · obtain ⟨⟨inner, found⟩, hinner, heq⟩ := Option.map_eq_some_iff.mp h
      obtain ⟨-, rfl⟩ := Prod.mk.inj heq
      obtain ⟨left, rfl, hleft⟩ := ih hinner
      exact ⟨left, rfl, hleft.trans (List.suffix_cons _ _)⟩

/-- What is left of the text before a tag is its beginning. -/
theorem textBefore_isPrefix (startsLine : Bool) (kind : TagKind) (sign : Sign) (text : List Char) :
    textBefore startsLine kind sign text <+: text := by
  have htrim : trimRight text <+: text := trimRightWhile_prefix isBlank text
  have hindent : withoutIndent startsLine text <+: text := by
    simp only [withoutIndent]
    split
    · exact List.take_prefix _ _
    · exact List.prefix_refl _
  unfold textBefore
  split
  · exact htrim
  · exact List.prefix_refl _
  · exact hindent
  · exact List.prefix_refl _

/-! ### The scan -/

/-- A comment leaves no token but those of the text before it and behind it. -/
theorem scanFrom_text_comment {before rest : List Char} {sign : Sign}
    (h : splitAtOpening text = (before, some (.comment, sign, rest))) (size newlines : Nat)
    (startsLine : Bool) :
    Token.scanFrom size newlines (.text startsLine) text =
      dataTokens (lineOf newlines text) (textBefore startsLine .comment sign before) ++
        match splitAtCommentEnd? rest with
        | some (_, after) =>
          Token.scanFrom size newlines (.text (endsLine rest after)) after
        | none =>
          if rest.isEmpty then []
          else [⟨lineOf newlines rest, .unreadable (.malformed .unclosedComment)⟩] := by
  conv_lhs => rw [Token.scanFrom]
  split
  · rename_i hfound
    cases h.symm.trans hfound
  · rename_i hfound
    obtain ⟨rfl, htag⟩ := Prod.mk.inj (h.symm.trans hfound)
    obtain ⟨rfl, hrest⟩ := Prod.mk.inj (Option.some.inj htag)
    obtain ⟨rfl, rfl⟩ := Prod.mk.inj hrest
    dsimp only
    split
    · rename_i hend
      rw [hend]
      rfl
    · rename_i hend
      rw [hend]
      rfl

/-- The tokens of stretches of text, each with its line. -/
def stretchTokens (stretches : List (Nat × List Char)) : List Token :=
  stretches.flatMap fun s ↦ dataTokens s.1 s.2

/-- Whether tokens are those of some of the characters of a text, in their order, and behind them
those of a placeholder or of a comment that has no end. -/
def Leaves (p : Placeholder) (newlines : Nat) (text : List Char) (tokens : List Token) : Prop :=
  ∃ stretches tail, tokens = stretchTokens stretches ++ tail ∧
    (stretches.flatMap (·.2)).Sublist text ∧
    (tail = partTokens newlines [(p, [])] ∨
      ∃ line, tail = [⟨line, .unreadable (.malformed .unclosedComment)⟩])

section Leaves

variable {p : Placeholder} {newlines : Nat} {tokens : List Token}

theorem leaves_placeholder : Leaves p newlines [] (partTokens newlines [(p, [])]) :=
  ⟨[], _, rfl, List.Sublist.refl [], .inl rfl⟩

theorem leaves_unclosed (line : Nat) :
    Leaves p newlines [] [⟨line, .unreadable (.malformed .unclosedComment)⟩] :=
  ⟨[], _, rfl, List.Sublist.refl [], .inr ⟨line, rfl⟩⟩

/-- A stretch before the tokens is so much more text. -/
theorem Leaves.cons {stretch before : List Char} (h : Leaves p newlines text tokens)
    (hstretch : stretch.Sublist before) (line : Nat) :
    Leaves p newlines (before ++ text) (dataTokens line stretch ++ tokens) := by
  obtain ⟨stretches, tail, rfl, htext, htail⟩ := h
  refine ⟨(line, stretch) :: stretches, tail, by simp [stretchTokens], ?_, htail⟩
  rw [List.flatMap_cons]
  exact hstretch.append htext

theorem Leaves.mono {longer : List Char} (h : Leaves p newlines text tokens)
    (hlonger : text.Sublist longer) : Leaves p newlines longer tokens := by
  obtain ⟨stretches, tail, htokens, htext, htail⟩ := h
  exact ⟨stretches, tail, htokens, htext.trans hlonger, htail⟩

/-- The text before a placeholder is left whole if no tag begins in it. -/
theorem leaves_of_isTagFree (h : isTagFree text) (size newlines : Nat) (startsLine : Bool) :
    Leaves p newlines text
      (Token.scanFrom size newlines (.text startsLine) (text ++ p.unified)) := by
  have hparts : ∀ part ∈ [(p, ([] : List Char))], isTagFree part.2 := by simp [isTagFree]
  have hline : ([] : List Char) ≠ [] → atLineStart startsLine (text ++ unifiedParts [(p, [])]) :=
    fun hsome ↦ absurd rfl hsome
  have hscan := scanFrom_unifiedParts h hparts isDetached_nil resumes_nil size newlines hline
  have hunified : unifiedParts [(p, [])] ++ [] = p.unified := by simp [unifiedParts]
  rw [hunified, scanFrom_nil, List.append_nil] at hscan
  rw [hscan]
  exact (leaves_placeholder.cons (List.Sublist.refl text) _).mono (by simp)

/-- A comment leaves less than the text that it is opened in, if what stands behind it leaves no
more than itself. -/
theorem exists_leaves_of_comment (hp : splitAtCommentEnd? p.unified = none) (h : IsPassive text)
    (hcomment : commentOpening <:+: text) {newlines : Nat} (size : Nat) (startsLine : Bool)
    (hrest : ∀ left, IsPassive left → left.length < text.length → ∀ starts,
      Leaves p newlines left
        (Token.scanFrom size newlines (.text starts) (left ++ p.unified))) :
    ∃ less, less.Sublist text ∧ less.length < text.length ∧ Leaves p newlines less
      (Token.scanFrom size newlines (.text startsLine) (text ++ p.unified)) := by
  have hdetached : IsDetached p.unified := isDetached_braces _
  obtain ⟨before, rest, heq, hsplit⟩ := splitAtOpening_of_isPassive h hcomment hdetached
  obtain ⟨sign, inner, hsign, hinner⟩ := exists_readSign_append rest (p.unified.drop 1)
  change readSign (rest ++ p.unified) = (sign, inner ++ p.unified) at hsign
  rw [hsign] at hsplit
  have hlength : text.length = before.length + (3 + rest.length) := by
    rw [heq, List.length_append, List.length_append]
    rfl
  have hbehind : rest <:+ commentOpening ++ rest := List.suffix_append _ _
  have hkept := (textBefore_isPrefix startsLine .comment sign before).sublist
  rw [scanFrom_text_comment hsplit]
  cases hend : splitAtCommentEnd? (inner ++ p.unified) with
  | none =>
    have hsome : (inner ++ p.unified).isEmpty = false := by
      simp [Placeholder.unified, printOpening]
    dsimp only
    rw [hsome, if_neg Bool.false_ne_true]
    refine ⟨before ++ [], ?_, ?_, (leaves_unclosed _).cons hkept _⟩
    · rw [heq]
      exact (List.Sublist.refl before).append (List.nil_sublist _)
    · rw [List.append_nil]
      omega
  | some found =>
    obtain ⟨body, after⟩ := found
    obtain ⟨left, hleft, hsuffix⟩ := exists_of_splitAtCommentEnd? hp hend
    change after = left ++ p.unified at hleft
    subst hleft
    have hshorter := (hsuffix.trans hinner).length_le
    have hleft := (hsuffix.trans hinner).trans hbehind
    have hpassive : IsPassive left :=
      h.of_infix (heq ▸ (hleft.trans (List.suffix_append before _)).isInfix)
    refine ⟨before ++ left, ?_, ?_, (hrest left hpassive (by omega) _).cons hkept _⟩
    · rw [heq]
      exact (List.Sublist.refl before).append hleft.sublist
    · rw [List.length_append]
      omega

/-- A text that opens no statement and no print tag leaves no more than itself. -/
theorem leaves_of_isPassive (hp : splitAtCommentEnd? p.unified = none) (h : IsPassive text)
    (size newlines : Nat) (startsLine : Bool) :
    Leaves p newlines text
      (Token.scanFrom size newlines (.text startsLine) (text ++ p.unified)) := by
  induction hlength : text.length using Nat.strong_induction_on generalizing text startsLine with
  | _ length ih =>
    subst hlength
    by_cases hcomment : commentOpening <:+: text
    · obtain ⟨less, hless, -, hleaves⟩ := exists_leaves_of_comment hp h hcomment size startsLine
        fun left hleft hshorter starts ↦ ih left.length hshorter hleft starts rfl
      exact hleaves.mono hless
    · exact leaves_of_isTagFree ((isTagFree_iff_of_isPassive h).mpr hcomment) size newlines
        startsLine

/-- It leaves less if it opens a comment. -/
theorem exists_leaves_of_isPassive (hp : splitAtCommentEnd? p.unified = none) (h : IsPassive text)
    (hcomment : commentOpening <:+: text) (size newlines : Nat) (startsLine : Bool) :
    ∃ less, less.Sublist text ∧ less.length < text.length ∧ Leaves p newlines less
      (Token.scanFrom size newlines (.text startsLine) (text ++ p.unified)) :=
  exists_leaves_of_comment hp h hcomment size startsLine fun _ hleft _ starts ↦
    leaves_of_isPassive hp hleft size newlines starts

end Leaves

end Scriptorium.Template
