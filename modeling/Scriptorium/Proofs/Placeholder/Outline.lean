import Scriptorium.Proofs.Placeholder.Fill

/-!
# Outlines of plain code

Code is plain if it is no template at all, or if its only tags are placeholders without filters
(`IsPlain`). Plain code has an outline: `Piece`s that are text or stand for an argument, so that for
all arguments the code can be filled in exactly if the arguments of the pieces are given, and is
then the pieces one after the other, each argument as it is (`exists_outlines`). The text of a
template has its line ends unified; an argument never has.
-/

set_option autoImplicit false
set_option relaxedAutoImplicit false

namespace Scriptorium

open Template Text

/-- A piece of code: text, or the place of an argument. -/
inductive Piece where
  | text (content : List Char)
  | argument (name : String)
  deriving DecidableEq

namespace Piece

/-- A piece with an argument in its place. -/
def fill (a : Arguments) : Piece → List Char
  | text content => content
  | argument name => ((a.get? name).getD "").toList

end Piece

/-- Pieces that say what becomes of code: it can be filled in exactly if the arguments that the
pieces stand for are given, and is then the pieces one after the other. -/
structure Outlines (pieces : List Piece) (code : String) : Prop where
  given : ∀ {a : Arguments} {text : String}, a.fill code = .ok text →
    ∀ name, .argument name ∈ pieces → name ∈ a.names
  filled : ∀ a : Arguments, (∀ name, .argument name ∈ pieces → name ∈ a.names) →
    a.fill code = .ok (String.ofList (pieces.flatMap (Piece.fill a)))

namespace Template

/-- Code that is no template, or whose only tags are placeholders without filters. -/
inductive IsPlain (code : List Char) : Prop
  | text (h : hasTag (unifyOpenings code) = false)
  | layout (layout : Layout) (hwritten : layout.written = code) (htags : layout.isTagFree)
      (hfilters : ∀ part ∈ layout.parts, part.1.filters = [])

/-- Openings with one blank stay if the text is no template, for there is none in it. -/
theorem unifyOpenings_of_hasTag {text : List Char} (h : hasTag (unifyOpenings text) = false) :
    unifyOpenings text = text := by
  fun_induction unifyOpenings text with
  | case1 text after hafter ih =>
    exact absurd (hasTag_append_printOpening [] (unifyOpenings after))
      (by rw [List.nil_append, h]; decide)
  | case2 => rfl
  | case3 c rest hnone ih =>
    rw [hasTag, Bool.or_eq_false_iff] at h
    rw [ih h.2]

/-- The pieces of a layout. -/
def Layout.pieces (layout : Layout) : List Piece :=
  .text layout.lead :: layout.parts.flatMap fun part ↦ [.argument part.1.name, .text part.2]

/-- The pieces of a layout stand for the names of its placeholders. -/
theorem argument_mem_pieces {layout : Layout} {name : String} :
    .argument name ∈ layout.pieces ↔ name ∈ partNames layout.parts := by
  simp [Layout.pieces, partNames, eq_comm]

/-- A layout without filters is its pieces one after the other. -/
theorem flatMap_pieces {layout : Layout} (hfilters : ∀ part ∈ layout.parts, part.1.filters = [])
    (a : Scriptorium.Arguments) :
    layout.pieces.flatMap (Piece.fill a) = layout.lead ++ filledParts a.entries layout.parts := by
  have hparts : ∀ parts : List (Placeholder × List Char), (∀ part ∈ parts, part.1.filters = []) →
      (parts.flatMap fun part ↦ [Piece.argument part.1.name, .text part.2]).flatMap (Piece.fill a) =
        filledParts a.entries parts := by
    intro parts
    induction parts with
    | nil => exact fun _ ↦ rfl
    | cons part rest ih =>
      intro hnone
      have hown : part.1.filters = [] := hnone part List.mem_cons_self
      have hrest := ih fun other hother ↦ hnone other (List.mem_cons_of_mem _ hother)
      simp only [filledParts, List.flatMap_cons, List.flatMap_append] at hrest ⊢
      rw [hrest]
      simp [Piece.fill, Placeholder.filtered, hown, Scriptorium.Arguments.get?]
  rw [Layout.pieces, List.flatMap_cons, hparts layout.parts hfilters]
  rfl

/-- Code that is no template stays. -/
theorem fill_of_hasTag {code : String} (h : hasTag (unifyOpenings code.toList) = false)
    (a : Scriptorium.Arguments) : a.fill code = .ok code := by
  rw [Scriptorium.Arguments.fill, expand, h, if_neg Bool.false_ne_true, unifyOpenings_of_hasTag h]
  exact congrArg _ (String.ofList_toList)

/-- Code that is no template is its own outline. -/
theorem outlines_text {code : String} (h : hasTag (unifyOpenings code.toList) = false) :
    Outlines [.text code.toList] code := by
  refine ⟨?_, ?_⟩
  · intro a text htext name hname
    cases List.mem_singleton.mp hname
  · intro a hnames
    rw [fill_of_hasTag h a, List.flatMap_singleton, Piece.fill, String.ofList_toList]

/-- Placeholders without filters have few enough of them. -/
theorem isTooNested_of_filters_eq_nil {parts : List (Placeholder × List Char)}
    (h : ∀ part ∈ parts, part.1.filters = []) : isTooNested parts = false := by
  rw [← Bool.not_eq_true, isTooNested_iff]
  rintro ⟨p, hp, hcount⟩
  obtain ⟨part, hpart, rfl⟩ := List.mem_map.mp hp
  rw [h part hpart] at hcount
  exact Nat.not_lt_zero _ hcount

/-- Code with placeholders but without filters has the pieces of its layout for an outline. -/
theorem outlines_layout {code : String} {layout : Layout} (hwritten : layout.written = code.toList)
    (htags : layout.isTagFree) (hparts : layout.parts ≠ [])
    (hfilters : ∀ part ∈ layout.parts, part.1.filters = []) :
    Outlines (layout.mapText unifyNewlines).pieces code := by
  have hunified : ∀ part ∈ (layout.mapText unifyNewlines).parts, part.1.filters = [] := by
    intro part hpart
    obtain ⟨original, horiginal, rfl⟩ := List.mem_map.mp hpart
    exact hfilters original horiginal
  have hexpand := expand_written_of_not_isTooNested htags hparts
    (isTooNested_of_filters_eq_nil hfilters)
  rw [hwritten] at hexpand
  refine ⟨?_, ?_⟩
  · intro a text htext name hname
    by_contra hmissing
    obtain ⟨other, hother⟩ :=
      fillPlaceholders_eq_error ⟨name, argument_mem_pieces.mp hname, hmissing⟩
    rw [Scriptorium.Arguments.fill, hexpand, Layout.fill, hother] at htext
    cases htext
  · intro a hnames
    have hgiven : ∀ name ∈ partNames (layout.mapText unifyNewlines).parts,
        name ∈ entryNames a.entries :=
      fun name hname ↦ hnames name (argument_mem_pieces.mpr hname)
    rw [Scriptorium.Arguments.fill, hexpand, Layout.fill, fillPlaceholders_eq_ok hgiven,
      flatMap_pieces hunified]
    rfl

/-- Plain code has an outline. -/
theorem exists_outlines {code : String} (h : IsPlain code.toList) :
    ∃ pieces, Outlines pieces code := by
  rcases h with hnone | ⟨layout, hwritten, htags, hfilters⟩
  · exact ⟨_, outlines_text hnone⟩
  · by_cases hparts : layout.parts = []
    · have hnone : hasTag (unifyOpenings code.toList) = false := by
        rw [← hwritten, unifyOpenings_written htags, hasTag_unified htags, hparts]
        rfl
      exact ⟨_, outlines_text hnone⟩
    · exact ⟨_, outlines_layout hwritten htags hparts hfilters⟩

end Template

end Scriptorium
