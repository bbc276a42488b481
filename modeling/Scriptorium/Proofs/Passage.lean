import Scriptorium.Proofs.Placeholder.Fill

/-!
# Passages

Code that is made of whole lines: lines of text with placeholders, and lines of tags, each with one
tag on it and nothing else but its indentation. The tags of a `Passage` open and close branches, and
`Passage.lines` are the lines that it is made of. Depending on the arguments some of its lines of
text are kept (`Passage.kept`): a branch is taken if the argument of its name is given and is not
empty.

Lines of text with no tag between them are a run, and a run is one `Layout`. A placeholder can begin
in one line and go on in the next, so that a condition on tags is one on runs. A line with a tag
goes on with no tag that begins before it, whatever its indentation (`isDetached_around`). So every
placeholder of a passage gets one blank and all else stays (`unifyOpenings_printed`).
-/

set_option autoImplicit false
set_option relaxedAutoImplicit false

namespace Scriptorium.Template

open Text

/-! ### Lines -/

/-- A name that an argument can have. -/
@[ext]
structure ArgumentName where
  text : String
  plain : isPlainName text.toList = true := by decide
  unreserved : text ∉ reservedNames := by decide

instance : DecidableEq ArgumentName := fun _ _ ↦ decidable_of_iff _ ArgumentName.ext_iff.symm

/-- The end of a line, if there is one. -/
def lineEnd (ended : Bool) : List Char := if ended then ['\n'] else []

/-- Whether a segment can stand on one line: its own text ends none. -/
def Segment.isSingle : Segment → Bool
  | literal text => !text.contains '\n' && !text.contains '\r'
  | placeholder _ => true

/-- A line of text with placeholders, and whether it is ended. -/
structure TextLine where
  segments : List Segment
  ended : Bool := true
  single : segments.all Segment.isSingle = true := by decide
  deriving DecidableEq

namespace TextLine

/-- The segments of a line with its end. -/
def pieces (line : TextLine) : List Segment := line.segments ++ [.literal (lineEnd line.ended)]

/-- A line as it is written. -/
def written (line : TextLine) : List Char :=
  line.segments.flatMap Segment.written ++ lineEnd line.ended

/-- A line with its placeholders filled in. -/
def filled (a : Scriptorium.Arguments) (line : TextLine) : List Char :=
  line.segments.flatMap (Segment.filled a) ++ lineEnd line.ended

end TextLine

/-- What stands around a tag that is alone on its line: the indentation, and whether the line is
ended. -/
structure Margin where
  indent : List Char := []
  ended : Bool := true
  blank : indent.all (fun c ↦ c == ' ' || c == '\t') = true := by decide
  deriving DecidableEq

/-- A tag of a branch. -/
inductive Tag where
  | opening (name : ArgumentName)
  | alternative
  | closing
  deriving DecidableEq

namespace Tag

/-- The words of a tag. -/
def words : Tag → List String
  | opening name => ["if", name.text]
  | alternative => ["else"]
  | closing => ["endif"]

/-- What is written after the mark that opens a tag. -/
def inner (tag : Tag) : List Char :=
  tag.words.flatMap (fun word ↦ ' ' :: word.toList) ++ [' ', '%', '\x7d']

/-- A tag as it is written. -/
def written (tag : Tag) : List Char := '\x7b' :: '%' :: tag.inner

end Tag

/-- A tag on its line. -/
def Margin.around (margin : Margin) (tag : Tag) : List Char :=
  margin.indent ++ (tag.written ++ lineEnd margin.ended)

/-- A line of a passage. -/
inductive Line where
  | text (line : TextLine)
  | tag (margin : Margin) (mark : Tag)
  deriving DecidableEq

namespace Line

/-- A line as it is written. -/
def written : Line → List Char
  | text line => line.written
  | tag margin mark => margin.around mark

/-- Whether a line is ended. -/
def isEnded : Line → Bool
  | text line => line.ended
  | tag margin _ => margin.ended

end Line

/-- Whether every line is ended, but for the last if nothing follows it. -/
def areEnded (followed : Bool) : List Line → Bool
  | [] => true
  | line :: rest => (line.isEnded || (rest.isEmpty && !followed)) && areEnded followed rest

/-- Lines before others are followed by these. -/
theorem areEnded_append (followed : Bool) (first second : List Line) :
    areEnded followed (first ++ second) =
      (areEnded (followed || !second.isEmpty) first && areEnded followed second) := by
  induction first with
  | nil => rfl
  | cons line rest ih =>
    rw [List.cons_append, areEnded, areEnded, ih, Bool.and_assoc]
    cases rest <;> cases second <;> simp

/-- Lines before another are followed by it. -/
theorem areEnded_append_cons (followed : Bool) (first : List Line) (line : Line)
    (rest : List Line) :
    areEnded followed (first ++ line :: rest) = (areEnded true first &&
      ((line.isEnded || (rest.isEmpty && !followed)) && areEnded followed rest)) := by
  rw [areEnded_append, List.isEmpty_cons, Bool.not_false, Bool.or_true, areEnded]

/-- It is enough that all lines but the last are ended if nothing follows. -/
theorem areEnded_of_forall {lines : List Line} (h : ∀ line ∈ lines.dropLast, line.isEnded) :
    areEnded false lines := by
  induction lines with
  | nil => rfl
  | cons line rest ih =>
    cases rest with
    | nil => simp [areEnded]
    | cons second others =>
      rw [List.dropLast_cons_cons] at h
      rw [areEnded, h line List.mem_cons_self, ih fun l hl ↦ h l (List.mem_cons_of_mem _ hl)]
      rfl

/-- Lines of text that something follows are ended. -/
theorem ended_of_areEnded {run : List TextLine} (h : areEnded true (run.map .text))
    {line : TextLine} (hline : line ∈ run) : line.ended := by
  induction run with
  | nil => cases hline
  | cons first rest ih =>
    simp only [List.map_cons, areEnded, Line.isEnded, Bool.not_true, Bool.and_false, Bool.or_false,
      Bool.and_eq_true] at h
    rcases List.mem_cons.mp hline with rfl | hrest
    · exact h.1
    · exact ih h.2 hrest

/-! ### Passages -/

/-- Whole lines of which the tags are properly nested: a run of lines of text alone, or one before a
branch with one body or with two and what follows the branch. -/
inductive Passage where
  | text (run : List TextLine)
  | guarded (before : List TextLine) (opening : Margin) (name : ArgumentName) (body : Passage)
      (closing : Margin) (rest : Passage)
  | either (before : List TextLine) (opening : Margin) (name : ArgumentName) (body : Passage)
      (middle : Margin) (otherwise : Passage) (closing : Margin) (rest : Passage)

/-- Whether a branch on a name is taken: its argument is given and is not empty. -/
def isTaken (a : Scriptorium.Arguments) (name : ArgumentName) : Bool :=
  (a.get? name.text).any (· != "")

/-- The layout of a run of lines. -/
def runLayout (run : List TextLine) : Layout := Layout.ofSegments (run.flatMap TextLine.pieces)

namespace Passage

/-- The lines of a passage. -/
def lines : Passage → List Line
  | text run => run.map .text
  | guarded before opening name body closing rest =>
    before.map .text ++ .tag opening (.opening name) ::
      (body.lines ++ .tag closing .closing :: rest.lines)
  | either before opening name body middle otherwise closing rest =>
    before.map .text ++ .tag opening (.opening name) ::
      (body.lines ++ .tag middle .alternative ::
        (otherwise.lines ++ .tag closing .closing :: rest.lines))

/-- The lines of text that are kept: those of the branches that are taken. -/
def kept (a : Scriptorium.Arguments) : Passage → List TextLine
  | text run => run
  | guarded before _ name body _ rest =>
    before ++ ((if isTaken a name then body.kept a else []) ++ rest.kept a)
  | either before _ name body _ otherwise _ rest =>
    before ++ ((if isTaken a name then body.kept a else otherwise.kept a) ++ rest.kept a)

/-- How deep the branches of a passage are nested. -/
def depth : Passage → Nat
  | text _ => 0
  | guarded _ _ _ body _ rest => max (body.depth + 1) rest.depth
  | either _ _ _ body _ otherwise _ rest => max (max body.depth otherwise.depth + 1) rest.depth

/-- The runs of lines of text with no tag between them. -/
def runs : Passage → List (List TextLine)
  | text run => [run]
  | guarded before _ _ body _ rest => before :: (body.runs ++ rest.runs)
  | either before _ _ body _ otherwise _ rest =>
    before :: (body.runs ++ (otherwise.runs ++ rest.runs))

/-- The lines of a passage with the runs among them printed in some way. -/
def printed (print : List TextLine → List Char) : Passage → List Char
  | text run => print run
  | guarded before opening name body closing rest =>
    print before ++ (opening.around (.opening name) ++
      (body.printed print ++ (closing.around .closing ++ rest.printed print)))
  | either before opening name body middle otherwise closing rest =>
    print before ++ (opening.around (.opening name) ++
      (body.printed print ++ (middle.around .alternative ++
        (otherwise.printed print ++ (closing.around .closing ++ rest.printed print)))))

/-- A passage as it is written. -/
def written (p : Passage) : List Char := p.printed fun run ↦ (runLayout run).written

/-- A passage with one blank before every dollar sign of a placeholder. -/
def unified (p : Passage) : List Char := p.printed fun run ↦ (runLayout run).unified

end Passage

/-- A run is written line by line. -/
theorem written_runLayout (run : List TextLine) :
    (runLayout run).written = run.flatMap TextLine.written := by
  have hline : ∀ line : TextLine, line.pieces.flatMap Segment.written = line.written := by
    intro line
    rw [TextLine.pieces, List.flatMap_append, List.flatMap_singleton]
    rfl
  rw [runLayout, Layout.written_ofSegments, List.flatMap_assoc]
  simp only [hline]

/-- A passage is written line by line. -/
theorem flatMap_written_lines (p : Passage) : p.lines.flatMap Line.written = p.written := by
  have hrun : ∀ run : List TextLine,
      (run.map Line.text).flatMap Line.written = (runLayout run).written := by
    intro run
    rw [written_runLayout, List.flatMap_map]
    simp only [Line.written]
  rw [Passage.written]
  induction p with
  | text run => exact hrun run
  | guarded before opening name body closing rest hbody hrest =>
    simp only [Passage.lines, Passage.printed, List.flatMap_append, List.flatMap_cons, hrun, hbody,
      hrest, Line.written]
  | either before opening name body middle otherwise closing rest hbody hotherwise hrest =>
    simp only [Passage.lines, Passage.printed, List.flatMap_append, List.flatMap_cons, hrun, hbody,
      hotherwise, hrest, Line.written]

/-- The placeholders of a run are those in its lines. -/
theorem placeholder_mem_pieces {run : List TextLine} {q : Placeholder} :
    .placeholder q ∈ run.flatMap TextLine.pieces ↔
      ∃ line ∈ run, .placeholder q ∈ line.segments := by
  simp only [List.mem_flatMap, TextLine.pieces, List.mem_append, List.mem_singleton, reduceCtorEq,
    or_false]

/-- The lines of runs are lines of text of the passage. -/
theorem Passage.text_mem_lines {p : Passage} {run : List TextLine} (hrun : run ∈ p.runs)
    {line : TextLine} (hline : line ∈ run) : .text line ∈ p.lines := by
  induction p with
  | text own =>
    obtain rfl := List.mem_singleton.mp hrun
    exact List.mem_map_of_mem hline
  | guarded before opening name body closing rest hbody hrest =>
    simp only [runs, List.mem_cons, List.mem_append] at hrun
    simp only [lines, List.mem_append, List.mem_cons, List.mem_map]
    rcases hrun with rfl | hinside | hafter
    · exact Or.inl ⟨line, hline, rfl⟩
    · exact Or.inr (Or.inr (Or.inl (hbody hinside)))
    · exact Or.inr (Or.inr (Or.inr (Or.inr (hrest hafter))))
  | either before opening name body middle otherwise closing rest hbody hotherwise hrest =>
    simp only [runs, List.mem_cons, List.mem_append] at hrun
    simp only [lines, List.mem_append, List.mem_cons, List.mem_map]
    rcases hrun with rfl | hinside | hbeside | hafter
    · exact Or.inl ⟨line, hline, rfl⟩
    · exact Or.inr (Or.inr (Or.inl (hbody hinside)))
    · exact Or.inr (Or.inr (Or.inr (Or.inr (Or.inl (hotherwise hbeside)))))
    · exact Or.inr (Or.inr (Or.inr (Or.inr (Or.inr (Or.inr (hrest hafter))))))

/-! ### Characters of tags -/

/-- The words of a tag are plain names. -/
theorem Tag.isPlainName_of_mem {tag : Tag} {word : String} (h : word ∈ tag.words) :
    isPlainName word.toList := by
  cases tag with
  | opening name =>
    simp only [words, List.mem_cons, List.not_mem_nil, or_false] at h
    rcases h with rfl | rfl
    · decide
    · exact name.plain
  | alternative =>
    obtain rfl := List.mem_singleton.mp h
    decide
  | closing =>
    obtain rfl := List.mem_singleton.mp h
    decide

/-- After its mark a tag has no brace that opens and no line end. -/
theorem Tag.ne_of_mem_inner {tag : Tag} {c : Char} (hc : c ∈ tag.inner) :
    c ≠ '\x7b' ∧ c ≠ '\r' ∧ c ≠ '\n' := by
  have hmark : ∀ d ∈ [' ', '%', '\x7d'], d ≠ '\x7b' ∧ d ≠ '\r' ∧ d ≠ '\n' := by simp
  simp only [inner, List.mem_append, List.mem_flatMap] at hc
  rcases hc with ⟨word, hword, hmem⟩ | hend
  · rcases List.mem_cons.mp hmem with rfl | hname
    · exact hmark ' ' List.mem_cons_self
    · exact ne_of_isNameRest (isNameRest_of_mem (isPlainName_of_mem hword) hname)
  · exact hmark c hend

/-- A character of an indentation. -/
theorem Margin.eq_of_mem_indent {margin : Margin} {c : Char} (hc : c ∈ margin.indent) :
    c = ' ' ∨ c = '\t' := by
  simpa using List.all_eq_true.mp margin.blank c hc

/-- An indentation is blank. -/
theorem Margin.isBlankText_indent (margin : Margin) : isBlankText margin.indent := by
  refine List.all_eq_true.mpr ?_
  intro c hc
  rcases margin.eq_of_mem_indent hc with rfl | rfl <;> decide

/-- An indentation is not part of what comes after leading blanks. -/
theorem Margin.trimLeft_indent (margin : Margin) {c : Char} (hc : isBlank c = false)
    (more : List Char) : trimLeft (margin.indent ++ c :: more) = c :: more := by
  have hnil : trimLeft margin.indent = [] := by
    simpa [trimLeft, List.dropWhile_eq_nil_iff, isBlankText] using margin.isBlankText_indent
  rw [trimLeft_append, if_pos hnil, trimLeft, List.dropWhile_cons, hc]
  rfl

/-- A line with a tag goes on with no tag but its own. -/
theorem isDetached_around (margin : Margin) (tag : Tag) (rest : List Char) :
    IsDetached (margin.around tag ++ rest) := by
  obtain ⟨more, hmore⟩ : ∃ more, margin.around tag ++ rest =
      margin.indent ++ '\x7b' :: '%' :: more := by
    refine ⟨tag.inner ++ (lineEnd margin.ended ++ rest), ?_⟩
    simp [Margin.around, Tag.written]
  have hhead : ∀ c ∈ (margin.indent ++ '\x7b' :: '%' :: more).head?,
      c = ' ' ∨ c = '\t' ∨ c = '\x7b' := by
    intro c hc
    cases hindent : margin.indent with
    | nil =>
      rw [hindent] at hc
      obtain rfl := Option.some.inj hc
      exact Or.inr (Or.inr rfl)
    | cons d others =>
      rw [hindent] at hc
      obtain rfl := Option.some.inj hc
      have hmem : d ∈ margin.indent := hindent ▸ List.mem_cons_self
      rcases margin.eq_of_mem_indent hmem with hspace | htab
      · exact Or.inl hspace
      · exact Or.inr (Or.inl htab)
  rw [hmore]
  refine ⟨?_, ?_, ?_, ?_⟩
  · intro hpercent
    rcases hhead _ hpercent with hc | hc | hc <;> exact absurd hc (by decide)
  · intro hnumber
    rcases hhead _ hnumber with hc | hc | hc <;> exact absurd hc (by decide)
  · rw [margin.trimLeft_indent (by decide)]
    show some '\x7b' ≠ some '$'
    decide
  · intro after hafter
    have hnil : margin.indent = [] := by
      cases hindent : margin.indent with
      | nil => rfl
      | cons d others =>
        rw [hindent] at hafter
        have hmem : d ∈ margin.indent := hindent ▸ List.mem_cons_self
        obtain ⟨rfl, -⟩ := List.cons.inj hafter
        rcases margin.eq_of_mem_indent hmem with hc | hc <;> exact absurd hc (by decide)
    rw [hnil] at hafter
    obtain ⟨-, rfl⟩ := List.cons.inj hafter
    show some '%' ≠ some '$'
    decide

/-! ### Openings, tags and line ends of a passage -/

/-- A line with a tag stays. -/
theorem unifyOpenings_around (margin : Margin) (tag : Tag) (rest : List Char) :
    unifyOpenings (margin.around tag ++ rest) = margin.around tag ++ unifyOpenings rest := by
  have hindent : ∀ c ∈ margin.indent, c ≠ '\x7b' := by
    intro c hc
    rcases margin.eq_of_mem_indent hc with rfl | rfl <;> decide
  have hbehind : ∀ c ∈ '%' :: (tag.inner ++ lineEnd margin.ended), c ≠ '\x7b' := by
    intro c hc
    simp only [List.mem_cons, List.mem_append] at hc
    rcases hc with rfl | hinner | hend
    · decide
    · exact (Tag.ne_of_mem_inner hinner).1
    · have hfeed : c ∈ ['\n'] := by
        cases hended : margin.ended <;> simp_all [lineEnd]
      obtain rfl := List.mem_singleton.mp hfeed
      decide
  have hstatement : ∀ more, unifyOpenings ('\x7b' :: ('%' :: more)) =
      '\x7b' :: unifyOpenings ('%' :: more) := fun _ ↦ unifyOpenings_of_none rfl
  have hparts : margin.around tag ++ rest =
      margin.indent ++ '\x7b' :: ('%' :: (tag.inner ++ lineEnd margin.ended) ++ rest) := by
    simp [Margin.around, Tag.written]
  have hunified : margin.around tag ++ unifyOpenings rest =
      margin.indent ++ '\x7b' ::
        ('%' :: (tag.inner ++ lineEnd margin.ended) ++ unifyOpenings rest) := by
    simp [Margin.around, Tag.written]
  rw [hparts, hunified, unifyOpenings_append_of_forall_ne hindent, List.cons_append, hstatement,
    ← List.cons_append, unifyOpenings_append_of_forall_ne hbehind]

/-- Every placeholder of a passage gets one blank, and all else of it stays. -/
theorem unifyOpenings_printed {p : Passage} (h : ∀ run ∈ p.runs, (runLayout run).isTagFree)
    {rest : List Char} (hrest : IsDetached rest) :
    unifyOpenings (p.written ++ rest) = p.unified ++ unifyOpenings rest := by
  unfold Passage.written Passage.unified
  -- What follows a run is a line with a tag or the rest, and neither goes on with a tag of the run.
  induction p generalizing rest with
  | text run => exact unifyOpenings_written_append (h run List.mem_cons_self) hrest
  | guarded before opening name body closing after hbody hafter =>
    simp only [Passage.runs, List.mem_cons, List.mem_append] at h
    have hbefore : (runLayout before).isTagFree := h before (Or.inl rfl)
    simp only [Passage.printed, List.append_assoc]
    rw [unifyOpenings_written_append hbefore (isDetached_around _ _ _), unifyOpenings_around,
      hbody (fun run hrun ↦ h run (Or.inr (Or.inl hrun))) (isDetached_around _ _ _),
      unifyOpenings_around, hafter (fun run hrun ↦ h run (Or.inr (Or.inr hrun))) hrest]
  | either before opening name body middle otherwise closing after hbody hotherwise hafter =>
    simp only [Passage.runs, List.mem_cons, List.mem_append] at h
    have hbefore : (runLayout before).isTagFree := h before (Or.inl rfl)
    simp only [Passage.printed, List.append_assoc]
    rw [unifyOpenings_written_append hbefore (isDetached_around _ _ _), unifyOpenings_around,
      hbody (fun run hrun ↦ h run (Or.inr (Or.inl hrun))) (isDetached_around _ _ _),
      unifyOpenings_around,
      hotherwise (fun run hrun ↦ h run (Or.inr (Or.inr (Or.inl hrun)))) (isDetached_around _ _ _),
      unifyOpenings_around, hafter (fun run hrun ↦ h run (Or.inr (Or.inr (Or.inr hrun)))) hrest]

/-- Text with a statement somewhere is a template. -/
theorem hasTag_append_around (text : List Char) (margin : Margin) (tag : Tag) (rest : List Char) :
    hasTag (text ++ (margin.around tag ++ rest)) := by
  have hparts : text ++ (margin.around tag ++ rest) =
      (text ++ margin.indent) ++
        '\x7b' :: '%' :: (tag.inner ++ (lineEnd margin.ended ++ rest)) := by
    simp [Margin.around, Tag.written]
  rw [hparts]
  generalize text ++ margin.indent = before
  induction before with
  | nil => rfl
  | cons c others ih => rw [List.cons_append, hasTag, ih, Bool.or_true]

/-- The stretches of a run have no carriage return. -/
theorem not_mem_stretches {run : List TextLine} {text : List Char}
    (h : text ∈ (runLayout run).stretches) : '\r' ∉ text := by
  intro hmem
  obtain ⟨literal, hliteral, hreturn⟩ := Layout.exists_literal_of_mem h hmem
  obtain ⟨line, -, hpieces⟩ := List.mem_flatMap.mp hliteral
  rcases List.mem_append.mp hpieces with hsegment | hend
  · have hsingle := List.all_eq_true.mp line.single _ hsegment
    simp [Segment.isSingle, hreturn] at hsingle
  · obtain rfl := Segment.literal.inj (List.mem_singleton.mp hend)
    cases hended : line.ended <;> simp [lineEnd, hended] at hreturn

/-- A run has no carriage return. -/
theorem not_mem_unified_runLayout (run : List TextLine) : '\r' ∉ (runLayout run).unified := by
  intro hmem
  rcases List.mem_append.mp hmem with hlead | hparts
  · exact not_mem_stretches List.mem_cons_self hlead
  · obtain ⟨part, hpart, hc⟩ := List.mem_flatMap.mp hparts
    rcases List.mem_append.mp hc with hplaceholder | htext
    · exact (Placeholder.ne_of_mem_unified hplaceholder).1 rfl
    · exact not_mem_stretches (List.mem_cons_of_mem _ (List.mem_map_of_mem hpart)) htext

/-- A line with a tag has no carriage return. -/
theorem Margin.not_mem_around (margin : Margin) (tag : Tag) : '\r' ∉ margin.around tag := by
  intro hmem
  simp only [around, Tag.written, List.mem_append, List.mem_cons] at hmem
  rcases hmem with hindent | (hbrace | hpercent | hinner) | hend
  · rcases margin.eq_of_mem_indent hindent with hc | hc <;> exact absurd hc (by decide)
  · exact absurd hbrace (by decide)
  · exact absurd hpercent (by decide)
  · exact (Tag.ne_of_mem_inner hinner).2.1 rfl
  · cases hended : margin.ended <;> simp [lineEnd, hended] at hend

/-- A passage has no carriage return. -/
theorem Passage.not_mem_unified (p : Passage) : '\r' ∉ p.unified := by
  unfold unified
  induction p with
  | text run => exact not_mem_unified_runLayout run
  | guarded before opening name body closing rest hbody hrest =>
    simp only [printed, List.mem_append, not_or]
    exact ⟨not_mem_unified_runLayout before, opening.not_mem_around _, hbody,
      closing.not_mem_around _, hrest⟩
  | either before opening name body middle otherwise closing rest hbody hotherwise hrest =>
    simp only [printed, List.mem_append, not_or]
    exact ⟨not_mem_unified_runLayout before, opening.not_mem_around _, hbody,
      middle.not_mem_around _, hotherwise, closing.not_mem_around _, hrest⟩

end Scriptorium.Template
