import Scriptorium.Command

/-!
# Delivering a text

What comes of a text that is made of a number of selections. It is delivered if it can be encoded
and, where a file is asked for, there is a place for one whose path can be told
(`CompileOptions.HasPlaceFor`): it is printed, and is printed as it is exactly if there is no
control sequence in it, or it is in the file as it is, and the number of the selections is told
(`Report.Delivers`). If there is no place for it nothing is printed; what is left then is no file,
or a file that is empty or has the whole text (`Report.Drops`).

A text is delivered or dropped, and the code that a run exits with says which
(`exitCode_reportGenerated_eq_zero_iff`). A run that makes a script makes a text of what is read and
chosen, or fails before there is anything to leave (`exists_makes_or_failed`).
-/

set_option autoImplicit false
set_option relaxedAutoImplicit false

namespace Scriptorium.Command

/-- Whether a text can be left where options say. -/
def CompileOptions.HasPlaceFor (o : CompileOptions) (s : Surroundings) (text : String) : Prop :=
  isEncodable text = true ∧ ∀ target, o.output = some target →
    (∃ place, writable? (s.files.map (·.1)) (normalPath target) = .ok place) ∧
      isEncodable (normalPath target) = true

/-- Whether a run leaves a text that is made of a number of selections where options say: printed
without control sequences, or in a file as it is. -/
structure Report.Delivers (r : Report) (o : CompileOptions) (count : Nat) (text : String) :
    Prop where
  printed : o.output = none → r.written = none ∧ r.stdout = printedText (text ++ "\n") ∧
    (r.stdout = text ++ "\n" ↔ ¬ Text.HasSequence text.toList)
  written : ∀ target, o.output = some target →
    (∃ file, r.written = some file ∧ file.path = normalPath target ∧ file.text = text) ∧
      r.stdout = printedText (countLine count (normalPath target)) ∧
      (r.stdout = countLine count (normalPath target) ↔
        ¬ Text.HasSequence (normalPath target).toList)

/-- Whether a file is what is left of a text that cannot be encoded, or whose path cannot be: an
empty file, or one with the text. -/
def CompileOptions.IsRestOf (o : CompileOptions) (text : String) (file : WrittenFile) : Prop :=
  ∃ target, o.output = some target ∧ file.path = normalPath target ∧
    (isEncodable text = false ∧ file.text = "" ∨
      isEncodable (normalPath target) = false ∧ file.text = text)

/-- Whether a run fails on a text: it leaves no file, or a rest of the text in one. -/
structure Report.Drops (r : Report) (o : CompileOptions) (text : String) : Prop where
  failed : r.exitCode ≠ 0
  rest : r.written = none ∨ ∃ file, r.written = some file ∧ o.IsRestOf text file

/-- The table that a run shows. -/
def Report.table? (r : Report) : Option Table :=
  match r.display with
  | .table t _ => some t
  | _ => none

variable {s : Surroundings} {o : CompileOptions} {g : Generated} {count : Nat}
  {logs : List LogRecord}

/-! ### Printing -/

/-- A text is printed as it is exactly if there is no control sequence in it. -/
theorem printedText_eq_self_iff {text : String} :
    printedText text = text ↔ ¬ Text.HasSequence text.toList := by
  rw [← Text.dropSequences_eq_self_iff, printedText, ← String.toList_inj, String.toList_ofList]

theorem printedText_lineFeed_iff {text : String} :
    printedText (text ++ "\n") = text ++ "\n" ↔ ¬ Text.HasSequence text.toList := by
  rw [printedText_eq_self_iff, String.toList_append]
  exact not_congr Text.hasSequence_append_lineFeed

/-- A number is written with digits, which are no escapes and no halves of characters. -/
theorem isDigit_of_mem_natText {n : Nat} {c : Char} (h : c ∈ (Decimal.natText n).toList) :
    c.isDigit = true := by
  rw [Decimal.natText, String.toList_ofList] at h
  exact Nat.isDigit_of_mem_toDigits (by decide) (by decide) h

theorem escape_not_mem_natText (n : Nat) : '\x1b' ∉ (Decimal.natText n).toList :=
  fun hmem ↦ absurd (isDigit_of_mem_natText hmem) (by decide)

/-- What is told of the selections is printed as it is exactly if the path of the file is. -/
theorem printedText_countLine_iff (count : Nat) (path : String) :
    printedText (countLine count path) = countLine count path ↔
      ¬ Text.HasSequence path.toList := by
  have hopening : '\x1b' ∉ ("Wrote " ++ Decimal.natText count ++ " script(s) to ").toList := by
    simp [escape_not_mem_natText]
  rw [countLine, printedText_lineFeed_iff, String.toList_append,
    Text.hasSequence_append_of_not_mem hopening]

/-! ### Encoding -/

theorem isEncodable_append (first second : String) :
    isEncodable (first ++ second) = (isEncodable first && isEncodable second) := by
  simp only [isEncodable, String.toList_append, List.any_append, Bool.not_or]

theorem isEncodable_append_lineFeed (text : String) :
    isEncodable (text ++ "\n") = isEncodable text := by
  rw [isEncodable_append]
  exact Bool.and_true _

/-- A character before all those that hold halves is a whole one. -/
theorem isHalf_of_lt {c : Char} (h : c.toNat < Text.surrogateShift) : Text.isHalf c = false := by
  simp [Text.isHalf, Nat.not_le.mpr h]

/-- A digit is a whole character. -/
theorem isHalf_of_isDigit {c : Char} (h : c.isDigit = true) : Text.isHalf c = false := by
  simp only [Char.isDigit, Bool.and_eq_true, decide_eq_true_eq] at h
  have hrange : c.toNat ≤ 57 := h.2
  exact isHalf_of_lt (Nat.lt_of_le_of_lt hrange (by decide))

/-- What is told of the selections can be encoded exactly if the path of the file can be. -/
theorem isEncodable_countLine (count : Nat) (path : String) :
    isEncodable (countLine count path) = isEncodable path := by
  have hnumber : isEncodable (Decimal.natText count) = true := by
    rw [isEncodable, Bool.not_eq_true', List.any_eq_false]
    intro c hc
    rw [isHalf_of_isDigit (isDigit_of_mem_natText hc)]
    exact Bool.false_ne_true
  have hopening : isEncodable "Wrote " = true := by decide
  have hmiddle : isEncodable " script(s) to " = true := by decide
  rw [countLine, isEncodable_append_lineFeed, isEncodable_append, isEncodable_append,
    isEncodable_append, hopening, hnumber, hmiddle]
  exact Bool.true_and _

/-! ### Reports -/

/-- A run that fails prints nothing and shows no table. -/
theorem silent_of_failed {r : Report} (h : r.exitCode ≠ 0) : r.stdout = "" ∧ r.table? = none := by
  obtain ⟨display, logs, written⟩ := r
  cases display with
  | nothing | output text | table t drawing => exact absurd rfl h
  | failure error | misuse fault => exact ⟨rfl, rfl⟩

/-- Something is shown if the text for it can be encoded. -/
theorem reportShown_of_isEncodable {display : Display} {text : String}
    {written : Option WrittenFile} (h : isEncodable text = true) :
    reportShown display text logs written = ⟨display, logs, written⟩ := by
  rw [reportShown, if_pos h]

/-- Nothing is shown if the text for it cannot be encoded, but a file stays written. -/
theorem reportShown_of_not_isEncodable {display : Display} {text : String}
    {written : Option WrittenFile} (h : isEncodable text = false) :
    reportShown display text logs written =
      ⟨.failure (.operation .unencodable), logs, written⟩ := by
  rw [reportShown, if_neg (by simp [h])]

/-- Nothing is left of a text that is to be printed and cannot be encoded. -/
theorem drops_of_not_printable (hnone : o.output = none) (h : isEncodable g.code = false) :
    (reportGenerated s g count o.output logs).Drops o g.code := by
  simp only [hnone, reportGenerated]
  rw [reportShown_of_not_isEncodable ((isEncodable_append_lineFeed _).trans h)]
  exact ⟨Nat.one_ne_zero, .inl rfl⟩

/-- Nothing is left of a text for a file that has no place. -/
theorem drops_of_no_place {target : String} {fault : Fault} (htarget : o.output = some target)
    (h : writable? (s.files.map (·.1)) (normalPath target) = .error fault) :
    (reportGenerated s g count o.output logs).Drops o g.code := by
  simp only [htarget, reportGenerated, h]
  exact ⟨Nat.one_ne_zero, .inl rfl⟩

/-- A file that is opened for a text that cannot be encoded stays empty. -/
theorem reportGenerated_of_not_isEncodable {target : String} {place : Place}
    (hplace : writable? (s.files.map (·.1)) (normalPath target) = .ok place)
    (h : isEncodable g.code = false) :
    reportGenerated s g count (some target) logs =
      ⟨.failure (.operation .unencodable), logs,
        some ⟨normalPath target, place.localName?, ""⟩⟩ := by
  simp only [reportGenerated, hplace, h, Bool.false_eq_true, if_false]

/-- A file whose path cannot be told has the text. -/
theorem drops_of_untold {target : String} {place : Place} (htarget : o.output = some target)
    (hplace : writable? (s.files.map (·.1)) (normalPath target) = .ok place)
    (htext : isEncodable g.code = true) (hpath : isEncodable (normalPath target) = false) :
    (reportGenerated s g count o.output logs).Drops o g.code := by
  simp only [htarget, reportGenerated, hplace, htext, if_true]
  rw [reportShown_of_not_isEncodable ((isEncodable_countLine _ _).trans hpath)]
  exact ⟨Nat.one_ne_zero, .inr ⟨_, rfl, target, htarget, rfl, .inr ⟨hpath, rfl⟩⟩⟩

/-- A text that there is no place for is dropped. -/
theorem drops_reportGenerated (h : ¬ o.HasPlaceFor s g.code) :
    (reportGenerated s g count o.output logs).Drops o g.code := by
  cases htarget : o.output with
  | none =>
    have htext : isEncodable g.code = false := by
      rw [← Bool.not_eq_true]
      exact fun htext ↦ h ⟨htext, fun target hsome ↦ nomatch htarget.symm.trans hsome⟩
    rw [← htarget]
    exact drops_of_not_printable htarget htext
  | some target =>
    cases hplace : writable? (s.files.map (·.1)) (normalPath target) with
    | error fault => exact htarget ▸ drops_of_no_place htarget hplace
    | ok place =>
      cases htext : isEncodable g.code with
      | false =>
        rw [reportGenerated_of_not_isEncodable hplace htext]
        exact ⟨Nat.one_ne_zero, .inr ⟨_, rfl, target, htarget, rfl, .inl ⟨htext, rfl⟩⟩⟩
      | true =>
        have hpath : isEncodable (normalPath target) = false := by
          rw [← Bool.not_eq_true]
          refine fun hpath ↦ h ⟨htext, fun other hother ↦ ?_⟩
          obtain rfl := Option.some.inj (htarget.symm.trans hother)
          exact ⟨⟨place, hplace⟩, hpath⟩
        exact htarget ▸ drops_of_untold htarget hplace htext hpath

/-- What is reported of a text that is printed. -/
theorem reportGenerated_of_printed (hnone : o.output = none) (h : o.HasPlaceFor s g.code) :
    reportGenerated s g count o.output logs = ⟨.output (g.code ++ "\n"), logs, none⟩ := by
  rw [hnone, reportGenerated,
    reportShown_of_isEncodable ((isEncodable_append_lineFeed _).trans h.1)]

/-- What is reported of a text that is written to a file. -/
theorem reportGenerated_of_written (count : Nat) (logs : List LogRecord) {target : String}
    (htarget : o.output = some target) (h : o.HasPlaceFor s g.code) :
    ∃ localName, reportGenerated s g count o.output logs =
      ⟨.output (countLine count (normalPath target)), logs,
        some ⟨normalPath target, localName, g.code⟩⟩ := by
  obtain ⟨htext, hfile⟩ := h
  obtain ⟨⟨place, hplace⟩, hpath⟩ := hfile target htarget
  simp only [htarget, reportGenerated, hplace, htext, if_true]
  exact ⟨_, reportShown_of_isEncodable ((isEncodable_countLine _ _).trans hpath)⟩

/-- A text that there is a place for is delivered, by a run that succeeds. -/
theorem delivers_reportGenerated (h : o.HasPlaceFor s g.code) :
    (reportGenerated s g count o.output logs).exitCode = 0 ∧
      (reportGenerated s g count o.output logs).Delivers o count g.code := by
  cases htarget : o.output with
  | none =>
    rw [← htarget, reportGenerated_of_printed htarget h]
    refine ⟨rfl, fun _ ↦ ⟨rfl, rfl, printedText_lineFeed_iff⟩, fun target hsome ↦ ?_⟩
    cases htarget.symm.trans hsome
  | some target =>
    obtain ⟨localName, hreport⟩ := reportGenerated_of_written count logs htarget h
    rw [← htarget, hreport]
    refine ⟨rfl, fun hnone ↦ ?_, fun other hother ↦ ?_⟩
    · cases htarget.symm.trans hnone
    · obtain rfl := Option.some.inj (htarget.symm.trans hother)
      exact ⟨⟨_, rfl, rfl, rfl⟩, rfl, printedText_countLine_iff count _⟩

/-- A text is delivered exactly if there is a place for it. -/
theorem exitCode_reportGenerated_eq_zero_iff :
    (reportGenerated s g count o.output logs).exitCode = 0 ↔ o.HasPlaceFor s g.code := by
  refine ⟨fun h ↦ ?_, fun h ↦ (delivers_reportGenerated h).1⟩
  exact Classical.byContradiction fun hplace ↦ (drops_reportGenerated hplace).failed h

/-! ### Runs that make a text -/

/-- Whether options make a text of the file at a path: of a collection that is read from it, and of
the scripts that are chosen from the collection. -/
structure CompileOptions.Makes (o : CompileOptions) (s : Surroundings) (path : String)
    (c : Collection) (scripts : List Script) (g : Generated) : Prop where
  read : readCollection s path o.homepage = .ok c
  chosen : chosenScripts c o = .ok scripts
  generated : Generated.ofSelections? (selectionOf scripts o.revert) c.scripting.wrapping = .ok g

variable {path file : String} {words : List String} {isTold : Bool} {c : Collection}
  {scripts : List Script}

/-- What a run reports whose scripts cannot be chosen. -/
theorem compile_of_misuse {fault : UsageFault} (hread : readCollection s path o.homepage = .ok c)
    (hchosen : chosenScripts c o = .error fault) :
    compile s o path = ⟨.misuse fault, collectionLog s path o.homepage, none⟩ := by
  simp only [compile, hread, hchosen]

/-- A run makes a text, or it fails before there is anything to leave. -/
theorem exists_makes_or_failed (s : Surroundings) (o : CompileOptions) (path : String) :
    (∃ c scripts g, o.Makes s path c scripts g) ∨
      (compile s o path).exitCode ≠ 0 ∧ (compile s o path).written = none := by
  cases hread : readCollection s path o.homepage with
  | error e =>
    have hreport : compile s o path = ⟨.failure e, collectionLog s path o.homepage, none⟩ := by
      simp only [compile, hread]
    rw [hreport]
    exact .inr ⟨Nat.one_ne_zero, rfl⟩
  | ok c =>
    cases hchosen : chosenScripts c o with
    | error fault =>
      rw [compile_of_misuse hread hchosen]
      exact .inr ⟨Nat.succ_ne_zero 1, rfl⟩
    | ok scripts =>
      cases hg : Generated.ofSelections? (selectionOf scripts o.revert) c.scripting.wrapping with
      | error e =>
        obtain ⟨logs, hreport⟩ : ∃ logs, compile s o path = ⟨.failure e, logs, none⟩ := by
          simp only [compile, hread, hchosen, hg]
          exact ⟨_, rfl⟩
        rw [hreport]
        exact .inr ⟨Nat.one_ne_zero, rfl⟩
      | ok g => exact .inl ⟨c, scripts, g, hread, hchosen, hg⟩

namespace CompileOptions.Makes

/-- What a run reports that makes a text. -/
theorem compile_eq (h : o.Makes s path c scripts g) :
    ∃ logs, compile s o path =
      reportGenerated s g (selectionOf scripts o.revert).length o.output logs := by
  simp only [compile, h.read, h.chosen, h.generated]
  exact ⟨_, rfl⟩

/-- A run that makes a text succeeds exactly if there is a place for it. -/
theorem exitCode_compile_eq_zero_iff (h : o.Makes s path c scripts g) :
    (compile s o path).exitCode = 0 ↔ o.HasPlaceFor s g.code := by
  obtain ⟨logs, hcompile⟩ := h.compile_eq
  rw [hcompile]
  exact exitCode_reportGenerated_eq_zero_iff

/-- A run that makes a text and succeeds delivers it. -/
theorem delivers (h : o.Makes s path c scripts g) (hsucceeds : (compile s o path).exitCode = 0) :
    (compile s o path).Delivers o (selectionOf scripts o.revert).length g.code := by
  have hplace := h.exitCode_compile_eq_zero_iff.mp hsucceeds
  obtain ⟨logs, hcompile⟩ := h.compile_eq
  rw [hcompile]
  exact (delivers_reportGenerated hplace).2

/-- A run that makes a text and fails drops it. -/
theorem drops (h : o.Makes s path c scripts g) (hfails : (compile s o path).exitCode ≠ 0) :
    (compile s o path).Drops o g.code := by
  have hplace : ¬ o.HasPlaceFor s g.code := fun hplace ↦
    hfails (h.exitCode_compile_eq_zero_iff.mpr hplace)
  obtain ⟨logs, hcompile⟩ := h.compile_eq
  rw [hcompile]
  exact drops_reportGenerated hplace

end CompileOptions.Makes

/-- Words that ask for a script make it. -/
theorem run_eq_compile (hwords : Request.ofWords? words = .ok (.action isTold (.compile o) file)) :
    run s words = (compile s o (normalPath file)).limit (logLevel s.isDebug isTold) := by
  rw [run, hwords]
  rfl

/-- What is delivered does not depend on how much is told. -/
theorem Report.Delivers.limit {r : Report} {text : String} (h : r.Delivers o count text)
    (level : LogLevel) : (r.limit level).Delivers o count text :=
  ⟨h.printed, h.written⟩

/-- Words that ask for a script, of which a text is made, succeed exactly if there is a place for
it. -/
theorem CompileOptions.Makes.exitCode_run_eq_zero_iff (h : o.Makes s (normalPath file) c scripts g)
    (hwords : Request.ofWords? words = .ok (.action isTold (.compile o) file)) :
    (run s words).exitCode = 0 ↔ o.HasPlaceFor s g.code := by
  rw [run_eq_compile hwords]
  exact h.exitCode_compile_eq_zero_iff

/-- Words that ask for a script, and succeed, deliver the text that is made of it. -/
theorem CompileOptions.Makes.delivers_run (h : o.Makes s (normalPath file) c scripts g)
    (hwords : Request.ofWords? words = .ok (.action isTold (.compile o) file))
    (hsucceeds : (run s words).exitCode = 0) :
    (run s words).Delivers o (selectionOf scripts o.revert).length g.code := by
  rw [run_eq_compile hwords] at hsucceeds ⊢
  exact (h.delivers hsucceeds).limit _

end Scriptorium.Command
