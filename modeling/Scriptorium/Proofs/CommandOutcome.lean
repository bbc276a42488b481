import Scriptorium.Proofs.ListedScripts

/-!
# What a command leaves

A command that fails prints nothing and shows no table. It leaves no file either, since what can go
wrong goes wrong before there is anything to write, with two exceptions: a file is opened before its
text is encoded, so that a text that cannot be encoded leaves it empty; and it is written before its
path is told, so that a path that cannot be printed leaves it with its text
(`rest_run_of_failed`).

A command that makes a script succeeds exactly if a text is made of what is read and chosen, and
there is a place for it (`exitCode_compile_eq_zero_iff`). `outcome_of_run` is the whole, for every
command line.
-/

set_option autoImplicit false
set_option relaxedAutoImplicit false

namespace Scriptorium.Command

variable {s : Surroundings} {o : CompileOptions} {path : String}

/-- Whether a file is what is left of a text that options make. -/
def CompileOptions.LeavesRest (o : CompileOptions) (s : Surroundings) (path : String)
    (file : WrittenFile) : Prop :=
  ∃ c scripts g, o.Makes s path c scripts g ∧ o.IsRestOf g.code file

/-- A run succeeds exactly if it makes a text that there is a place for. -/
theorem exitCode_compile_eq_zero_iff :
    (compile s o path).exitCode = 0 ↔
      ∃ c scripts g, o.Makes s path c scripts g ∧ o.HasPlaceFor s g.code := by
  constructor
  · intro h
    obtain ⟨c, scripts, g, hmakes⟩ :=
      (exists_makes_or_failed s o path).resolve_right fun hfailed ↦ hfailed.1 h
    exact ⟨c, scripts, g, hmakes, hmakes.exitCode_compile_eq_zero_iff.mp h⟩
  · rintro ⟨c, scripts, g, hmakes, hplace⟩
    exact hmakes.exitCode_compile_eq_zero_iff.mpr hplace

/-- A run that fails leaves no file, except for the rest of a text. -/
theorem rest_compile_of_failed (h : (compile s o path).exitCode ≠ 0) :
    (compile s o path).written = none ∨
      ∃ file, (compile s o path).written = some file ∧ o.LeavesRest s path file := by
  rcases exists_makes_or_failed s o path with ⟨c, scripts, g, hmakes⟩ | ⟨-, hwritten⟩
  · refine (hmakes.drops h).rest.imp_right ?_
    rintro ⟨file, hwritten, hrest⟩
    exact ⟨file, hwritten, c, scripts, g, hmakes, hrest⟩
  · exact .inl hwritten

/-- What is shown leaves the files as they are. -/
theorem written_reportShown (display : Display) (text : String) (logs : List LogRecord)
    (written : Option WrittenFile) :
    (reportShown display text logs written).written = written := by
  unfold reportShown
  split <;> rfl

/-- A command to list leaves no file. -/
theorem written_list (s : Surroundings) (path : String) : (list s path).written = none := by
  unfold list
  cases readCollection s path "" with
  | error e => rfl
  | ok c =>
    cases hshown : s.console.readTable (tableOf c) with
    | error fault => simp only [hshown]
    | ok shown => simp only [hshown, written_reportShown]

/-- A command line that fails leaves no file, except for the rest of a text if it asks for a
script. -/
theorem rest_run_of_failed {words : List String} (h : (run s words).exitCode ≠ 0) :
    (run s words).written = none ∨
      ∃ isTold o file rest, Request.ofWords? words = .ok (.action isTold (.compile o) file) ∧
        (run s words).written = some rest ∧ o.LeavesRest s (normalPath file) rest := by
  cases hwords : Request.ofWords? words with
  | error fault =>
    left
    rw [run, hwords]
  | ok request =>
    cases request with
    | version =>
      rw [run, hwords] at h
      exact absurd rfl h
    | help topic =>
      left
      rw [run, hwords]
      exact written_reportShown _ _ _ _
    | completion =>
      left
      rw [run, hwords]
      rfl
    | action isTold task file =>
      cases task with
      | list =>
        left
        rw [run, hwords]
        exact written_list s (normalPath file)
      | compile o =>
        rw [run_eq_compile hwords] at h ⊢
        refine (rest_compile_of_failed h).imp_right ?_
        rintro ⟨rest, hwritten, hrest⟩
        exact ⟨isTold, o, file, rest, rfl, hwritten, hrest⟩

/-- What a command line leaves.

If the run fails it prints nothing and shows no table, whatever the files and the words are. It
leaves no file, except for the rest of a text in one, if the words ask for a script in a file, and
its text or its path cannot be encoded: no text, or all of it.

If the words ask for a script, the run succeeds exactly if the file can be read, scripts chosen and
a text made of their selections, and there is a place for the text. It then delivers the text: in a
file as it is, the number of the selections being told; or printed, and as it is exactly if there is
no control sequence in it. -/
theorem outcome_of_run (s : Surroundings) (words : List String) :
    ((run s words).exitCode ≠ 0 →
        (run s words).stdout = "" ∧ (run s words).table? = none ∧
          ((run s words).written = none ∨
            ∃ isTold o file rest,
              Request.ofWords? words = .ok (.action isTold (.compile o) file) ∧
              (run s words).written = some rest ∧ o.LeavesRest s (normalPath file) rest)) ∧
      ∀ (isTold : Bool) (o : CompileOptions) (file : String),
        Request.ofWords? words = .ok (.action isTold (.compile o) file) →
          ((run s words).exitCode = 0 ↔
              ∃ c scripts g, o.Makes s (normalPath file) c scripts g ∧ o.HasPlaceFor s g.code) ∧
            ∀ c scripts g, o.Makes s (normalPath file) c scripts g → (run s words).exitCode = 0 →
              (run s words).Delivers o (selectionOf scripts o.revert).length g.code := by
  constructor
  · intro hfailed
    obtain ⟨hstdout, htable⟩ := silent_of_failed hfailed
    exact ⟨hstdout, htable, rest_run_of_failed hfailed⟩
  · intro isTold o file hwords
    refine ⟨?_, fun c scripts g hmakes hsucceeds ↦ hmakes.delivers_run hwords hsucceeds⟩
    rw [run_eq_compile hwords]
    exact exitCode_compile_eq_zero_iff

/-- A file that is not there cannot be listed; a script of one that is there is printed. -/
theorem outcome_of_run_marked :
    ((run markedSurroundings ["list", "e"]).exitCode ≠ 0 ∧
        (run markedSurroundings ["list", "e"]).stdout = "") ∧
      ∃ text, (run markedSurroundings ["compile", "c", "-s", markedName]).Delivers
        ⟨[markedName], none, false, none, ""⟩ 1 text := by
  have hfailed : (run markedSurroundings ["list", "e"]).exitCode ≠ 0 := by
    decide
  refine ⟨⟨hfailed, ((outcome_of_run _ _).1 hfailed).1⟩, ?_⟩
  obtain ⟨hwords, c, g, hmakes, -, hzero, -⟩ := makes_marked
  exact ⟨g.code, ((outcome_of_run markedSurroundings _).2 _ _ _ hwords).2 c _ g hmakes hzero⟩

/-- The one script is printed without its control sequence. To write the other one fails, and leaves
an empty file. -/
theorem outcome_of_unprintable :
    (∃ c g,
        CompileOptions.Makes ⟨[markedName], none, false, none, ""⟩ markedSurroundings
          (normalPath "c") c [markedScript] g ∧
        (run markedSurroundings ["compile", "c", "-s", markedName]).exitCode = 0 ∧
        (run markedSurroundings ["compile", "c", "-s", markedName]).stdout ≠ g.code ++ "\n") ∧
      (run markedSurroundings ["compile", "c", "-s", "Y", "-o", "d"]).exitCode ≠ 0 ∧
      ∃ file, (run markedSurroundings ["compile", "c", "-s", "Y", "-o", "d"]).written =
        some file ∧ file.path = "d" ∧ file.text = "" := by
  constructor
  · obtain ⟨-, c, g, hmakes, -, hzero, hstdout⟩ := makes_marked
    exact ⟨c, g, hmakes, hzero, hstdout⟩
  · have hwords : Request.ofWords? ["compile", "c", "-s", "Y", "-o", "d"] =
        .ok (.action false (.compile ⟨["Y"], none, false, some "d", ""⟩) "c") :=
      eq_ok_of_toOption (by decide)
    obtain ⟨c, hread, -, hscripts, hscripting⟩ := exists_marked
    obtain ⟨g, hmakes, hcode⟩ := exists_makes_named (o := ⟨["Y"], none, false, some "d", ""⟩) hread
      (show halfScript ∈ c.scripts by simp [hscripts]) rfl rfl
    have hhalf : isEncodable g.code = false := by
      rw [hcode, hscripting, isEncodable_scriptText _ _ (List.cons_ne_nil _ _)]
      decide
    have hplace : (writable? (markedSurroundings.files.map (·.1)) (normalPath "d")).toOption =
        some ⟨some 0, ["d".toList]⟩ := by
      decide
    obtain ⟨logs, hcompile⟩ := hmakes.compile_eq
    rw [run_eq_compile hwords, normalPath_collection, hcompile,
      reportGenerated_of_not_isEncodable (eq_ok_of_toOption hplace) hhalf]
    exact ⟨Nat.one_ne_zero, _, rfl, by decide, rfl⟩

end Scriptorium.Command
