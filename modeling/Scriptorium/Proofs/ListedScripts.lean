import Mathlib.Data.List.Forall2
import Scriptorium.Proofs.EncodedScript
import Scriptorium.Proofs.SafeGeneration

/-!
# The scripts in a table

What is listed of a collection, and what is made of it, agree. The table of a collection has one row
for each script, in the order of the scripts, though it is written category by category
(`forall₂_rows`). Its cells tell what options ask for: the name and the level of a script, and
whether it can be reverted (`asksFor_tableRow`). What options choose and keep is what a filter
leaves of all scripts (`chosenScripts_eq_filter`, `selectionOf_filter`), so it goes with the same
filter of the rows.

A script can be made of every such selection, and its text has one section for each
(`exists_scriptText`). `delivers_of_list` is the whole: of a file that can be listed, options
without a name and those with a name in the table make the sections of the rows that they ask for,
and deliver them if they can be encoded. What is listed are the rows as the console reads them
(`forall₂_shows_of_readTable`).
-/

set_option autoImplicit false
set_option relaxedAutoImplicit false

namespace Scriptorium

namespace Command

/-! ### Rows -/

/-- The cell of a row under a column. -/
def Table.cell (t : Table) (column : String) (row : List String) : String :=
  ((t.columns.zip row).lookup column).getD ""

/-- The names of the levels that a level takes in. -/
def levelsWithin : Level → List String
  | .standard => ["standard"]
  | .strict => ["standard", "strict"]

/-- Whether options ask for the row of a table: for its name, or else for its level, or else for any
row; and to be reverted only for one that says so. -/
def CompileOptions.asksFor (o : CompileOptions) (t : Table) (row : List String) : Bool :=
  (if o.scripts.isEmpty then
      match o.level with
      | some level => (levelsWithin level).contains (t.cell "Level" row)
      | none => true
    else o.scripts.contains (t.cell "Script" row)) &&
    (!o.revert || t.cell "Revert" row == "yes")

/-- Whether a row of a table shows a script of a collection. -/
def IsRowOf (c : Collection) (row : List String) (script : Script) : Prop :=
  ∃ category ∈ c.actions, script ∈ category.allScripts ∧ row = tableRow category.name script

/-- Whether a selection is what options make of the row of a table: the script that goes by its
name, for what the options say, under the title for that. -/
structure IsSelectionOf (c : Collection) (t : Table) (o : CompileOptions) (row : List String)
    (selection : Selection) : Prop where
  script : c.find? (t.cell "Script" row) = some selection.script
  revert : selection.revert = o.revert
  title : selection.title =
    if o.revert then t.cell "Script" row ++ " (revert)" else t.cell "Script" row

/-- Whether a row shows the cells of another one, as a console reads them. -/
def Console.Shows (k : Console) (row shown : List String) : Prop :=
  List.Forall₂ (fun cell text ↦ k.read cell = .ok text) row shown

variable {c : Collection} {category : String} {script : Script} {o : CompileOptions}

@[simp] theorem cell_script : (tableOf c).cell "Script" (tableRow category script) = script.name :=
  rfl

@[simp] theorem cell_level :
    (tableOf c).cell "Level" (tableRow category script) = (script.level.map Level.name).getD "" :=
  rfl

@[simp] theorem cell_revert :
    (tableOf c).cell "Revert" (tableRow category script) =
      if script.canRevert then "yes" else "" :=
  rfl

/-- A row says that its level is taken in exactly if the level of its script is. -/
theorem contains_levelsWithin (level : Level) :
    (levelsWithin level).contains ((script.level.map Level.name).getD "") =
      match script.level with
      | some l => level.includes l
      | none => false := by
  cases level <;> rcases script.level with _ | _ | _ <;> decide

/-- Whether options ask for a script, to be applied or to be reverted. -/
def CompileOptions.picks (o : CompileOptions) (script : Script) : Bool :=
  if o.scripts.isEmpty then
    match o.level with
    | some level =>
      match script.level with
      | some l => level.includes l
      | none => false
    | none => true
  else o.scripts.contains script.name

/-- What options ask for is the same by the row of a script and by the script. -/
theorem asksFor_tableRow :
    o.asksFor (tableOf c) (tableRow category script) =
      (o.picks script && (!o.revert || script.canRevert)) := by
  unfold CompileOptions.asksFor CompileOptions.picks
  have hrevert : ((if script.canRevert then "yes" else "") == "yes") = script.canRevert := by
    cases script.canRevert <;> rfl
  simp only [cell_script, cell_level, cell_revert, contains_levelsWithin, hrevert]

/-- The rows that are written category by category are those of all scripts in their order. -/
theorem forall₂_rows (categories : List Category) :
    List.Forall₂
      (fun row script ↦ ∃ category ∈ categories, script ∈ category.allScripts ∧
        row = tableRow category.name script)
      (categories.flatMap fun category ↦ category.allScripts.map (tableRow category.name))
      (scriptsOfAll categories) := by
  induction categories with
  | nil => exact .nil
  | cons first rest ih =>
    rw [List.flatMap_cons, scriptsOfAll]
    refine List.rel_append ?_ (ih.imp ?_)
    · rw [List.forall₂_map_left_iff, List.forall₂_same]
      exact fun script hscript ↦ ⟨first, List.mem_cons_self, hscript, rfl⟩
    · rintro row script ⟨category, hcategory, hrow⟩
      exact ⟨category, List.mem_cons_of_mem _ hcategory, hrow⟩

/-- The names in a table are those of all scripts in their order. -/
theorem map_cell_rows (c : Collection) :
    (tableOf c).rows.map ((tableOf c).cell "Script") = c.scripts.map Script.name := by
  rw [← List.forall₂_eq_eq_eq, List.forall₂_map_left_iff, List.forall₂_map_right_iff]
  refine (forall₂_rows c.actions).imp ?_
  rintro row script ⟨category, -, -, rfl⟩
  rfl

/-! ### Options -/

/-- The single script with a name is what a filter by the name leaves. -/
theorem filter_name_eq (h : (c.scripts.map Script.name).Nodup) (hmem : script ∈ c.scripts) :
    (c.scripts.filter fun other ↦ [script.name].contains other.name) = [script] := by
  have hsame : ∀ other ∈ c.scripts, [script.name].contains other.name = (other == script) := by
    intro other hother
    rw [Bool.eq_iff_iff, beq_iff_eq, List.contains_iff_mem, List.mem_singleton]
    exact ⟨List.inj_on_of_nodup_map h hother hmem, congrArg Script.name⟩
  rw [List.filter_congr hsame, List.filter_beq, List.count_eq_one_of_mem h.of_map hmem]
  rfl

/-- Options that give one name pick the script that has it. -/
theorem filter_picks_named (h : (c.scripts.map Script.name).Nodup) (hmem : script ∈ c.scripts)
    (hone : o.scripts = [script.name]) : c.scripts.filter o.picks = [script] := by
  have hpicks : o.picks = fun other ↦ [script.name].contains other.name := by
    funext other
    rw [CompileOptions.picks, hone]
    rfl
  rw [hpicks, filter_name_eq h hmem]

/-- What options choose is what a filter leaves of all scripts, if they give no more than one name,
and one of a script. -/
theorem chosenScripts_eq_filter (h : (c.scripts.map Script.name).Nodup)
    (hnames : o.scripts = [] ∨ ∃ script ∈ c.scripts, o.scripts = [script.name]) :
    chosenScripts c o = .ok (c.scripts.filter o.picks) := by
  rcases hnames with hnone | ⟨script, hmem, hone⟩
  · unfold chosenScripts CompileOptions.picks
    rw [hnone]
    cases o.level with
    | none => simp
    | some level => rfl
  · have hfind := Collection.find?_eq_some_of_mem h hmem
    rw [chosenScripts, hone, filter_picks_named h hmem hone]
    simp only [scriptsNamed, hfind]
    rfl

/-- What is selected of the scripts that a filter leaves is what a stricter filter leaves. -/
theorem selectionOf_filter (scripts : List Script) (picks : Script → Bool) (revert : Bool) :
    selectionOf (scripts.filter picks) revert =
      (scripts.filter fun script ↦ picks script && (!revert || script.canRevert)).map
        (⟨·, revert⟩) := by
  cases revert with
  | false => simp [selectionOf]
  | true => simp [selectionOf, List.filter_filter, Bool.and_comm]

/-- The selections of options go with the rows that they ask for. -/
theorem forall₂_selections (h : (c.scripts.map Script.name).Nodup) :
    List.Forall₂ (IsSelectionOf c (tableOf c) o) ((tableOf c).rows.filter (o.asksFor (tableOf c)))
      (selectionOf (c.scripts.filter o.picks) o.revert) := by
  let keeps (script : Script) : Bool := o.picks script && (!o.revert || script.canRevert)
  have hkept : List.Forall₂ (IsRowOf c) ((tableOf c).rows.filter (o.asksFor (tableOf c)))
      (c.scripts.filter keeps) := by
    refine List.rel_filter ?_ (forall₂_rows c.actions)
    rintro row script ⟨category, -, -, rfl⟩
    exact Bool.eq_iff_iff.mp asksFor_tableRow
  rw [selectionOf_filter, List.forall₂_map_right_iff]
  refine hkept.imp ?_
  rintro row script ⟨category, hcategory, hscript, rfl⟩
  refine ⟨?_, rfl, rfl⟩
  rw [cell_script]
  exact Collection.find?_eq_some_of_mem h (mem_scriptsOfAll.mpr ⟨category, hcategory, hscript⟩)

/-! ### Runs -/

/-- Of the scripts that a filter leaves a script is made. -/
theorem exists_scriptText (hvalid : c.IsValid) (picks : Script → Bool) (revert : Bool) :
    ∃ g, Generated.ofSelections? (selectionOf (c.scripts.filter picks) revert)
        c.scripting.wrapping = .ok g ∧
      g.code = scriptText c.scripting.dialect c.scripting.wrapping
        (selectionOf (c.scripts.filter picks) revert) := by
  have hsublist : (c.scripts.filter picks).Sublist c.scripts := List.filter_sublist
  obtain ⟨g, hg, hsections⟩ := exists_generated_of_isValid hvalid
    (hvalid.distinct.sublist (hsublist.map Script.name)) (fun s hs ↦ hsublist.subset hs) revert
  refine ⟨g, hg, ?_⟩
  by_cases hnone : selectionOf (c.scripts.filter picks) revert = []
  · rw [hnone] at hg ⊢
    obtain rfl := Except.ok.inj hg
    rfl
  · rw [scriptText, if_neg (by simpa using hnone)]
    exact hsections.code hnone

/-- The results of a function that may fail, applied along a list, are related to what it is applied
to. -/
theorem forall₂_of_mapM {α β : Type} {f : α → Except Fault β} {inputs : List α} {results : List β}
    (h : inputs.mapM f = .ok results) :
    List.Forall₂ (fun input result ↦ f input = .ok result) inputs results := by
  induction inputs generalizing results with
  | nil =>
    obtain rfl := Except.ok.inj h
    exact .nil
  | cons input rest ih =>
    rw [List.mapM_cons] at h
    obtain ⟨result, hresult, h⟩ := bind_eq_ok_iff.mp h
    obtain ⟨others, hothers, h⟩ := bind_eq_ok_iff.mp h
    obtain rfl := Except.ok.inj h
    exact .cons hresult (ih hothers)

/-- The rows of a table that is read show the rows of the table. -/
theorem forall₂_shows_of_readTable {k : Console} {t shown : Table} (h : k.readTable t = .ok shown) :
    List.Forall₂ k.Shows t.rows shown.rows := by
  obtain ⟨title, -, h⟩ := bind_eq_ok_iff.mp h
  obtain ⟨rows, hrows, h⟩ := bind_eq_ok_iff.mp h
  obtain rfl := Except.ok.inj h
  exact (forall₂_of_mapM hrows).imp fun _ _ ↦ forall₂_of_mapM

/-- A row without marks is shown as it is by a console that leaves such texts as they are. -/
theorem Console.Shows.eq_of_isUnmarked {k : Console} {row shown : List String}
    (h : k.Shows row shown) (hread : ∀ text, IsUnmarked text → k.read text = .ok text)
    (hunmarked : ∀ cell ∈ row, IsUnmarked cell) : shown = row := by
  induction h with
  | nil => rfl
  | @cons cell text row shown hcell _ ih =>
    have hsame : text = cell := Except.ok.inj
      (hcell.symm.trans (hread cell (hunmarked cell List.mem_cons_self)))
    rw [hsame, ih fun other hother ↦ hunmarked other (List.mem_cons_of_mem cell hother)]

/-- What is listed is what the console reads of the table of the collection in the file, if it can
be drawn with whole characters. -/
theorem table?_run_list_eq_some_iff {s : Surroundings} {words : List String} {isVerbose : Bool}
    {file : String} {t : Table}
    (hwords : Request.ofWords? words = .ok (.action isVerbose .list file)) :
    (run s words).table? = some t ↔
      ∃ c, readCollection s (normalPath file) "" = .ok c ∧
        s.console.readTable (tableOf c) = .ok t ∧ isEncodable (s.console.draw t) = true := by
  have hrun : (run s words).table? = (list s (normalPath file)).table? := by
    rw [run, hwords]
    rfl
  rw [hrun]
  constructor
  · intro hlist
    cases hread : readCollection s (normalPath file) "" with
    | error e =>
      simp only [list, hread] at hlist
      cases hlist
    | ok c =>
      cases hshown : s.console.readTable (tableOf c) with
      | error fault =>
        simp only [list, hread, hshown] at hlist
        cases hlist
      | ok shown =>
        simp only [list, hread, hshown, reportShown] at hlist
        split at hlist
        · rename_i hdrawn
          obtain rfl := Option.some.inj hlist
          exact ⟨c, rfl, hshown, hdrawn⟩
        · cases hlist
  · rintro ⟨c, hread, hshown, hdrawn⟩
    simp only [list, hread, hshown, reportShown_of_isEncodable hdrawn]
    rfl

/-- A collection that is read is valid. -/
theorem isValid_of_readCollection {s : Surroundings} {path homepage : String}
    (h : readCollection s path homepage = .ok c) : c.IsValid := by
  obtain ⟨definition, -, hbuild⟩ := bind_eq_ok_iff.mp h
  exact Definition.Collection.isValid_of_build hbuild

/-- Options that give no name, or one of a script, make a text of the scripts that they pick. -/
theorem exists_makes {s : Surroundings} {path : String}
    (hread : readCollection s path o.homepage = .ok c)
    (hnames : o.scripts = [] ∨ ∃ script ∈ c.scripts, o.scripts = [script.name]) :
    ∃ g, o.Makes s path c (c.scripts.filter o.picks) g ∧
      g.code = scriptText c.scripting.dialect c.scripting.wrapping
        (selectionOf (c.scripts.filter o.picks) o.revert) := by
  have hvalid := isValid_of_readCollection hread
  have hchosen := chosenScripts_eq_filter hvalid.distinct hnames
  obtain ⟨g, hg, hcode⟩ := exists_scriptText hvalid o.picks o.revert
  exact ⟨g, ⟨hread, hchosen, hg⟩, hcode⟩

/-- Of a script that is named a text is made. -/
theorem exists_makes_named {s : Surroundings} {path : String} {script : Script}
    (hread : readCollection s path o.homepage = .ok c) (hscript : script ∈ c.scripts)
    (hnamed : o.scripts = [script.name]) (happlied : o.revert = false) :
    ∃ g, o.Makes s path c [script] g ∧
      g.code = scriptText c.scripting.dialect c.scripting.wrapping [⟨script, false⟩] := by
  have hpicked := filter_picks_named (isValid_of_readCollection hread).distinct hscript hnamed
  obtain ⟨g, hmakes, hcode⟩ := exists_makes hread (.inr ⟨script, hscript, hnamed⟩)
  rw [hpicked] at hmakes hcode
  rw [happlied] at hcode
  exact ⟨g, hmakes, hcode⟩

/-- Of a file that can be listed scripts can be made, and what is made agrees with the table. The
table of the collection has rows for its scripts in their order, under different names, and what is
listed shows these rows as the console reads them: as they are, if they have no marks. Options that
give no name, or one that stands in the table of the collection, make a script that has one section
for each of the rows that they ask for, in the order of the rows: all rows, that of the name, or
those of a level, and to be reverted only those that say that they can be. It is delivered exactly
if there is a place for it.

Assumes: the file has been listed. -/
theorem delivers_of_list {s : Surroundings} {listing : List String} {isVerbose : Bool}
    {file : String} {listed : Table}
    (hlisting : Request.ofWords? listing = .ok (.action isVerbose .list file))
    (htable : (run s listing).table? = some listed) :
    ∃ c t, readCollection s (normalPath file) "" = .ok c ∧ t = tableOf c ∧
      List.Forall₂ (IsRowOf c) t.rows c.scripts ∧ (t.rows.map (t.cell "Script")).Nodup ∧
      List.Forall₂ s.console.Shows t.rows listed.rows ∧
      ((∀ text, IsUnmarked text → s.console.read text = .ok text) →
        List.Forall₂ (fun row shown ↦ (∀ cell ∈ row, IsUnmarked cell) → shown = row)
          t.rows listed.rows) ∧
      ∀ (words : List String) (isTold : Bool) (o : CompileOptions),
        Request.ofWords? words = .ok (.action isTold (.compile o) file) → o.homepage = "" →
        (o.scripts = [] ∨ ∃ row ∈ t.rows, o.scripts = [t.cell "Script" row]) →
          ∃ selections text,
            List.Forall₂ (IsSelectionOf c t o) (t.rows.filter (o.asksFor t)) selections ∧
              text = scriptText c.scripting.dialect c.scripting.wrapping selections ∧
              ((run s words).exitCode = 0 ↔ o.HasPlaceFor s text) ∧
              ((run s words).exitCode = 0 → (run s words).Delivers o selections.length text) := by
  obtain ⟨c, hread, hshown, -⟩ := (table?_run_list_eq_some_iff hlisting).mp htable
  have hvalid := isValid_of_readCollection hread
  have hnames := map_cell_rows c
  have hshows := forall₂_shows_of_readTable hshown
  refine ⟨c, _, hread, rfl, forall₂_rows c.actions, hnames ▸ hvalid.distinct, hshows,
    fun hunmarked ↦ hshows.imp fun _ _ hrow ↦ hrow.eq_of_isUnmarked hunmarked, ?_⟩
  intro words isTold o hwords hhomepage hgiven
  have hgivenNames : o.scripts = [] ∨ ∃ script ∈ c.scripts, o.scripts = [script.name] := by
    refine hgiven.imp_right ?_
    rintro ⟨row, hrow, hname⟩
    obtain ⟨script, hscript, hsame⟩ := List.mem_map.mp (hnames ▸ List.mem_map_of_mem hrow)
    exact ⟨script, hscript, hname.trans (by rw [hsame])⟩
  obtain ⟨g, hmakes, hcode⟩ := exists_makes (by rw [hhomepage, hread]) hgivenNames
  refine ⟨_, _, forall₂_selections hvalid.distinct, rfl, ?_⟩
  rw [← hcode]
  exact ⟨hmakes.exitCode_run_eq_zero_iff hwords, hmakes.delivers_run hwords⟩

/-- Words that ask for a list of the scripts in a file. -/
theorem ofWords?_list : Request.ofWords? ["list", "c"] = .ok (.action false .list "c") :=
  eq_ok_of_toOption (by decide)

theorem normalPath_collection : normalPath "c" = "c" := by decide

/-- A name with a mark for a style and a control sequence in it. -/
def markedName : String := "[b]X\x1b[m"

/-- A script with that name. -/
def markedScript : Script := ⟨markedName, [], none, ⟨"x", some "y"⟩⟩

/-- A script with half of a character in its code. -/
def halfScript : Script := ⟨"Y", [], none, ⟨String.ofList (Text.ofCode 0xd800), none⟩⟩

/-- The text of a collection of both. -/
def markedText : String := "scripting:
  language: batchfile
actions:
- name: A
  children:
  - name: \"[b]X\\e[m\"
    code: x
    revertCode: y
  - name: Y
    code: \"\\ud800\"
"

/-- A file with the text, and a console that knows the mark. -/
def markedSurroundings : Surroundings where
  files := [("c", markedText)]
  date := ⟨2024, 5, 17⟩
  isDebug := false
  console :=
    { Console.plain with read := fun text ↦ .ok (if text = markedName then "X\x1b[m" else text) }

/-- What is put around the scripts. -/
def markedWrapping : Wrapping := ⟨.text "batchfile", "", ""⟩

/-- The table with the names of scripts in its rows. -/
def namesTable (names : List (String × String)) : Table where
  title := "collection (batchfile)"
  columns := ["Category", "Script", "Level", "Revert"]
  rows := names.map fun (name, revert) ↦ ["A", name, "", revert]

theorem exists_marked : ∃ c, readCollection markedSurroundings "c" "" = .ok c ∧
    tableOf c = namesTable [(markedName, "yes"), ("Y", "")] ∧
    c.scripts = [markedScript, halfScript] ∧ c.scripting = ⟨.batch, "bat", "", ""⟩ := by
  have hparts : (readCollection markedSurroundings "c" "").toOption.map
      (fun c ↦ (tableOf c, c.scripts, c.scripting)) =
        some (namesTable [(markedName, "yes"), ("Y", "")], [markedScript, halfScript],
          ⟨.batch, "bat", "", ""⟩) := by
    have hfile : markedSurroundings.files.lookup "c" = some markedText := rfl
    rw [readCollection,
      readDefinition_of_lookup hfile (by rw [markedText, String.toList_ofList])]
    decide +kernel
  obtain ⟨c, hread, hc⟩ := exists_eq_ok_of_map_toOption hparts
  simp only [Prod.mk.injEq] at hc
  exact ⟨c, hread, hc⟩

/-- The console shows the names without the mark. -/
theorem table?_run_marked : (run markedSurroundings ["list", "c"]).table? =
    some (namesTable [("X\x1b[m", "yes"), ("Y", "")]) := by
  obtain ⟨c, hread, hrows, -⟩ := exists_marked
  refine (table?_run_list_eq_some_iff ofWords?_list).mpr ⟨c, ?_, ?_, ?_⟩
  · rw [normalPath_collection, hread]
  · rw [hrows]
    rfl
  · simp only [isEncodable, markedSurroundings, Console.plain, String.toList_ofList]
    decide +kernel

/-- Of the two scripts the one whose row says so is reverted. -/
theorem delivers_of_list_revert :
    Request.ofWords? ["list", "c"] = .ok (.action false .list "c") ∧
      (run markedSurroundings ["list", "c"]).table? =
        some (namesTable [("X\x1b[m", "yes"), ("Y", "")]) ∧
      (run markedSurroundings ["compile", "c", "--revert"]).exitCode = 0 ∧
      (run markedSurroundings ["compile", "c", "--revert"]).Delivers ⟨[], none, true, none, ""⟩ 1
        (scriptText .batch markedWrapping [⟨markedScript, true⟩]) := by
  obtain ⟨c, t, hread, rfl, -, -, -, -, hmade⟩ := delivers_of_list ofWords?_list table?_run_marked
  obtain ⟨selections, text, hselections, rfl, hsucceeds, hdelivers⟩ := hmade
    ["compile", "c", "--revert"] false ⟨[], none, true, none, ""⟩
    (eq_ok_of_toOption (by decide +kernel)) rfl (.inl rfl)
  obtain ⟨c', hread', hrows, hscripts, hscripting⟩ := exists_marked
  rw [normalPath_collection, hread'] at hread
  obtain rfl := Except.ok.inj hread
  have hone : selections = [⟨markedScript, true⟩] := by
    have hasked : (tableOf c').rows.filter
        (CompileOptions.asksFor ⟨[], none, true, none, ""⟩ (tableOf c')) =
          [["A", markedName, "", "yes"]] := by
      rw [hrows]
      decide
    rw [hasked] at hselections
    obtain ⟨⟨script, revert⟩, others, hselection, hnone, rfl⟩ :=
      List.forall₂_cons_left_iff.mp hselections
    obtain rfl := List.forall₂_nil_left_iff.mp hnone
    obtain rfl : revert = true := hselection.revert
    have hfound : c'.find? markedName = some script := hselection.script
    rw [Collection.find?, hscripts] at hfound
    obtain rfl : markedScript = script := Option.some.inj hfound
    rfl
  rw [hone, hscripting] at hsucceeds hdelivers
  have hencodable : isEncodable (scriptText .batch markedWrapping [⟨markedScript, true⟩]) =
      true := by
    rw [isEncodable_scriptText _ _ (List.cons_ne_nil _ _)]
    decide
  have hzero := hsucceeds.mpr ⟨hencodable, fun _ hnone ↦ by cases hnone⟩
  exact ⟨ofWords?_list, table?_run_marked, hzero, hdelivers hzero⟩

/-- A script is made of the one whose name has a control sequence, and it is not printed as it
is. -/
theorem makes_marked :
    Request.ofWords? ["compile", "c", "-s", markedName] =
        .ok (.action false (.compile ⟨[markedName], none, false, none, ""⟩) "c") ∧
      ∃ c g, CompileOptions.Makes ⟨[markedName], none, false, none, ""⟩ markedSurroundings
          (normalPath "c") c [markedScript] g ∧
        g.code = scriptText .batch markedWrapping [⟨markedScript, false⟩] ∧
        (run markedSurroundings ["compile", "c", "-s", markedName]).exitCode = 0 ∧
        (run markedSurroundings ["compile", "c", "-s", markedName]).stdout ≠ g.code ++ "\n" := by
  have hwords : Request.ofWords? ["compile", "c", "-s", markedName] =
      .ok (.action false (.compile ⟨[markedName], none, false, none, ""⟩) "c") :=
    eq_ok_of_toOption (by decide)
  obtain ⟨c, hread, -, hscripts, hscripting⟩ := exists_marked
  obtain ⟨g, hmakes, hcode⟩ := exists_makes_named (o := ⟨[markedName], none, false, none, ""⟩)
    hread (show markedScript ∈ c.scripts by simp [hscripts]) rfl rfl
  have htext : g.code = scriptText .batch markedWrapping [⟨markedScript, false⟩] := by
    rw [hcode, hscripting]
    rfl
  have hencodable : isEncodable g.code = true := by
    rw [htext, isEncodable_scriptText _ _ (List.cons_ne_nil _ _)]
    decide
  have hsequence : Text.HasSequence g.code.toList := by
    have hline : "echo --- [b]X\x1b[m" ∈ Selection.lines .batch ⟨markedScript, false⟩ := by
      decide
    obtain ⟨before, after, hparts⟩ :=
      exists_eq_scriptText markedWrapping (List.mem_singleton_self _) hline
    rw [htext, hparts, String.toList_append, String.toList_append]
    exact Text.HasSequence.append
      ⟨"echo --- [b]X".toList, _, by decide, [], 'm', [], rfl, by simp, by decide⟩ _ _
  rw [← normalPath_collection] at hmakes
  have hplace : CompileOptions.HasPlaceFor ⟨[markedName], none, false, none, ""⟩ markedSurroundings
      g.code := ⟨hencodable, fun _ hnone ↦ by cases hnone⟩
  have hzero := (hmakes.exitCode_run_eq_zero_iff hwords).mpr hplace
  obtain ⟨-, -, hexact⟩ := (hmakes.delivers_run hwords hzero).printed rfl
  exact ⟨hwords, c, g, hmakes, htext, hzero, fun hstdout ↦ hexact.mp hstdout hsequence⟩

/-- A file can be listed of which no script is made of all that is in the table, since a code has
half of a character; of which the script that is made of a single row is not printed as it is, since
its name has a control sequence; and of which no script is made of a name that the table shows,
since it is what the console reads of another one. -/
theorem undelivered_of_list :
    (run markedSurroundings ["list", "c"]).table? =
        some (namesTable [("X\x1b[m", "yes"), ("Y", "")]) ∧
      (run markedSurroundings ["compile", "c"]).exitCode ≠ 0 ∧
      ((run markedSurroundings ["compile", "c", "-s", markedName]).exitCode = 0 ∧
        (run markedSurroundings ["compile", "c", "-s", markedName]).stdout ≠
          scriptText .batch markedWrapping [⟨markedScript, false⟩] ++ "\n") ∧
      (run markedSurroundings ["compile", "c", "-s", "X\x1b[m"]).exitCode ≠ 0 := by
  refine ⟨table?_run_marked, ?_, ?_, ?_⟩
  · have hwords : Request.ofWords? ["compile", "c"] =
        .ok (.action false (.compile ⟨[], none, false, none, ""⟩) "c") :=
      eq_ok_of_toOption (by decide)
    obtain ⟨c, hread, -, hscripts, hscripting⟩ := exists_marked
    obtain ⟨g, hmakes, hcode⟩ :=
      exists_makes (o := ⟨[], none, false, none, ""⟩) hread (.inl rfl)
    have htext : g.code =
        scriptText .batch markedWrapping [⟨markedScript, false⟩, ⟨halfScript, false⟩] := by
      rw [hcode, hscripts, hscripting]
      rfl
    have hhalf : isEncodable g.code = false := by
      rw [htext, isEncodable_scriptText _ _ (List.cons_ne_nil _ _)]
      decide
    rw [← normalPath_collection] at hmakes
    rw [Ne, hmakes.exitCode_run_eq_zero_iff hwords]
    exact fun hplace ↦ Bool.false_ne_true (hhalf.symm.trans hplace.1)
  · obtain ⟨-, c, g, -, htext, hzero, hstdout⟩ := makes_marked
    exact ⟨hzero, htext ▸ hstdout⟩
  · have hwords : Request.ofWords? ["compile", "c", "-s", "X\x1b[m"] =
        .ok (.action false (.compile ⟨["X\x1b[m"], none, false, none, ""⟩) "c") :=
      eq_ok_of_toOption (by decide)
    obtain ⟨c, hread, -, hscripts, -⟩ := exists_marked
    have hunknown : chosenScripts c ⟨["X\x1b[m"], none, false, none, ""⟩ =
        .error (.unknownScript "X\x1b[m") := by
      have hnone : c.find? "X\x1b[m" = none := by
        rw [Collection.find?, hscripts]
        decide
      simp [chosenScripts, scriptsNamed, hnone]
    rw [run_eq_compile hwords, normalPath_collection,
      compile_of_misuse (o := ⟨["X\x1b[m"], none, false, none, ""⟩) hread hunknown]
    exact Nat.succ_ne_zero 1

end Command

end Scriptorium
