import Scriptorium.Collection.Document
import Scriptorium.Command.Console
import Scriptorium.Command.Path
import Scriptorium.Command.Request
import Scriptorium.Log
import Scriptorium.Text.ControlSequence
import Scriptorium.Text.Line

/-!
# Running a command

What a command line does, given the files that there are, the date, how much is to be told, and the
console: the text it prints, the file it writes, the table it shows, and the code it exits with.
Halves of characters can be neither printed nor written. A file is opened before its text is
encoded, so that a text with halves leaves it empty, and it is written before that is told, so that
it stays if its path cannot be printed. What is printed goes to no terminal, so control sequences
are left out of it. What a table shows is left to the console.
-/

set_option autoImplicit false
set_option relaxedAutoImplicit false

namespace Scriptorium.Command

/-- What there is before a run. -/
structure Surroundings where
  files : List (String × String)
  date : Date
  isDebug : Bool
  console : Console

/-- What a run prints and shows. A table is shown as a drawing. -/
inductive Display where
  | nothing
  | output (text : String)
  | failure (error : Error)
  | misuse (fault : UsageFault)
  | table (table : Table) (drawing : String)

/-- A file that a run writes: its path, its name if it is in the working folder, and its text. -/
structure WrittenFile where
  path : String
  localName : Option String
  text : String
  deriving DecidableEq, Repr

/-- What a run leaves behind. -/
structure Report where
  display : Display
  logs : List LogRecord
  written : Option WrittenFile

/-- The code that a run exits with. -/
def Report.exitCode (r : Report) : Nat :=
  match r.display with
  | .nothing | .output _ | .table _ _ => 0
  | .failure _ => 1
  | .misuse _ => 2

/-- The version of the program. -/
def programVersion : String := "0.1.0"

/-- The project that scripts are made for. -/
def projectOf (homepage : String) : Project := ⟨"tweakscript", programVersion, homepage⟩

/-- The text of a file. Lines in it can end in any way. -/
def readFile (s : Surroundings) (path : String) : Except Error String :=
  let textOf (name : String) : Option String := s.files.lookup name
  match textOf path, existing? (s.files.map (·.1)) path with
  | some text, _ => .ok (String.ofList (Text.unifyNewlines text.toList))
  | none, .ok name =>
    match name.bind textOf with
    | some text => .ok (String.ofList (Text.unifyNewlines text.toList))
    | none => .error (.load (.noFile path))
  | none, .error fault => .error (.operation fault)

/-- The definition that a file holds. -/
def readDefinition (s : Surroundings) (path : String) : Except Error Definition.Collection := do
  Definition.Collection.ofDocument? (← readFile s path).toList

/-- The definition that a file holds whose characters are known. -/
theorem readDefinition_of_lookup {s : Surroundings} {path text : String} {characters : List Char}
    (h : s.files.lookup path = some text) (htext : text.toList = characters) :
    readDefinition s path =
      Definition.Collection.ofDocument? (Text.unifyNewlines characters) := by
  have hfile : readFile s path = .ok (String.ofList (Text.unifyNewlines characters)) := by
    simp only [readFile, h, htext]
  simp only [readDefinition, hfile, bind, Except.bind, String.toList_ofList]

/-- The collection that a file holds. -/
def readCollection (s : Surroundings) (path homepage : String) : Except Error Collection := do
  let definition ← readDefinition s path
  definition.build (projectOf homepage) s.date

/-- The records of reading a collection. -/
def collectionLog (s : Surroundings) (path homepage : String) : List LogRecord :=
  logOf (readDefinition s path) fun definition ↦ definition.log (projectOf homepage) s.date

/-- The scripts with names, the first name that no script has being a fault. -/
def scriptsNamed (c : Collection) : List String → Except UsageFault (List Script)
  | [] => .ok []
  | name :: rest =>
    match c.find? name with
    | none => .error (.unknownScript name)
    | some s => do return s :: (← scriptsNamed c rest)

/-- The scripts that options ask for: those named, or else those of a level, or else all. -/
def chosenScripts (c : Collection) (o : CompileOptions) : Except UsageFault (List Script) :=
  if o.scripts.isEmpty then
    match o.level with
    | some level => .ok (c.recommended level)
    | none => .ok c.scripts
  else scriptsNamed c o.scripts

/-- The selection of scripts; of those to be reverted only the ones that can be. -/
def selectionOf (scripts : List Script) (revert : Bool) : List Selection :=
  (if revert then scripts.filter (·.canRevert) else scripts).map fun s ↦ ⟨s, revert⟩

/-- The records of scripts that are left out. -/
def skippedLog (scripts : List Script) (revert : Bool) : List LogRecord :=
  if revert then (scripts.filter fun s ↦ !s.canRevert).map fun s ↦ .skipped s.name else []

/-- Whether a text can be encoded: it has no halves of characters. -/
def isEncodable (text : String) : Bool := !text.toList.any Text.isHalf

/-- The report of something to be shown that a text is printed for. -/
def reportShown (display : Display) (text : String) (logs : List LogRecord)
    (written : Option WrittenFile) : Report :=
  if isEncodable text then ⟨display, logs, written⟩
  else ⟨.failure (.operation .unencodable), logs, written⟩

/-- What is told of a number of selections that are written to a path. -/
def countLine (count : Nat) (path : String) : String :=
  "Wrote " ++ Decimal.natText count ++ " script(s) to " ++ path ++ "\n"

/-- The report of a script that is made: printed, or written to a file, which is told. -/
def reportGenerated (s : Surroundings) (g : Generated) (count : Nat) (output : Option String)
    (logs : List LogRecord) : Report :=
  match output with
  | none => reportShown (.output (g.code ++ "\n")) (g.code ++ "\n") logs none
  | some path =>
    let path := normalPath path
    match writable? (s.files.map (·.1)) path with
    | .error fault => ⟨.failure (.operation fault), logs, none⟩
    | .ok place =>
      if isEncodable g.code then
        reportShown (.output (countLine count path)) (countLine count path) logs
          (some ⟨path, place.localName?, g.code⟩)
      else ⟨.failure (.operation .unencodable), logs, some ⟨path, place.localName?, ""⟩⟩

/-- Makes a script from a collection. -/
def compile (s : Surroundings) (o : CompileOptions) (path : String) : Report :=
  let before := collectionLog s path o.homepage
  match readCollection s path o.homepage with
  | .error e => ⟨.failure e, before, none⟩
  | .ok collection =>
    match chosenScripts collection o with
    | .error fault => ⟨.misuse fault, before, none⟩
    | .ok scripts =>
      let selection := selectionOf scripts o.revert
      let wrapping := collection.scripting.wrapping
      let logs := before ++ skippedLog scripts o.revert ++ generationLog selection wrapping
      match Generated.ofSelections? selection wrapping with
      | .error e => ⟨.failure e, logs, none⟩
      | .ok g => reportGenerated s g selection.length o.output logs

/-- The row of a script of a category. -/
def tableRow (category : String) (s : Script) : List String :=
  [category, s.name, (s.level.map Level.name).getD "", if s.canRevert then "yes" else ""]

/-- The table of the scripts of a collection. -/
def tableOf (c : Collection) : Table where
  title := (if c.os = "" then "collection" else c.os) ++ " (" ++ c.scripting.dialect.name ++ ")"
  columns := ["Category", "Script", "Level", "Revert"]
  rows := c.actions.flatMap fun category ↦ category.allScripts.map (tableRow category.name)

/-- Lists the scripts of a collection. What the cells show is left to the console. -/
def list (s : Surroundings) (path : String) : Report :=
  let logs := collectionLog s path ""
  match readCollection s path "" with
  | .error e => ⟨.failure e, logs, none⟩
  | .ok collection =>
    match s.console.readTable (tableOf collection) with
    | .error fault => ⟨.failure (.operation fault), logs, none⟩
    | .ok shown =>
      let drawing := s.console.draw shown
      reportShown (.table shown drawing) drawing logs none

/-- The least level of the records that are told. -/
def logLevel (isDebug isVerbose : Bool) : LogLevel :=
  if isDebug then .debug else if isVerbose then .info else .warning

/-- The report without the records that are not told. -/
def Report.limit (r : Report) (level : LogLevel) : Report :=
  { r with logs := r.logs.filter fun record ↦ level.rank ≤ record.level.rank }

/-- Does what a request asks for. -/
def Request.run (s : Surroundings) : Request → Report
  | .version => ⟨.output ("tweakscript " ++ programVersion ++ "\n"), [], none⟩
  | .help topic => reportShown (.output (s.console.help topic)) (s.console.help topic) [] none
  | .completion => ⟨.failure (.operation .leftOut), [], none⟩
  | .action isVerbose task file =>
    let path := normalPath file
    let report := match task with
      | .compile options => compile s options path
      | .list => list s path
    report.limit (logLevel s.isDebug isVerbose)

/-- Does what a command line asks for. -/
def run (s : Surroundings) (words : List String) : Report :=
  match Request.ofWords? words with
  | .error fault => ⟨.misuse fault, [], none⟩
  | .ok request => request.run s

/-- What a misuse is told by, where it has a text of its own. -/
def UsageFault.message? : UsageFault → Option String
  | .unknownScript name => some ("Invalid value for --script: Script not found: " ++ name)
  | _ => none

/-- A text as it is printed. -/
def printedText (text : String) : String := String.ofList (Text.dropSequences text.toList)

/-- A text as it is printed among errors, where halves of characters are written by their
numbers. -/
def printedError (text : String) : String :=
  String.ofList <| (Text.codes (Text.dropSequences text.toList)).flatMap fun n ↦
    if Text.isSurrogate n then Text.escapeCode n else Text.ofCode n

/-- The text on standard output. -/
def Report.stdout (r : Report) : String :=
  match r.display with
  | .output text => printedText text
  | .table _ drawing => drawing
  | _ => ""

/-- The text on standard error. The problems of a definition and of a document have no line of their
own. -/
def Report.stderr (r : Report) : String :=
  match r.display with
  | .failure (.load (.badShape what problems)) =>
    printedError ("Error: " ++ (LoadFault.badShape what problems).message)
  | .failure (.load .notParsed) => printedError ("Error: " ++ LoadFault.notParsed.message)
  | .failure e => printedError ("Error: " ++ e.message ++ "\n")
  | _ => ""

end Scriptorium.Command
