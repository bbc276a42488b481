import Scriptorium.Command
import Std.Time.DateTime.Timestamp

/-!
# The program

Reads the file that a command line names, does what the command line asks for, and prints and writes
what comes of it.
-/

set_option autoImplicit false
set_option relaxedAutoImplicit false

namespace Scriptorium.Program

open Command

/-- Today in universal time. -/
def today : IO Date := do
  let now ← Std.Time.Timestamp.now
  return .ofNumber (Date.number ⟨1970, 1, 1⟩ + now.toSecondsSinceUnixEpoch.val.toNat / 86400)

/-- A text of characters as one that can hold halves of them. -/
def taken (text : String) : String :=
  String.ofList (text.toList.flatMap fun c ↦ Text.ofCode c.toNat)

/-- The characters of a text without halves of them. -/
def given (text : String) : String := String.ofList ((Text.codes text.toList).map Char.ofNat)

/-- The file that a command line reads, if there is one. -/
def filesFor (words : List String) : IO (List (String × String)) := do
  match Request.ofWords? words with
  | .ok (.action _ _ file) =>
    let path := normalPath file
    try return [(path, taken (← IO.FS.readFile (given path)))]
    catch _ => return []
  | _ => return []

/-- Prints what a misuse is told by. -/
def printMisuse (fault : UsageFault) : IO Unit :=
  match fault.message? with
  | some message => IO.eprintln (given message)
  | none => IO.eprint (usageLine .program)

/-- Writes a file, with the folders above it. -/
def writeOut (path text : String) : IO Unit := do
  let folders := (path.splitOn "/").dropLast
  if !folders.isEmpty then IO.FS.createDirAll (String.intercalate "/" folders)
  IO.FS.writeFile path text

/-- Does what a command line asks for and gives the code to exit with. -/
def execute (arguments : List String) : IO UInt32 := do
  let words := arguments.map taken
  let files ← filesFor words
  let isDebug := ((← IO.getEnv "TWEAKSCRIPT_DEBUG").getD "") != ""
  let report := run ⟨files, ← today, isDebug, .plain⟩ words
  for record in report.logs do
    IO.eprintln (record.level.name ++ " " ++ given record.text)
  if let some file := report.written then writeOut (given file.path) (given file.text)
  match report.display with
  | .misuse fault => printMisuse fault
  | _ =>
    IO.print (given report.stdout)
    IO.eprint (given report.stderr)
    if !report.stderr.isEmpty && !report.stderr.endsWith "\n" then IO.eprintln ""
  return report.exitCode.toUInt32

end Scriptorium.Program

/-- Runs the program. -/
def main (words : List String) : IO UInt32 := Scriptorium.Program.execute words
