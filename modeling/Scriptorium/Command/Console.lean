import Scriptorium.Fault

/-!
# Consoles

What commands leave to the console that they show things on: the texts of their help, the marks for
styles that a text of a table can hold, and how a table is drawn. `Console.plain` is a console for
texts without marks and tables without lines to fold.
-/

set_option autoImplicit false
set_option relaxedAutoImplicit false

namespace Scriptorium.Command

/-- A table: a title, the names of the columns, and rows. -/
structure Table where
  title : String
  columns : List String
  rows : List (List String)
  deriving DecidableEq, Repr

/-- What there is help for. -/
inductive Topic where
  | program
  | compile
  | list
  deriving DecidableEq, Repr

/-- What things are shown on: it has texts that help, gives what a text with marks for styles shows,
unless the marks do not fit each other, and draws a table. -/
structure Console where
  help : Topic → String
  read : String → Except Fault String
  draw : Table → String

/-- What a table shows whose title and cells can hold marks. -/
def Console.readTable (k : Console) (t : Table) : Except Fault Table := do
  let title ← k.read t.title
  let rows ← t.rows.mapM fun row ↦ row.mapM k.read
  return { t with title, rows }

/-- The characters that a text with marks needs for them, and those that are never shown. -/
def markCharacters : List Char := ['[', ':', '\x07', '\x08', '\x0b', '\x0c', '\r']

/-- Whether a text holds no marks. -/
def IsUnmarked (text : String) : Prop := ∀ c ∈ text.toList, c ∉ markCharacters

/-! ### Drawing -/

/-- A line of cells between edges. -/
def drawnLine (first between last : Char) (cells : List (List Char)) : List Char :=
  first :: [between].intercalate cells ++ [last, '\n']

/-- The widths that the columns of a table need. -/
def Table.widths (t : Table) : List Nat :=
  t.rows.foldl (fun widths row ↦ List.zipWith max widths (row.map String.length))
    (t.columns.map String.length)

/-- The cells of a row, each filled up to the width of its column. -/
def drawnCells (widths : List Nat) (row : List String) : List (List Char) :=
  List.zipWith (fun width text ↦ (' ' :: text.toList).rightpad (width + 2) ' ') widths row

/-- The characters of a table between lines, its title centered over it. -/
def Table.drawing (t : Table) : List Char :=
  let widths := t.widths
  let bars (c : Char) : List (List Char) := widths.map fun width ↦ List.replicate (width + 2) c
  let width := widths.foldl (· + · + 3) 1
  let title := List.replicate ((width - t.title.length) / 2) ' ' ++ t.title.toList
  title.rightpad width ' ' ++ '\n' ::
    (drawnLine '┏' '┳' '┓' (bars '━') ++ drawnLine '┃' '┃' '┃' (drawnCells widths t.columns) ++
      drawnLine '┡' '╇' '┩' (bars '━') ++
      t.rows.flatMap (fun row ↦ drawnLine '│' '│' '│' (drawnCells widths row)) ++
      drawnLine '└' '┴' '┘' (bars '─'))

/-- The line that tells how a command is used. -/
def usageLine : Topic → String
  | .program => "Usage: tweakscript [OPTIONS] COMMAND [ARGS]...\n"
  | .compile => "Usage: tweakscript compile [OPTIONS] COLLECTION_FILE\n"
  | .list => "Usage: tweakscript list [OPTIONS] COLLECTION_FILE\n"

/-- A console that shows every text as it is. -/
def Console.plain : Console := ⟨usageLine, .ok, fun t ↦ String.ofList t.drawing⟩

example : Table.drawing ⟨"T", ["X"], [["a"]]⟩ =
    "  T  \n┏━━━┓\n┃ X ┃\n┡━━━┩\n│ a │\n└───┘\n".toList := by
  decide +kernel

end Scriptorium.Command
