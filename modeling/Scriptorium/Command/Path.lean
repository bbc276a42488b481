import Scriptorium.Fault
import Scriptorium.Text.Blank
import Scriptorium.Text.Surrogate

/-!
# Paths of files

Paths are written with slashes. Empty parts and parts of a single dot do not count, and a part of
two dots leads to the folder above. Folders are known by the files in them; a name that ends in a
slash stands for a folder that may be empty. Of the folders above the working folder nothing is
known but that they are there.
-/

set_option autoImplicit false
set_option relaxedAutoImplicit false

namespace Scriptorium.Command

/-- The parts of a path that count. -/
def pathParts (path : List Char) : List (List Char) :=
  (Text.runs (· != '/') path).filter (· != ['.'])

/-- What a path begins with: nothing, a slash, or exactly two slashes. -/
def pathRoot : List Char → List Char
  | ['/', '/'] => ['/', '/']
  | '/' :: '/' :: c :: _ => if c == '/' then ['/'] else ['/', '/']
  | '/' :: _ => ['/']
  | _ => []

/-- A path in its shortest form; one without parts is a dot, and one from the root stays so. -/
def normalPath (path : String) : String :=
  let joined := pathRoot path.toList ++ ['/'].intercalate (pathParts path.toList)
  if joined.isEmpty then "." else String.ofList joined

/-- A place among folders: the way down to it, the last part first, from the working folder, from a
number of folders above that, or from the root. -/
structure Place where
  above : Option Nat
  down : List (List Char)
  deriving DecidableEq, Repr

namespace Place

/-- Where a path starts. -/
def start (path : String) : Place := ⟨if (pathRoot path.toList).isEmpty then some 0 else none, []⟩

/-- The way down to a place. -/
def name (p : Place) : String := String.ofList (['/'].intercalate p.down.reverse)

/-- The name of a place in the working folder. -/
def localName? (p : Place) : Option String := if p.above == some 0 then some p.name else none

/-- Whether a file is in a folder. -/
def isWithin (folder file : String) : Bool := (folder ++ "/").toList.isPrefixOf file.toList

/-- Whether a place is one of some files. -/
def isFile (p : Place) (files : List String) : Bool :=
  (p.localName?.map files.contains).getD false

/-- Whether a place is a folder: the working folder, one above it, or one that holds some file. -/
def isFolder (p : Place) (files : List String) : Bool :=
  p.down.isEmpty || (p.localName?.map fun name ↦ files.any (isWithin name)).getD false

/-- The place that a part leads to. -/
def step (p : Place) (part : List Char) : Place :=
  if part == ['.', '.'] then
    match p.down with
    | [] => ⟨p.above.map (· + 1), []⟩
    | _ :: rest => ⟨p.above, rest⟩
  else ⟨p.above, part :: p.down⟩

/-- The place that parts lead to, each but the last to a folder. -/
def walk? (files : List String) : Place → List (List Char) → Option Place
  | p, [] => some p
  | p, part :: rest => if p.isFolder files then walk? files (p.step part) rest else none

/-- The place that parts lead to and the files besides the folders on the way, which are made where
they are missing. A file on the way is a fault. -/
def make (files : List String) : Place → List (List Char) → Except Fault (Place × List String)
  | p, [] => .ok (p, files)
  | p, part :: rest =>
    let q := p.step part
    if q.isFile files then .error (if rest.isEmpty then .fileExists else .notFolder)
    else make ((q.localName?.map (· ++ "/")).toList ++ files) q rest

end Place

/-- How many bytes the name of a file can have. -/
def nameLimit : Nat := 255

/-- How many bytes a part of a path has. A half of a character is one. -/
def byteCount (part : List Char) : Nat :=
  (Text.codes part).foldl
    (fun count n ↦ count + if Text.isSurrogate n then 1 else (Char.ofNat n).utf8Size) 0

/-- Whether some part of a path is too long for the name of a file. -/
def hasLongPart (path : String) : Bool :=
  (pathParts path.toList).any fun part ↦ nameLimit < byteCount part

/-- Whether a path can be written as bytes. Of the halves of characters only some stand for
bytes. -/
def hasBytes (path : String) : Bool :=
  path.toList.all fun c ↦ !Text.isHalf c || Text.isByteHalf c

/-- The name in the working folder of the file that a path leads to. -/
def existing? (files : List String) (path : String) : Except Fault (Option String) :=
  if !hasBytes path then .ok none
  else if hasLongPart path then .error .nameTooLong
  else
    match Place.walk? files (.start path) (pathParts path.toList) with
    | some p =>
      if p.isFolder files then .error .notFile
      else .ok (if p.isFile files then p.localName? else none)
    | none => .ok none

/-- The place of a file to be written, with the folders on the way made. -/
def writable? (files : List String) (path : String) : Except Fault Place := do
  if !hasBytes path then throw .unencodable
  if path.toList.contains (Char.ofNat 0) then throw .badValue
  if hasLongPart path then throw .nameTooLong
  let parts := pathParts path.toList
  let (folder, made) ← Place.make files (.start path) parts.dropLast
  match parts.getLast? with
  | none => throw .notFile
  | some part =>
    if (folder.step part).isFolder made then throw .notFile
    else return folder.step part

end Scriptorium.Command
