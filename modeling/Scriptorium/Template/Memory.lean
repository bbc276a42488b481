import Scriptorium.Template.Relation
import Scriptorium.Text.Compatibility

/-!
# What rendering remembers

While a template is rendered, the values of names are kept in cells, one for each name at each level
of frames, where names that are the same in their compatibility forms share a cell. Lists and
dictionaries that were changed in place are remembered under their numbers, so that a value read
from a cell is the current one, and so are the values with which a loop was asked last whether they
changed.
-/

set_option autoImplicit false
set_option relaxedAutoImplicit false

namespace Scriptorium.Template

/-- Where the value of a name is kept: the level of its frame, and the name in its compatibility
form. -/
structure Cell where
  level : Nat
  name : List Char
  deriving DecidableEq, Repr

/-- The cell of a name at a level. -/
def Cell.ofName (level : Nat) (name : String) : Cell := ⟨level, Text.compatible name.toList⟩

/-- What rendering remembers. -/
structure Memory where
  cells : List (Cell × Option Item)
  lists : List (Nat × List Item)
  dicts : List (Nat × List (Item × Item))
  asked : List (Nat × List Item)
  next : Nat

/-- The memory before anything is rendered. Numbers count from one. -/
def Memory.empty : Memory := ⟨[], [], [], [], 1⟩

/-- A computation that can fail and uses the memory. -/
abbrev Evaluation := StateT Memory Outcome

/-- The entries with one set. -/
def assocSet {α β : Type} [BEq α] (key : α) (value : β) : List (α × β) → List (α × β)
  | [] => [(key, value)]
  | (k, v) :: rest => if k == key then (key, value) :: rest else (k, v) :: assocSet key value rest

/-- The memory with the value of a cell set, or taken out of it. -/
def Memory.store (m : Memory) (cell : Cell) (value : Option Item) : Memory :=
  { m with cells := assocSet cell value m.cells }

mutual

/-- A value with the current contents of the lists and dictionaries in it, looked up `depth`
deep. -/
def Memory.refresh (m : Memory) : Nat → Item → Item
  | 0, item => item
  | depth + 1, .list n items => .list n (Memory.refreshAll m depth ((m.lists.lookup n).getD items))
  | depth + 1, .tuple items => .tuple (Memory.refreshAll m depth items)
  | depth + 1, .dict n entries =>
    .dict n (Memory.refreshEntries m depth ((m.dicts.lookup n).getD entries))
  | depth + 1, .method owner name => .method (Memory.refresh m depth owner) name
  | _ + 1, item => item
termination_by depth _ => (depth, 0)

/-- Values with the current contents of what is in them. -/
def Memory.refreshAll (m : Memory) : Nat → List Item → List Item
  | _, [] => []
  | depth, item :: rest => Memory.refresh m depth item :: Memory.refreshAll m depth rest
termination_by depth items => (depth, items.length + 1)

/-- Entries with the current contents of their values. -/
def Memory.refreshEntries (m : Memory) : Nat → List (Item × Item) → List (Item × Item)
  | _, [] => []
  | depth, (key, value) :: rest =>
    (key, Memory.refresh m depth value) :: Memory.refreshEntries m depth rest
termination_by depth entries => (depth, entries.length + 1)

end

/-- How deep changed contents are looked up. -/
def refreshDepth : Nat := 32

/-- A value with its current contents. -/
def Memory.current (m : Memory) : Item → Item
  | .text s => .text s
  | item => m.refresh refreshDepth item

/-- The value in a cell, if there is one. -/
def Memory.load? (m : Memory) (cell : Cell) : Option Item :=
  (m.cells.lookup cell).join.map m.current

mutual

/-- A value whose new lists and dictionaries have numbers from the next one on, and the number after
those. -/
def Item.numbered (next : Nat) : Item → Item × Nat
  | .list n items =>
    let (inner, after) := numberedAll next items
    if n == 0 then (.list after inner, after + 1) else (.list n inner, after)
  | .tuple items =>
    let (inner, after) := numberedAll next items
    (.tuple inner, after)
  | .dict n entries =>
    let (inner, after) := numberedEntries next entries
    if n == 0 then (.dict after inner, after + 1) else (.dict n inner, after)
  | item => (item, next)

/-- Values whose new lists and dictionaries have numbers. -/
def numberedAll (next : Nat) : List Item → List Item × Nat
  | [] => ([], next)
  | item :: rest =>
    let (first, after) := item.numbered next
    let (others, last) := numberedAll after rest
    (first :: others, last)

/-- Entries whose values have numbers where they are new lists and dictionaries. -/
def numberedEntries (next : Nat) : List (Item × Item) → List (Item × Item) × Nat
  | [] => ([], next)
  | (key, value) :: rest =>
    let (first, after) := value.numbered next
    let (others, last) := numberedEntries after rest
    ((key, first) :: others, last)

end

/-- A value made by an operation: its new lists and dictionaries get their numbers. -/
def adopt (item : Item) : Evaluation Item := fun m ↦
  let (value, next) := item.numbered m.next
  .ok (value, { m with next })

end Scriptorium.Template
