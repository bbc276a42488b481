import Mathlib.Data.List.Nodup
import Scriptorium.Definition.Model

/-!
# Definitions that are written and read again

What is written of a definition is read as the same definition. A field can go by several names in a
raw value and is written under one of them; texts, truth values, lists and mappings are written as
values of these kinds, whatever they were read from. So every field has to be among the names that
its reader knows, and no written field may make a script look like a category.

A written record has each field under its name (`get?_written`), and a field is read as what its
reader makes of the value there (`field_written`). Each kind of value is read back by itself
(`optional_text_textValue`, `items_map`, `mapping_toRecord`), and each record from its fields.
Children are read back by induction on the tree of a category, in whatever categories they stand
(`Child.read_dump`). `Kind.load?_dump` is the whole, for the seven kinds of definitions.
-/

set_option autoImplicit false
set_option relaxedAutoImplicit false

namespace Scriptorium.Definition

/-! ### Readings -/

section Readings

variable {α β : Type}

@[simp] theorem map_accepted (f : α → β) (a : α) :
    f <$> Reading.accepted a = .accepted (f a) := rfl

@[simp] theorem seq_accepted (f : α → β) (a : α) :
    Reading.accepted f <*> Reading.accepted a = .accepted (f a) := rfl

@[simp] theorem below_accepted (key : String) (a : α) :
    (Reading.accepted a).below key = .accepted a := rfl

/-- The entries that fields are written as. -/
def written (fields : List (String × Value)) : List (Value × Value) :=
  fields.map fun (name, v) ↦ (.text name, v)

/-- The value of a field that is written is what was written under its name. -/
@[simp] theorem get?_written (fields : List (String × Value)) (name : String) :
    Value.get? (written fields) name = fields.lookup name := by
  induction fields with
  | nil => rfl
  | cons field rest ih =>
    obtain ⟨n, v⟩ := field
    have hkey : (Value.text n).sameKey (.text name) = (name == n) := by
      rw [Value.sameKey, Bool.beq_comm]
    rw [Value.get?, written] at ih
    rw [written, List.map_cons, Value.get?, List.find?_cons, hkey, List.lookup_cons]
    cases name == n with
    | true => rfl
    | false => exact ih

/-- A record is read from the fields that are written. -/
@[simp] theorem record_toRecord (read : List (Value × Value) → Reading α)
    (fields : List (String × Value)) :
    record read (toRecord fields) = read (written fields) := rfl

@[simp] theorem optional_null (read : Value → Reading α) :
    optional read .null = .accepted none := rfl

/-- A value that is there is read as what its reader makes of it. -/
theorem optional_of_accepted {read : Value → Reading α} {v : Value} {a : α} (hv : v ≠ .null)
    (h : read v = .accepted a) : optional read v = .accepted (some a) := by
  rw [optional.eq_2 _ _ hv, h, map_accepted]

end Readings

/-! ### Values -/

@[simp] theorem optional_text_textValue (s : Option String) :
    optional text (textValue s) = .accepted s := by
  cases s <;> rfl

@[simp] theorem optional_bool_boolValue (b : Option Bool) :
    optional bool (boolValue b) = .accepted b := by
  cases b <;> rfl

/-- Items that are each read back are read back as a list, whatever the number of the first. -/
theorem items_map {α : Type} {read : Value → Reading α} (dump : α → Value)
    (h : ∀ a, read (dump a) = .accepted a) (i : Nat) (as : List α) :
    Reading.items read i (as.map dump) = .accepted as := by
  induction as generalizing i with
  | nil => rfl
  | cons a rest ih => simp [Reading.items, h, ih]

theorem listOf_map {α : Type} {read : Value → Reading α} (dump : α → Value)
    (h : ∀ a, read (dump a) = .accepted a) (as : List α) :
    listOf read (.list (as.map dump)) = .accepted as := items_map dump h 0 as

/-- Pairs with new names that differ are put at the end of a mapping as they are. -/
theorem Mapping.entries_foldl_set {m : Mapping} {pairs : List (String × Value)}
    (h : (entryNames (m.entries ++ pairs)).Nodup) :
    (pairs.foldl (fun m pair ↦ m.set pair.1 pair.2) m).entries = m.entries ++ pairs := by
  induction pairs generalizing m with
  | nil => exact (List.append_nil _).symm
  | cons pair rest ih =>
    have hnew : pair.1 ∉ entryNames m.entries := by
      rw [entryNames, List.map_append, List.map_cons] at h
      exact fun hmem ↦ List.disjoint_of_nodup_append h hmem List.mem_cons_self
    have hset : (m.set pair.1 pair.2).entries = m.entries ++ [pair] :=
      setEntry_of_not_mem hnew pair.2
    rw [List.foldl_cons, ih (by rw [hset, List.append_assoc]; exact h), hset, List.append_assoc]
    rfl

/-- The entries of a mapping make the mapping. -/
theorem Mapping.ofPairs_entries (m : Mapping) : ofPairs m.entries = m :=
  Mapping.ext (entries_foldl_set (m := empty) m.nodup)

theorem textKeys_written (pairs : List (String × Value)) :
    textKeys (written pairs) = .accepted pairs := by
  induction pairs with
  | nil => rfl
  | cons pair rest ih =>
    rw [written] at ih
    simp [written, textKeys, text, ih]

@[simp] theorem mapping_toRecord (m : Mapping) : mapping (toRecord m.entries) = .accepted m := by
  show Mapping.ofPairs <$> textKeys (written m.entries) = .accepted m
  rw [textKeys_written, map_accepted, Mapping.ofPairs_entries]

/-! ### Records -/

theorem Parameter.read_dump (p : Parameter) : Parameter.read p.dump = .accepted p := by
  simp [read, dump, field, firstField?, List.lookup_cons]

theorem Call.read_dump (c : Call) : Call.read c.dump = .accepted c := by
  have hparameters (m : Mapping) : optional mapping (toRecord m.entries) = .accepted (some m) :=
    optional_of_accepted nofun (mapping_toRecord m)
  obtain ⟨function, _ | m⟩ := c <;>
    simp [read, dump, field, firstField?, List.lookup_cons, hparameters]

/-- A list is no record, so calls that are listed are read as a list. -/
@[simp] theorem optional_callsValue (calls : Option Calls) :
    optional Calls.read (callsValue calls) = .accepted calls := by
  rcases calls with _ | call | calls
  · rfl
  · refine optional_of_accepted nofun ?_
    show Calls.read call.dump = .accepted (.one call)
    rw [Calls.read, Call.read_dump]
    rfl
  · refine optional_of_accepted nofun ?_
    show Calls.read (.list (calls.map Call.dump)) = .accepted (.many calls)
    rw [Calls.read, listOf_map Call.dump Call.read_dump]
    rfl

@[simp] theorem optional_docsValue (docs : Option Docs) :
    optional Docs.read (docsValue docs) = .accepted docs := by
  rcases docs with _ | url | urls
  · rfl
  · rfl
  · refine optional_of_accepted nofun ?_
    show Docs.read (.list (urls.map .text)) = .accepted (.many urls)
    rw [Docs.read, listOf_map Value.text fun _ ↦ rfl]
    rfl

theorem Function.read_dump (f : Function) : Function.read f.dump = .accepted f := by
  simp [read, dump, field, firstField?, List.lookup_cons,
    listOf_map Parameter.dump Parameter.read_dump]

theorem Script.read_dump (s : Script) : Script.read s.dump = .accepted s := by
  simp [read, readEntries, dump, field, firstField?, List.lookup_cons]

theorem Scripting.read_dump (s : Scripting) : Scripting.read s.dump = .accepted s := by
  simp [read, dump, field, firstField?, List.lookup_cons]

/-! ### Categories -/

theorem readHead_written (name : Option String) (docs : Option Docs) (children : Value) :
    Category.readHead
        (written [("name", textValue name), ("docs", docsValue docs), ("children", children)]) =
      .accepted (Category.mk name docs) := by
  simp [Category.readHead, field, firstField?, List.lookup_cons]

mutual

/-- A child of a category is read back, whatever categories it stands in: a category is written with
its children, even if it has none, and a script without any. -/
theorem Child.read_dump (above : List Nat) : ∀ c : Child, Child.read above c.dump = .accepted c
  | .script s => by
    have hscript : Script.readEntries (written _) = .accepted s := s.read_dump
    show Child.ofEntries (written _) _ = .accepted (.script s)
    rw [Child.ofEntries, if_neg (by simp [isCategory, List.lookup_cons]), hscript]
    rfl
  | .category name docs children => by
    show Child.ofEntries (written _)
        ((readChildren above (dumpChildren children)).below "children") =
      .accepted (.category name docs children)
    rw [Child.ofEntries, if_pos (by simp [isCategory, List.lookup_cons]), readHead_written,
      readChildren_dumpChildren above children]
    rfl

/-- The children of a category are read back. -/
theorem readChildren_dumpChildren (above : List Nat) :
    ∀ children : Option (List Child),
      readChildren above (dumpChildren children) = .accepted children
  | none => rfl
  | some children => by
    show some <$> readChildItems above 0 (dumpAll children) = .accepted (some children)
    rw [readChildItems_dumpAll above 0 children, map_accepted]

/-- Children are read back, whatever the number of the first. -/
theorem readChildItems_dumpAll (above : List Nat) (i : Nat) :
    ∀ children : List Child, readChildItems above i (dumpAll children) = .accepted children
  | [] => rfl
  | c :: rest => by
    rw [dumpAll, readChildItems, c.read_dump above, readChildItems_dumpAll above (i + 1) rest]
    rfl

end

theorem Category.read_dump (c : Category) : Category.read c.dump = .accepted c := by
  show Category.readHead (written _) <*>
    (readChildren [] (dumpChildren c.children)).below "children" = .accepted c
  rw [readHead_written, readChildren_dumpChildren [] c.children]
  rfl

theorem Collection.read_dump (c : Collection) : Collection.read c.dump = .accepted c := by
  have hscripting (s : Scripting) : optional Scripting.read s.dump = .accepted (some s) :=
    optional_of_accepted nofun s.read_dump
  obtain ⟨os, _ | scripting, functions, actions⟩ := c <;>
    simp [read, dump, field, firstField?, List.lookup_cons, hscripting,
      listOf_map Function.dump Function.read_dump, listOf_map Category.dump Category.read_dump]

/-! ### All definitions -/

/-- The kinds of definitions. -/
inductive Kind where
  | parameter
  | call
  | function
  | script
  | category
  | scripting
  | collection

namespace Kind

/-- The definitions of a kind. -/
def Model : Kind → Type
  | parameter => Parameter
  | call => Call
  | function => Function
  | script => Script
  | category => Category
  | scripting => Scripting
  | collection => Collection

/-- What a raw value is refused as that is no definition of a kind. -/
def title : Kind → String
  | parameter => "ParameterDefinition"
  | call => "FunctionCallDefinition"
  | function => "FunctionDefinition"
  | script => "ScriptDefinition"
  | category => "CategoryDefinition"
  | scripting => "ScriptingDefinitionData"
  | collection => "CollectionDefinition"

/-- Reads a definition of a kind. -/
def read : (k : Kind) → Value → Reading k.Model
  | parameter => Parameter.read
  | call => Call.read
  | function => Function.read
  | script => Script.read
  | category => Category.read
  | scripting => Scripting.read
  | collection => Collection.read

/-- A definition of a kind as a raw value. -/
def dump : (k : Kind) → k.Model → Value
  | parameter => Parameter.dump
  | call => Call.dump
  | function => Function.dump
  | script => Script.dump
  | category => Category.dump
  | scripting => Scripting.dump
  | collection => Collection.dump

/-- The definition of a kind that a raw value is accepted as. -/
def load? (k : Kind) (v : Value) : Except Error k.Model := accept k.title (k.read v)

theorem read_dump (k : Kind) (d : k.Model) : k.read (k.dump d) = .accepted d :=
  match k with
  | parameter => Parameter.read_dump d
  | call => Call.read_dump d
  | function => Function.read_dump d
  | script => Script.read_dump d
  | category => Category.read_dump d
  | scripting => Scripting.read_dump d
  | collection => Collection.read_dump d

/-- What is written of a definition is accepted as the same definition, of whatever kind it is and
whatever it was read from: to write what a raw value is accepted as and to load it again comes to
the same as to load the raw value. So it is for every child of a category, however deep: what is
written of a script is read as this script, and what is written of a category as this category with
its children. -/
theorem load?_dump (k : Kind) :
    (∀ d : k.Model, k.load? (k.dump d) = .ok d) ∧
      (∀ v : Value, (k.load? v >>= fun d ↦ k.load? (k.dump d)) = k.load? v) ∧
      ∀ (above : List Nat) (c : Child), Child.read above c.dump = .accepted c := by
  have hload (d : k.Model) : k.load? (k.dump d) = .ok d := by
    rw [load?, read_dump]
    rfl
  refine ⟨hload, fun v ↦ ?_, Child.read_dump⟩
  cases k.load? v with
  | error e => rfl
  | ok d => exact hload d

/-- A category without children and a script are told apart by the names of their fields. -/
example :
    Category.read (.map [(.text "category", .text "System"), (.text "children", .list
        [.map [(.text "category", .text "Files")],
          .map [(.text "name", .text "Clean"), (.text "revertCode", .text "undo")]])]) =
      .accepted ⟨some "System", none, some
        [.category (some "Files") none none,
          .script ⟨some "Clean", none, none, some "undo", none, none⟩]⟩ := rfl

end Kind

end Scriptorium.Definition
