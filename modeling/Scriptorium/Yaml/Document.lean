import Scriptorium.Value
import Scriptorium.Yaml.Base64
import Scriptorium.Yaml.Node
import Scriptorium.Yaml.Number
import Scriptorium.Yaml.Token.Stream

/-!
# Documents

The value that a document denotes. Collections are taken level by level, so of several scalars that
denote nothing the one that is least deep counts, and of those the first. The entries of a mapping
that is merged into another come before the entries of the other, which replace them.
-/

set_option autoImplicit false
set_option relaxedAutoImplicit false

namespace Scriptorium.Yaml

/-- A failure, and how deep in a document it is found. -/
structure Trouble where
  depth : Nat
  failure : Failure
  deriving DecidableEq, Repr

/-- The value of a part of a document, or the trouble with it. -/
abbrev Meaning (α : Type) := Except Trouble α

/-- A part of a document that is malformed. -/
def malformedAt {α : Type} (depth : Nat) : Meaning α := .error ⟨depth, .malformed⟩

/-- Two parts of a document. Of troubles with both the less deep one counts. -/
def Meaning.both {α β : Type} (a : Meaning α) (b : Meaning β) : Meaning (α × β) :=
  match a, b with
  | .ok a, .ok b => .ok (a, b)
  | .error t, .ok _ => .error t
  | .ok _, .error u => .error u
  | .error t, .error u => .error (if u.depth < t.depth then u else t)

/-! ### Scalars -/

/-- The truth value of a word in lower case. -/
def boolOf? (word : String) : Option Bool :=
  if ["yes", "true", "on"].contains word then some true
  else if ["no", "false", "off"].contains word then some false
  else none

/-- The day or the time that a text denotes. -/
def timestampOf (text : List Char) : Outcome Value :=
  match timestamp? text with
  | none => .error (.fault .noMember)
  | some t =>
    let date : Date := ⟨t.year, t.month, t.day⟩
    match t.clock with
    | none => if date.isValid then .ok (.date date) else .error (.fault .badValue)
    | some c =>
      let instant : Instant :=
        ⟨date, c.hour, c.minute, c.second, microseconds c.fraction, c.zone.map Zone.seconds⟩
      if instant.isValid then .ok (.instant instant) else .error (.fault .badValue)

/-- The value of a scalar with a tag. -/
def scalarValue (tag : Tag) (text : List Char) : Outcome Value :=
  match tag with
  | .text => .ok (.text (String.ofList text))
  | .null => .ok .null
  | .bool =>
    match boolOf? (String.ofList (Text.lowercase text)) with
    | some b => .ok (.bool b)
    | none => .error (.fault .unknownKey)
  | .int => .int <$> intOf text
  | .float => .float <$> floatOf text
  | .timestamp => timestampOf (if timestamp? text |>.isSome then text else dropFinalNewline text)
  | .binary =>
    match decodeBytes? text with
    | some bytes => .ok (.bytes bytes)
    | none => malformed
  | _ => malformed

/-! ### Entries of mappings -/

/-- The tag of a node. -/
def Node.tag : Node → Tag
  | .scalar tag _ | .sequence tag _ | .mapping tag _ => tag
  | .knot _ _ content => content.tag
  | .back _ => .unknown

/-- A key, where a sign for the value itself is a text like any other. -/
def Node.asKey : Node → Node
  | .scalar .value text => .scalar .text text
  | node => node

mutual

/-- The entries that are merged into a mapping, and its own entries. -/
def splitEntries : List (Node × Node) → Option (List (Node × Node) × List (Node × Node))
  | [] => some ([], [])
  | (key, value) :: rest =>
    if key.tag == .merge then
      match value.mergedEntries, splitEntries rest with
      | some more, some (merged, own) => some (more ++ merged, own)
      | _, _ => none
    else (splitEntries rest).map fun (merged, own) ↦ (merged, (key.asKey, value) :: own)

/-- The entries that a node gives to the mapping that it is merged into: those of a mapping, or
those of several, the first of which goes before the others. -/
def Node.mergedEntries : Node → Option (List (Node × Node))
  | .mapping _ entries => (splitEntries entries).map fun (merged, own) ↦ merged ++ own
  | .sequence _ items => mergedItems items
  | .knot _ _ content => content.mergedEntries
  | .scalar _ _ | .back _ => none

/-- The entries of mappings, the last mapping first. -/
def mergedItems : List Node → Option (List (Node × Node))
  | [] => some []
  | .mapping _ entries :: rest | .knot _ _ (.mapping _ entries) :: rest =>
    match splitEntries entries, mergedItems rest with
    | some (merged, own), some others => some (others ++ (merged ++ own))
    | _, _ => none
  | _ :: _ => none

end

mutual

/-- The text of a node that is tagged as a scalar. A mapping stands for the value that it marks as
its own. -/
def Node.scalarText? : Node → Option (List Char)
  | .scalar _ text => some text
  | .sequence _ _ | .back _ => none
  | .mapping _ entries => markedText? entries
  | .knot _ _ content => content.scalarText?

/-- The text of the entry that marks the value of a mapping. -/
def markedText? : List (Node × Node) → Option (List Char)
  | [] => none
  | (key, value) :: rest => if key.tag == .value then value.scalarText? else markedText? rest

end

mutual

/-- How many levels a node has. -/
def Node.height : Node → Nat
  | .scalar _ _ | .back _ => 1
  | .sequence _ items => itemsHeight items + 1
  | .mapping _ entries => entriesHeight entries + 1
  | .knot _ _ content => content.height + 1

/-- The most levels of some nodes. -/
def itemsHeight : List Node → Nat
  | [] => 0
  | n :: rest => max n.height (itemsHeight rest)

/-- The most levels of the keys and values of some entries. -/
def entriesHeight : List (Node × Node) → Nat
  | [] => 0
  | (key, value) :: rest => max (max key.height value.height) (entriesHeight rest)

end

/-! ### Values -/

/-- The items of a sequence. -/
def denoteItems (denote : Node → Meaning Value) : List Node → Meaning (List Value)
  | [] => .ok []
  | n :: rest => (Meaning.both (denote n) (denoteItems denote rest)).map fun (v, vs) ↦ v :: vs

/-- A key at a depth. A collection cannot be one. -/
def denoteKey (denote : Node → Meaning Value) (depth : Nat) (key : Node) : Meaning Value :=
  match denote key with
  | .ok v => if v.isKey then .ok v else malformedAt depth
  | .error t => if depth < t.depth then malformedAt depth else .error t

/-- The entries of a mapping at a depth. -/
def denoteEntries (denote : Node → Meaning Value) (depth : Nat) :
    List (Node × Node) → Meaning (List (Value × Value))
  | [] => .ok []
  | (key, value) :: rest =>
    let entry := Meaning.both (denoteKey denote depth key) (denote value)
    (Meaning.both entry (denoteEntries denote depth rest)).map fun (e, es) ↦ e :: es

/-- A collection that contains itself. -/
def tied (number : Nat) : Value → Value
  | .list items => .knot number (.list items)
  | .map entries => .knot number (.map entries)
  | v => v

/-- The value of a node at a depth, which has at most some levels. -/
def Node.denote : Nat → Nat → Node → Meaning Value
  | 0, depth, _ => malformedAt depth
  | levels + 1, depth, node =>
    let inner := Node.denote levels (depth + 1)
    let lift (outcome : Outcome Value) : Meaning Value := outcome.mapError fun f ↦ ⟨depth, f⟩
    let entriesOf (entries : List (Node × Node)) : Meaning (List (Value × Value)) :=
      match splitEntries entries with
      | some (merged, own) => (denoteEntries inner (depth + 1) (merged ++ own)).map Value.ofPairs
      | none => malformedAt (depth + 1)
    match node with
    | .scalar tag text =>
      if tag == .sequence || tag == .mapping || tag == .set then malformedAt (depth + 1)
      else lift (scalarValue tag text)
    | .sequence tag items =>
      if tag == .sequence then (denoteItems inner items).map .list
      else if tag == .mapping || tag == .set then malformedAt (depth + 1)
      else malformedAt depth
    | .mapping tag entries =>
      if tag == .mapping then (entriesOf entries).map .map
      else if tag == .set then (entriesOf entries).map fun es ↦ .set (es.map (·.1))
      else if tag == .sequence then malformedAt (depth + 1)
      else
        match node.scalarText? with
        | some text =>
          if tag == .timestamp then .error ⟨depth, .fault .typeMismatch⟩
          else lift (scalarValue tag text)
        | none => malformedAt depth
    | .knot number _ content => (Node.denote levels depth content).map (tied number)
    | .back _ => malformedAt depth

/-- How often a collection that contains itself is written out within itself. -/
def unrolledRounds : Nat := 3

/-- The value of a text that holds a single document; nothing if it holds none. -/
def readText (text : List Char) : Outcome Value :=
  if !text.all isAllowed then malformed
  else do
    match ← Node.ofTokens? (tokens text) with
    | none => return .null
    | some node =>
      let whole := node.unroll unrolledRounds []
      (whole.denote whole.height 0).mapError (·.failure)

end Scriptorium.Yaml
