import Scriptorium.Yaml.Timestamp
import Scriptorium.Yaml.Tag
import Scriptorium.Yaml.Token

/-!
# Nodes

The tree of a document: scalars, sequences and mappings, each with its tag. `Node.ofTokens?` builds
it from tokens. An alias stands for the node with its anchor, which has to begin before it; no two
nodes have the same anchor. A collection can stand inside itself: `Node.unroll` writes it out for
some rounds. A text is a single document.
-/

set_option autoImplicit false
set_option relaxedAutoImplicit false

namespace Scriptorium.Yaml

/-- A node of a document. A `knot` is a collection on a way from an anchor back to it, with a number
of its own; `back` is where that way ends. -/
inductive Node where
  | scalar (tag : Tag) (text : List Char)
  | sequence (tag : Tag) (items : List Node)
  | mapping (tag : Tag) (entries : List (Node × Node))
  | knot (number : Nat) (anchor : Option (List Char)) (content : Node)
  | back (anchor : List Char)
  deriving Repr

mutual

/-- Whether a node leads back to an anchor around it, of which `closed` are within it. -/
def Node.leadsBack (closed : List (List Char)) : Node → Bool
  | .scalar _ _ => false
  | .sequence _ items => itemsLeadBack closed items
  | .mapping _ entries => entriesLeadBack closed entries
  | .knot _ anchor content => content.leadsBack (anchor.toList ++ closed)
  | .back anchor => !closed.contains anchor

/-- `Node.leadsBack` of some node. -/
def itemsLeadBack (closed : List (List Char)) : List Node → Bool
  | [] => false
  | n :: rest => n.leadsBack closed || itemsLeadBack closed rest

/-- `Node.leadsBack` of some key or value. -/
def entriesLeadBack (closed : List (List Char)) : List (Node × Node) → Bool
  | [] => false
  | (key, value) :: rest =>
    key.leadsBack closed || value.leadsBack closed || entriesLeadBack closed rest

end

/-- A node with its number, if it leads back to an anchor. -/
def Node.tie (number : Nat) (anchor : Option (List Char)) (node : Node) : Node :=
  if node.leadsBack [] then .knot number anchor node else node

/-- The knots around a node, by their anchors. -/
abbrev Knots := List (List Char × Node)

/-- The knots around the content of a node with a possible anchor. -/
def Knots.enter (knots : Knots) (anchor : Option (List Char)) (node : Node) : Knots :=
  anchor.toList.map (·, node) ++ knots

mutual

/-- A node with every way back replaced. -/
def Node.expand (replace : Knots → List Char → Node) (knots : Knots) : Node → Node
  | .scalar tag text => .scalar tag text
  | .sequence tag items => .sequence tag (expandItems replace knots items)
  | .mapping tag entries => .mapping tag (expandEntries replace knots entries)
  | .knot number anchor content =>
    .knot number anchor (content.expand replace (knots.enter anchor (.knot number anchor content)))
  | .back anchor => replace knots anchor

/-- `Node.expand` of each item. -/
def expandItems (replace : Knots → List Char → Node) (knots : Knots) : List Node → List Node
  | [] => []
  | n :: rest => n.expand replace knots :: expandItems replace knots rest

/-- `Node.expand` of each key and value. -/
def expandEntries (replace : Knots → List Char → Node) (knots : Knots) :
    List (Node × Node) → List (Node × Node)
  | [] => []
  | (key, value) :: rest =>
    (key.expand replace knots, value.expand replace knots) :: expandEntries replace knots rest

end

/-- A node without what it holds. -/
def Node.hollow : Node → Node
  | .sequence tag _ => .sequence tag []
  | .mapping tag _ => .mapping tag []
  | .knot number anchor content => .knot number anchor content.hollow
  | node => node

/-- A node with every way back written out for some rounds. -/
def Node.unroll : Nat → Knots → Node → Node
  | 0, knots, node =>
    node.expand
      (fun inner anchor ↦ ((inner.lookup anchor).map Node.hollow).getD (.back anchor)) knots
  | rounds + 1, knots, node =>
    node.expand (fun inner anchor ↦
      match inner.lookup anchor with
      | some found => Node.unroll rounds inner found
      | none => .back anchor) knots

/-- The tag that a spelling without a line feed at its end has. -/
def spelling? (text : List Char) : Option Tag :=
  let word := String.ofList text
  if boolSpellings.contains word then some .bool
  else if isFloat text then some .float
  else if isInt text then some .int
  else if word == "<<" then some .merge
  else if nullSpellings.contains word then some .null
  else if isTimestamp text then some .timestamp
  else if word == "=" then some .value
  else if word == "!" || word == "&" || word == "*" then some .unknown
  else none

/-- A text without the line feed at its end, unless it is nothing else. -/
def dropFinalNewline (text : List Char) : List Char :=
  if 1 < text.length && text.getLast? == some '\n' then text.dropLast else text

/-- The tag of a plain scalar: that of its spelling, and else that of a text. -/
def plainTag (text : List Char) : Tag :=
  ((spelling? text).or (spelling? (dropFinalNewline text))).getD .text

/-- What a node can have before it: a tag written out, or the mark that it has none. -/
inductive Marking where
  | none
  | untagged
  | tagged (tag : Tag)
  deriving DecidableEq, Repr

/-- The tag of a scalar with a marking. -/
def Marking.scalarTag (m : Marking) (text : List Char) (isPlain : Bool) : Tag :=
  match m with
  | none => if isPlain then plainTag text else .text
  | untagged => plainTag text
  | tagged tag => tag

/-- The tag of a collection with a marking, whose form has a tag. -/
def Marking.collectionTag (m : Marking) (form : Tag) : Tag :=
  match m with
  | tagged tag => tag
  | _ => form

/-- What handles stand for. -/
abbrev Handles := List (List Char × List Char)

/-- What the handles stand for that need no directive. -/
def commonHandles : Handles := [(['!'], ['!']), (['!', '!'], commonStart)]

/-- The marking that a tag as it is written makes. One that is left out fails at once. -/
def Marking.ofTag? (handles : Handles) (t : TagToken) : Outcome Marking := do
  let text ← match t.handle with
    | some handle =>
      match handles.lookup handle with
      | some start => .ok (start ++ t.suffix)
      | Option.none => malformed
    | Option.none => .ok t.suffix
  if leftOutTags.contains text then throw (.fault .leftOut)
  return if text == ['!'] then untagged else tagged (.ofText text)

/-- What is left to be read: the tokens, what handles stand for, and the nodes with anchors. A node
that is being read has its anchor already. -/
structure Source where
  tokens : List Token
  handles : Handles
  anchors : List (List Char × Option Node)

namespace Source

/-- The source without its first token. -/
def drop (s : Source) : Source := { s with tokens := s.tokens.tail }

/-- The failure at a token that does not fit. -/
def fail {α : Type} (s : Source) : Outcome α :=
  match s.tokens with
  | .unreadable failure :: _ => .error failure
  | _ => malformed

/-- Whether the next token is one of some. -/
def isAt (s : Source) (tokens : List Token) : Bool :=
  match s.tokens with
  | [] => false
  | t :: _ => tokens.contains t

/-- The source after a token that has to be next. -/
def expect (s : Source) (token : Token) : Outcome Source :=
  if s.isAt [token] then .ok s.drop else s.fail

/-- The anchor that comes next, if one does. -/
def anchor? (s : Source) : Option (List Char) × Source :=
  match s.tokens with
  | .anchor name :: _ => (some name, s.drop)
  | _ => (none, s)

/-- The tag that comes next, if one does. -/
def marking (s : Source) : Outcome (Marking × Source) :=
  match s.tokens with
  | .tag t :: _ => do return (← Marking.ofTag? s.handles t, s.drop)
  | _ => .ok (.none, s)

/-- The anchor and the tag that come next, in either order. -/
def properties (s : Source) : Outcome ((Option (List Char) × Marking) × Source) := do
  let (first, s) := s.anchor?
  let (m, s) ← s.marking
  let (second, s) := if first.isNone && m != .none then s.anchor? else (none, s)
  return ((first.or second, m), s)

/-- Opens an anchor, which must be new. -/
def openAnchor (s : Source) : Option (List Char) → Outcome Source
  | none => .ok s
  | some name =>
    if (s.anchors.lookup name).isSome then malformed
    else .ok { s with anchors := (name, none) :: s.anchors }

/-- Gives an anchor its node. -/
def closeAnchor (s : Source) (node : Node) : Option (List Char) → Source
  | none => s
  | some name => { s with anchors := (name, some node) :: s.anchors }

end Source

/-- The scalar that stands where nothing is written. -/
def Node.empty : Node := .scalar .null []

/-- Where a node stands: what may begin there besides scalars and brackets. -/
inductive Setting where
  | flow
  | block
  | blockValue
  deriving DecidableEq, Repr

mutual

/-- The node that comes next. -/
def Node.read (setting : Setting) : Nat → Source → Outcome (Node × Source)
  | 0, _ => malformed
  | bound + 1, s =>
    match s.tokens with
    | .alias name :: _ =>
      match s.anchors.lookup name with
      | some (some node) => .ok (node, s.drop)
      | some none => .ok (.back name, s.drop)
      | none => malformed
    | _ => do
      let ((anchor, m), s) ← s.properties
      let inner ← s.openAnchor anchor
      let (content, rest) ← Node.readContent setting m anchor.isSome bound inner
      let node := content.tie s.tokens.length anchor
      return (node, rest.closeAnchor node anchor)

/-- The content of a node with a marking. It may be missing if the node has an anchor or a
marking. -/
def Node.readContent (setting : Setting) (m : Marking) (isAnchored : Bool) :
    Nat → Source → Outcome (Node × Source)
  | 0, _ => malformed
  | bound + 1, s =>
    match s.tokens with
    | .scalar text isPlain :: _ => .ok (.scalar (m.scalarTag text isPlain) text, s.drop)
    | .flowSequenceStart :: _ => do
      let (items, s) ← Node.readFlowItems true bound s.drop
      return (.sequence (m.collectionTag .sequence) items, s)
    | .flowMappingStart :: _ => do
      let (entries, s) ← Node.readFlowEntries true bound s.drop
      return (.mapping (m.collectionTag .mapping) entries, s)
    | first :: _ =>
      if first == .blockEntry && setting == .blockValue then do
        let (items, s) ← Node.readBareItems bound s
        return (.sequence (m.collectionTag .sequence) items, s)
      else if first == .blockSequenceStart && setting != .flow then do
        let (items, s) ← Node.readBlockItems bound s.drop
        return (.sequence (m.collectionTag .sequence) items, s)
      else if first == .blockMappingStart && setting != .flow then do
        let (entries, s) ← Node.readBlockEntries bound s.drop
        return (.mapping (m.collectionTag .mapping) entries, s)
      else if isAnchored || m != .none then .ok (.scalar (m.scalarTag [] true) [], s)
      else s.fail
    | [] =>
      if isAnchored || m != .none then .ok (.scalar (m.scalarTag [] true) [], s) else malformed

/-- A node, or nothing if one of some tokens comes next. -/
def Node.readUnless (setting : Setting) (ends : List Token) : Nat → Source → Outcome (Node × Source)
  | 0, _ => malformed
  | bound + 1, s => if s.isAt ends then .ok (.empty, s) else Node.read setting bound s

/-- A node after a token, or nothing if the token or the node is missing. -/
def Node.readAfter (token : Token) (setting : Setting) (ends : List Token) :
    Nat → Source → Outcome (Node × Source)
  | 0, _ => malformed
  | bound + 1, s =>
    if s.isAt [token] then Node.readUnless setting ends bound s.drop else .ok (.empty, s)

/-- The items of a block sequence, to its end. -/
def Node.readBlockItems : Nat → Source → Outcome (List Node × Source)
  | 0, _ => malformed
  | bound + 1, s =>
    if s.isAt [.blockEntry] then do
      let (item, s) ← Node.readUnless .block [.blockEntry, .blockEnd] bound s.drop
      let (others, s) ← Node.readBlockItems bound s
      return (item :: others, s)
    else do return ([], ← s.expect .blockEnd)

/-- The items of a block sequence that is not indented further than the mapping around it. -/
def Node.readBareItems : Nat → Source → Outcome (List Node × Source)
  | 0, _ => malformed
  | bound + 1, s =>
    if s.isAt [.blockEntry] then do
      let (item, s) ← Node.readUnless .block [.blockEntry, .key, .value, .blockEnd] bound s.drop
      let (others, s) ← Node.readBareItems bound s
      return (item :: others, s)
    else .ok ([], s)

/-- The entries of a block mapping, to its end. -/
def Node.readBlockEntries : Nat → Source → Outcome ((List (Node × Node)) × Source)
  | 0, _ => malformed
  | bound + 1, s =>
    if s.isAt [.blockEnd] then .ok ([], s.drop)
    else if s.isAt [.key] then do
      let ends : List Token := [.key, .value, .blockEnd]
      let (key, s) ← Node.readUnless .blockValue ends bound s.drop
      let (value, s) ← Node.readAfter .value .blockValue ends bound s
      let (others, s) ← Node.readBlockEntries bound s
      return ((key, value) :: others, s)
    else s.fail

/-- The items of a sequence in brackets, to its end. An item can be a mapping of one entry without
brackets of its own. -/
def Node.readFlowItems (isFirst : Bool) : Nat → Source → Outcome (List Node × Source)
  | 0, _ => malformed
  | bound + 1, s =>
    if s.isAt [.flowSequenceEnd] then .ok ([], s.drop)
    else do
      let s ← if isFirst then .ok s else s.expect .flowEntry
      if s.isAt [.flowSequenceEnd] then .ok ([], s.drop)
      else
        let (item, s) ←
          if s.isAt [.key] then do
            let (key, s) ←
              Node.readUnless .flow [.value, .flowEntry, .flowSequenceEnd] bound s.drop
            let (value, s) ← Node.readAfter .value .flow [.flowEntry, .flowSequenceEnd] bound s
            .ok (Node.mapping .mapping [(key, value)], s)
          else Node.read .flow bound s
        let (others, s) ← Node.readFlowItems false bound s
        return (item :: others, s)

/-- The entries of a mapping in brackets, to its end. -/
def Node.readFlowEntries (isFirst : Bool) : Nat → Source → Outcome ((List (Node × Node)) × Source)
  | 0, _ => malformed
  | bound + 1, s =>
    if s.isAt [.flowMappingEnd] then .ok ([], s.drop)
    else do
      let s ← if isFirst then .ok s else s.expect .flowEntry
      if s.isAt [.flowMappingEnd] then .ok ([], s.drop)
      else
        let (key, value, s) ←
          if s.isAt [.key] then do
            let (key, s) ← Node.readUnless .flow [.value, .flowEntry, .flowMappingEnd] bound s.drop
            let (value, s) ← Node.readAfter .value .flow [.flowEntry, .flowMappingEnd] bound s
            .ok (key, value, s)
          else do
            let (key, s) ← Node.read .flow bound s
            .ok (key, Node.empty, s)
        let (others, s) ← Node.readFlowEntries false bound s
        return ((key, value) :: others, s)

end

/-! ### Documents -/

/-- The directives at the start of a document: whether its version has been told, and what handles
stand for. -/
def readDirectives (isTold : Bool) (handles : Handles) : List Token → Outcome (Handles × List Token)
  | .directive d :: rest =>
    match d with
    | .version major _ =>
      if isTold || major != 1 then malformed else readDirectives true handles rest
    | .tagHandle handle start =>
      if (handles.lookup handle).isSome then malformed
      else readDirectives isTold ((handle, start) :: handles) rest
    | .other => readDirectives isTold handles rest
  | tokens => .ok (handles, tokens)

/-- The node of the document that tokens begin with, and the tokens after it. -/
def readDocument (tokens : List Token) : Outcome (Option Node × List Token) := do
  let bound := 8 * (tokens.length + 2)
  match tokens with
  | [] => return (none, [])
  | .directive _ :: _ | .documentStart :: _ =>
    let (handles, rest) ← readDirectives false [] tokens
    let source : Source := ⟨rest, handles ++ commonHandles, []⟩
    let source ← source.expect .documentStart
    match source.tokens with
    | [] | .directive _ :: _ | .documentStart :: _ | .documentEnd :: _ =>
      return (some .empty, source.tokens)
    | _ =>
      let (node, s) ← Node.read .block bound source
      return (some node, s.tokens)
  | _ =>
    let (node, s) ← Node.read .block bound ⟨tokens, commonHandles, []⟩
    return (some node, s.tokens)

/-- The node of the single document of a text; none if there is no document. -/
def Node.ofTokens? (tokens : List Token) : Outcome (Option Node) := do
  let (node, rest) ← readDocument tokens
  match rest.dropWhile (· == .documentEnd) with
  | [] => return node
  | .unreadable failure :: _ => .error failure
  | _ => malformed

end Scriptorium.Yaml
