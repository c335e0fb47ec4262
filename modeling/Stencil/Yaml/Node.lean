import Stencil.Yaml.Scalar
import Stencil.Yaml.Stream

namespace Stencil.Yaml

/-!
# Nodes of a document

* `Node` — scalars, sequences and mappings with their kinds;
* `Node.ofTokens` — the tree that a token stream describes; an alias stands for the node of its anchor. Inside
  that node itself it stays an alias.
-/

/-- A node: its kind and its content. -/
inductive Node where
  | scalar (tag : Tag) (text : String)
  | seq (tag : Tag) (items : List Node)
  | map (tag : Tag) (pairs : List (Node × Node))
  /-- a node with an anchor -/
  | anchored (name : String) (node : Node)
  /-- the node with an anchor that the alias is inside of -/
  | again (name : String)

instance : Inhabited Node := ⟨.scalar .null ""⟩

/-- The state of reading nodes: the tokens left, the tag handles in force and the nodes of the anchors
so far. An anchor without a node belongs to a node that is still being read. -/
structure Reading where
  tokens : List Token
  handles : List (String × String) := []
  anchors : List (String × Option Node) := []

/-- Steps of reading. -/
abbrev Parse := StateT Reading (Except Problem)

namespace Parse

/-- The document is malformed. -/
def fail {α : Type} : Parse α :=
  throw .malformed

/-- The next token. -/
def peek : Parse Token := do
  return ((← get).tokens.head?).getD .streamEnd

/-- Take the next token. -/
def advance : Parse Unit :=
  modify fun s => { s with tokens := s.tokens.drop 1 }

/-- Take the next token if it is a given one. -/
def accept (t : Token) : Parse Bool := do
  if (← peek) == t then
    advance
    return true
  else return false

/-- A node without text. -/
def empty : Node :=
  .scalar .null ""

/-- The properties of a node. -/
structure Properties where
  anchor : Option String := none
  tag : Option TagText := none

/-- The properties before a node: an anchor and a tag, in either order. -/
def properties : Parse Properties := do
  match ← peek with
  | .anchor a =>
    advance
    match ← peek with
    | .tag t =>
      advance
      return { anchor := a, tag := t }
    | _ => return { anchor := a }
  | .tag t =>
    advance
    match ← peek with
    | .anchor a =>
      advance
      return { anchor := a, tag := t }
    | _ => return { tag := t }
  | _ => return {}

/-- The full name of a tag; the handle must be known. -/
def resolveTag (t : TagText) : Parse String := do
  match t.handle with
  | none => return t.suffix
  | some h =>
    match (← get).handles.lookup h with
    | some start => return start ++ t.suffix
    | none => fail

/-- The kind of a collection with a tag. -/
def collectionTag (tag : Option String) (default : Tag) : Tag :=
  match tag with
  | none => default
  | some "!" => default
  | some uri => .ofUri uri

/-- The kind of a scalar with a tag. -/
def scalarTag (tag : Option String) (plain : Bool) (text : String) : Tag :=
  match tag with
  | none => if plain then .ofPlain text.toList else .str
  | some "!" => .ofPlain text.toList
  | some uri => .ofUri uri

/-- The readers of nested nodes, given for nodes of one level less. -/
structure Nested where
  /-- a node of a block; the argument says whether a sequence needs no indentation -/
  block : Bool → Parse Node
  /-- a node of a flow collection -/
  flow : Parse Node

/-- Whether the next token is one of some. -/
def nextIsOneOf (ts : List Token) : Parse Bool := do
  return ts.contains (← peek)

/-- The items of a block sequence; `closed` says whether a block end follows it. -/
def blockItems (n : Nested) (closed : Bool) : Nat → Parse (List Node)
  | 0 => fail
  | fuel + 1 => do
    if ← accept .blockEntry then
      let ends := if closed then [Token.blockEntry, .blockEnd]
        else [Token.blockEntry, .key, .value, .blockEnd]
      let item ← if ← nextIsOneOf ends then pure empty else n.block false
      let rest ← blockItems n closed fuel
      return item :: rest
    else
      if closed then
        if !(← accept .blockEnd) then fail
      return []

/-- The value of a key in a block mapping. -/
def blockValue (n : Nested) : Parse Node := do
  if ← accept .value then
    if ← nextIsOneOf [.key, .value, .blockEnd] then return empty else n.block true
  else return empty

/-- The pairs of a block mapping. -/
def blockPairs (n : Nested) : Nat → Parse (List (Node × Node))
  | 0 => fail
  | fuel + 1 => do
    if ← accept .key then
      let key ← if ← nextIsOneOf [.key, .value, .blockEnd] then pure empty else n.block true
      let value ← blockValue n
      let rest ← blockPairs n fuel
      return (key, value) :: rest
    else
      if !(← accept .blockEnd) then fail
      return []

/-- A node of a flow collection, empty if one of some tokens follows. -/
def flowNode (n : Nested) (ends : List Token) : Parse Node := do
  if ← nextIsOneOf ends then return empty else n.flow

/-- The value of a key in a flow collection that ends with a token. -/
def flowValue (n : Nested) (closing : Token) : Parse Node := do
  if ← accept .value then flowNode n [.flowEntry, closing] else return empty

/-- The items of a flow sequence; a pair by itself is a mapping of one pair. -/
def flowItems (n : Nested) (first : Bool) : Nat → Parse (List Node)
  | 0 => fail
  | fuel + 1 => do
    if ← accept .flowSequenceEnd then return []
    if !first then
      if !(← accept .flowEntry) then fail
    if ← accept .key then
      let key ← flowNode n [.value, .flowEntry, .flowSequenceEnd]
      let value ← flowValue n .flowSequenceEnd
      let rest ← flowItems n false fuel
      return .map .map [(key, value)] :: rest
    else if ← accept .flowSequenceEnd then return []
    else
      let item ← n.flow
      let rest ← flowItems n false fuel
      return item :: rest

/-- The pairs of a flow mapping; a node by itself is a key without value. -/
def flowPairs (n : Nested) (first : Bool) : Nat → Parse (List (Node × Node))
  | 0 => fail
  | fuel + 1 => do
    if ← accept .flowMappingEnd then return []
    if !first then
      if !(← accept .flowEntry) then fail
    if ← accept .key then
      let key ← flowNode n [.value, .flowEntry, .flowMappingEnd]
      let value ← flowValue n .flowMappingEnd
      let rest ← flowPairs n false fuel
      return (key, value) :: rest
    else if ← accept .flowMappingEnd then return []
    else
      let key ← n.flow
      let rest ← flowPairs n false fuel
      return (key, empty) :: rest

/-- The content of a node after its properties. -/
def content (n : Nested) (inBlock indentless : Bool) (p : Properties) : Parse Node := do
  let tag ← p.tag.mapM resolveTag
  let fuel := (← get).tokens.length + 1
  let next ← peek
  -- The items of a sequence may be indented no deeper than its key.
  if indentless && next == .blockEntry then
    return .seq (collectionTag tag .seq) (← blockItems n false fuel)
  match next with
  | .scalar text plain =>
    advance
    return .scalar (scalarTag tag plain text) text
  | .flowSequenceStart =>
    advance
    return .seq (collectionTag tag .seq) (← flowItems n true fuel)
  | .flowMappingStart =>
    advance
    return .map (collectionTag tag .map) (← flowPairs n true fuel)
  | .blockSequenceStart =>
    if !inBlock then fail
    advance
    return .seq (collectionTag tag .seq) (← blockItems n true fuel)
  | .blockMappingStart =>
    if !inBlock then fail
    advance
    return .map (collectionTag tag .map) (← blockPairs n fuel)
  | _ =>
    -- A node that has nothing but properties is an empty text.
    if p.anchor.isNone && p.tag.isNone then fail
    else return .scalar (scalarTag tag (tag.isNone || tag == some "!") "") ""

/-- A node. An anchor is known inside its own node only as one without a node. -/
def node (n : Nested) (inBlock indentless : Bool) : Parse Node := do
  match ← peek with
  | .alias name =>
    advance
    match (← get).anchors.lookup name with
    | some (some x) => return x
    | some none => return .again name
    | none => fail
  | _ =>
    let p ← properties
    match p.anchor with
    | none => content n inBlock indentless p
    | some name =>
      if ((← get).anchors.lookup name).isSome then fail
      modify fun s => { s with anchors := (name, none) :: s.anchors }
      let x ← content n inBlock indentless p
      let x := Node.anchored name x
      modify fun s => { s with anchors := (name, some x) :: s.anchors }
      return x

/-- The readers of nodes of a bounded nesting. -/
def nested : Nat → Nested
  | 0 => { block := fun _ => fail, flow := fail }
  | depth + 1 =>
    let inner := nested depth
    { block := node inner true, flow := node inner false false }

/-- The handles that every document knows. -/
def defaultHandles : List (String × String) :=
  [("!", "!"), ("!!", Tag.standard)]

/-- The directives before a document: at most one version, of the known major version, and at most one
tag directive per handle. -/
def directives : Nat → Bool → List (String × String) → Parse (List (String × String))
  | 0, _, handles => return handles
  | fuel + 1, versioned, handles => do
    match ← peek with
    | .directive (.version major _) =>
      advance
      if versioned || major != 1 then fail
      directives fuel true handles
    | .directive (.tag handle start) =>
      advance
      if (handles.lookup handle).isSome then fail
      directives fuel versioned ((handle, start) :: handles)
    | .directive .reserved =>
      advance
      directives fuel versioned handles
    | _ => return handles

/-- Take all document ends. -/
def skipDocumentEnds : Nat → Parse Unit
  | 0 => return ()
  | fuel + 1 => do
    if ← accept .documentEnd then skipDocumentEnds fuel

/-- The only document of a stream, if there is one. -/
def document (n : Nested) : Parse (Option Node) := do
  let fuel := (← get).tokens.length + 1
  match ← peek with
  | .streamEnd => return none
  | .directive _ | .documentStart =>
    let handles ← directives fuel false []
    if !(← accept .documentStart) then fail
    modify fun s => { s with handles := handles ++ defaultHandles }
    let ends : Bool := match ← peek with
      | .directive _ | .documentStart | .documentEnd | .streamEnd => true
      | _ => false
    let x ← if ends then pure empty else n.block false
    skipDocumentEnds fuel
    if (← peek) != .streamEnd then fail
    return some x
  | _ =>
    modify fun s => { s with handles := defaultHandles }
    let x ← n.block false
    skipDocumentEnds fuel
    if (← peek) != .streamEnd then fail
    return some x

end Parse

/-- The node that a token stream describes; an empty stream describes none. -/
def Node.ofTokens (tokens : List Token) : Except Problem (Option Node) := do
  let (x, _) ← (Parse.document (Parse.nested (tokens.length + 1))).run { tokens }
  return x

end Stencil.Yaml
