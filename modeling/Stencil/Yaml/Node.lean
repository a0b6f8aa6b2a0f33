import Stencil.Yaml.Tokens
import Stencil.Yaml.Tag

/-!
# YAML nodes

A document is a graph of scalars, sequences and mappings, each with its tag.
Nodes have numbers, and collections hold the numbers of their parts: an alias is
the number of the node that its anchor marks, also inside that node itself.

`Document.ofText?` reads a document from tokens by descent: each function reads
one phrase and leaves the tokens behind it. It looks at one token at a time, so
a fault in the tokens is met only when the reader comes to it. Every call either
takes a token or goes one phrase deeper, which the bound counts.
-/

namespace Stencil.Yaml

/-- A node of a document. -/
inductive Node where
  | scalar (tag text : String)
  | sequence (tag : String) (items : List Nat)
  | mapping (tag : String) (entries : List (Nat × Nat))
deriving DecidableEq, Repr, Inhabited

namespace Node

/-- The sort of a node as messages name it. -/
def sort : Node → String
  | scalar .. => "scalar"
  | sequence .. => "sequence"
  | mapping .. => "mapping"

/-- A node's tag. -/
def tag : Node → String
  | scalar tag _ => tag
  | sequence tag _ => tag
  | mapping tag _ => tag

end Node

/-- The nodes of a document, and the number of the one that holds the others. -/
structure Document where
  nodes : Array Node
  root : Nat
deriving Repr

/-- The state of reading: the tokens left, the fault behind them, the nodes read so far, the nodes
that anchors mark, and the addresses that tag handles stand for. -/
structure Reader where
  tokens : List Token
  fault : Option Fault
  nodes : Array Node
  anchors : List (String × Nat)
  handles : List (String × String)

namespace Reader

/-- Steps of reading. -/
abbrev Read (α : Type) := StateT Reader (Except Fault) α

/-- The token in front, which stays. -/
def look : Read Token := do
  let s ← get
  match s.tokens, s.fault with
  | token :: _, _ => return token
  | [], some fault => throw fault
  | [], none => return .streamEnd

/-- Take the token in front. -/
def take : Read Token := do
  let token ← look
  modify fun s => { s with tokens := s.tokens.tail }
  return token

/-- Add a node that an anchor, if there is one, marks. -/
def add (anchor : Option String) (node : Node) : Read Nat := do
  let id := (← get).nodes.size
  modify fun s =>
    { s with
      nodes := s.nodes.push node
      anchors := (anchor.toList.map fun name => (name, id)) ++ s.anchors }
  return id

/-- Put the whole node in the place of one whose parts were still unread. -/
def finish (id : Nat) (node : Node) : Read Unit :=
  modify fun s => { s with nodes := s.nodes.modify id fun _ => node }

/-- A scalar that is not written. -/
def absent : Read Nat := add none (.scalar Kind.null.tag "")

/-- The anchor and the tag before a node, in either order. -/
structure Properties where
  anchor : Option String
  tag : Option (Option String × String)

/-- Read an anchor, if one is here. -/
def anchor? : Read (Option String) := do
  match ← look with
  | .anchor name =>
    let _ ← take
    return some name
  | _ => return none

/-- Read a tag, if one is here. -/
def tag? : Read (Option (Option String × String)) := do
  match ← look with
  | .tag handle rest =>
    let _ ← take
    return some (handle, rest)
  | _ => return none

/-- Read the properties of a node. -/
def properties : Read Properties := do
  let first ← anchor?
  let tag ← tag?
  let anchor ← if first.isNone && tag.isSome then anchor? else pure first
  return ⟨anchor, tag⟩

/-- The tag that a written tag stands for. -/
def fullTag (written : Option (Option String × String)) : Read (Option String) := do
  match written with
  | none => return none
  | some (none, rest) => return some rest
  | some (some handle, rest) =>
    match (← get).handles.lookup handle with
    | some address => return some (address ++ rest)
    | none => throw (.parsing .node)

/-- The tag of a collection, which is the standard one unless another is written. -/
def collectionTag (tag : Option String) (standard : Kind) : String :=
  match tag with
  | none => standard.tag
  | some "!" => standard.tag
  | some tag => tag

/-- The tag of a scalar: its form decides if it is plain or its tag is left open. -/
def scalarTag (tag : Option String) (text : String) (plain : Bool) : String :=
  match tag with
  | none => if plain then (Kind.ofPlain text.toList).tag else Kind.text.tag
  | some "!" => (Kind.ofPlain text.toList).tag
  | some tag => tag

/-- Refuse an anchor that is used already. -/
def freshAnchor (anchor : Option String) : Read Unit := do
  match anchor with
  | none => pure ()
  | some name =>
    if ((← get).anchors.lookup name).isSome then throw (.repeatedAnchor (Text.display name))

/-- Whether a key or a value ends here in a block mapping. -/
def endsEntry : Token → Bool
  | .key | .value | .blockEnd => true
  | _ => false

mutual

/-- Read a node. `block` admits block collections, `indentless` a sequence at the column of the
mapping around it. -/
def node (block indentless : Bool) : Nat → Read Nat
  | 0 => throw .nestedTooDeep
  | fuel + 1 => do
    match ← look with
    | .aliasName name =>
      let _ ← take
      match (← get).anchors.lookup name with
      | some id => return id
      | none => throw (.undefinedAlias (Text.display name))
    | _ =>
      let written ← properties
      let tag ← fullTag written.tag
      let anchor := written.anchor
      let sequenceOf (items : Read (List Nat)) : Read Nat := do
        freshAnchor anchor
        let tag := collectionTag tag .sequence
        let id ← add anchor (.sequence tag [])
        finish id (.sequence tag (← items))
        return id
      let mappingOf (entries : Read (List (Nat × Nat))) : Read Nat := do
        freshAnchor anchor
        let tag := collectionTag tag .mapping
        let id ← add anchor (.mapping tag [])
        finish id (.mapping tag (← entries))
        return id
      let scalarOf (text : String) (plain : Bool) : Read Nat := do
        freshAnchor anchor
        add anchor (.scalar (scalarTag tag text plain) text)
      match ← look with
      | .blockEntry =>
        if indentless then sequenceOf (indentlessEntries fuel)
        else if anchor.isSome || tag.isSome then scalarOf "" tag.isNone
        else throw (.parsing (if block then .blockNode else .flowNode))
      | .scalar text plain =>
        let _ ← take
        scalarOf text plain
      | .flowSequenceStart => sequenceOf do
        let _ ← take
        flowItems true fuel
      | .flowMappingStart => mappingOf do
        let _ ← take
        flowEntries true fuel
      | token =>
        if block && token == .blockSequenceStart then sequenceOf do
          let _ ← take
          blockItems fuel
        else if block && token == .blockMappingStart then mappingOf do
          let _ ← take
          blockEntries fuel
        else if anchor.isSome || tag.isSome then scalarOf "" tag.isNone
        else throw (.parsing (if block then .blockNode else .flowNode))

/-- Read the entries of a block sequence and its end. -/
def blockItems : Nat → Read (List Nat)
  | 0 => throw .nestedTooDeep
  | fuel + 1 => do
    match ← look with
    | .blockEntry =>
      let _ ← take
      let item ← match ← look with
        | .blockEntry | .blockEnd => absent
        | _ => node true false fuel
      return item :: (← blockItems fuel)
    | .blockEnd =>
      let _ ← take
      return []
    | _ => throw (.parsing .blockCollection)

/-- Read the entries of a sequence at the column of the mapping around it. -/
def indentlessEntries : Nat → Read (List Nat)
  | 0 => throw .nestedTooDeep
  | fuel + 1 => do
    match ← look with
    | .blockEntry =>
      let _ ← take
      let next ← look
      let item ←
        if next == .blockEntry || endsEntry next then absent else node true false fuel
      return item :: (← indentlessEntries fuel)
    | _ => return []

/-- Read a value of a block mapping, if one is here. -/
def blockValue : Nat → Read Nat
  | 0 => throw .nestedTooDeep
  | fuel + 1 => do
    match ← look with
    | .value =>
      let _ ← take
      if endsEntry (← look) then absent else node true true fuel
    | _ => absent

/-- Read the entries of a block mapping and its end. Every entry starts with a key. -/
def blockEntries : Nat → Read (List (Nat × Nat))
  | 0 => throw .nestedTooDeep
  | fuel + 1 => do
    match ← look with
    | .key =>
      let _ ← take
      let key ← if endsEntry (← look) then absent else node true true fuel
      let value ← blockValue fuel
      return (key, value) :: (← blockEntries fuel)
    | .blockEnd =>
      let _ ← take
      return []
    | _ => throw (.parsing .blockMapping)

/-- Read the entries of a flow sequence and its end. A pair among them is a mapping of its own. -/
def flowItems (first : Bool) : Nat → Read (List Nat)
  | 0 => throw .nestedTooDeep
  | fuel + 1 => do
    if (← look) == .flowSequenceEnd then
      let _ ← take
      return []
    if !first then
      if (← look) == .flowEntry then discard take else throw (.parsing .flowSequence)
    match ← look with
    | .key =>
      let _ ← take
      let ends (token : Token) : Bool := token == .flowEntry || token == .flowSequenceEnd
      let next ← look
      let key ← if next == .value || ends next then absent else node false false fuel
      let value ← match ← look with
        | .value => do
          let _ ← take
          if ends (← look) then absent else node false false fuel
        | _ => absent
      let pair ← add none (.mapping Kind.mapping.tag [(key, value)])
      return pair :: (← flowItems false fuel)
    | .flowSequenceEnd =>
      let _ ← take
      return []
    | _ =>
      let item ← node false false fuel
      return item :: (← flowItems false fuel)

/-- Read the entries of a flow mapping and its end. A key may stand without a value. -/
def flowEntries (first : Bool) : Nat → Read (List (Nat × Nat))
  | 0 => throw .nestedTooDeep
  | fuel + 1 => do
    if (← look) == .flowMappingEnd then
      let _ ← take
      return []
    if !first then
      if (← look) == .flowEntry then discard take else throw (.parsing .flowMapping)
    let ends (token : Token) : Bool := token == .flowEntry || token == .flowMappingEnd
    match ← look with
    | .key =>
      let _ ← take
      let next ← look
      let key ← if next == .value || ends next then absent else node false false fuel
      let value ← match ← look with
        | .value => do
          let _ ← take
          if ends (← look) then absent else node false false fuel
        | _ => absent
      return (key, value) :: (← flowEntries false fuel)
    | .flowMappingEnd =>
      let _ ← take
      return []
    | _ =>
      let key ← node false false fuel
      let value ← absent
      return (key, value) :: (← flowEntries false fuel)

end

/-- The handles that every document has. -/
def defaultHandles : List (String × String) := [("!", "!"), ("!!", Kind.address)]

/-- Read the directives before a document. -/
def directives (versioned : Bool) (handles : List (String × String)) :
    Nat → Read (List (String × String))
  | 0 => throw .nestedTooDeep
  | fuel + 1 => do
    match ← look with
    | .directive directive =>
      let _ ← take
      match directive with
      | .version major =>
        if versioned then throw .repeatedVersion
        if major ≠ 1 then throw .incompatibleVersion
        directives true handles fuel
      | .handle handle address =>
        if (handles.lookup handle).isSome then throw (.repeatedHandle (Text.display handle))
        directives versioned (handles ++ [(handle, address)]) fuel
      | .other => directives versioned handles fuel
    | _ => return handles ++ defaultHandles

/-- Skip the marks between documents. -/
def skipEnds : Nat → Read Unit
  | 0 => pure ()
  | fuel + 1 => do
    if (← look) == .documentEnd then
      let _ ← take
      skipEnds fuel

/-- Read the start of a document that may have directives; false at the end of the text. -/
def markedStart (fuel : Nat) : Read Bool := do
  skipEnds fuel
  if (← look) == .streamEnd then return false
  let handles ← directives false [] fuel
  let token ← look
  if token != .documentStart then throw (.noDocumentStart token.name)
  let _ ← take
  modify fun s => { s with handles }
  return true

/-- Read the only document of a text, if there is one: the number of its root. -/
def document? : Read (Option Nat) := do
  let fuel := 4 * (← get).tokens.length + 16
  let root ← match ← look with
    | .directive _ | .documentStart | .streamEnd => do
      if ← markedStart fuel then
        match ← look with
        | .directive _ | .documentStart | .documentEnd | .streamEnd => some <$> absent
        | _ => some <$> node true false fuel
      else return none
    | _ => do
      modify fun s => { s with handles := defaultHandles }
      some <$> node true false fuel
  if (← look) == .documentEnd then discard take
  if ← markedStart fuel then throw .severalDocuments
  return root

end Reader

/-- The only document of a text, if there is one. -/
def Document.ofText? (text : List Char) : Except Fault (Option Document) := do
  let (tokens, fault) := tokens text
  let (root, reader) ← Reader.document?.run ⟨tokens, fault, #[], [], []⟩
  return root.map fun root => ⟨reader.nodes, root⟩

end Stencil.Yaml
