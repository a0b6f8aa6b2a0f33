import Stencil.Yaml.Node
import Stencil.Yaml.Content
import Stencil.Yaml.Places

/-!
# From nodes to contents

A node's tag says what it stands for. A node is made into one part of the
content, whatever the number of places where it stands. Scalars are made at
once; a collection is made empty and filled later, after the collections that
were made before it. So of several faults the one nearest to the root is met
first, and on one level the first in the text.

A merge key puts the entries of other mappings before the mapping's own, which
win over them. This changes the mapping itself, wherever else it stands. Keys
have to be scalars.
-/

namespace Stencil.Yaml

open Code

/-- The state of making a content: the nodes, the parts made so far, the part that each node was
made into, and the collections in the order in which they were made. -/
structure Construction where
  nodes : Array Node
  data : Array Datum
  made : Array (Option Nat)
  opened : Array (Nat × Nat)

/-- The number of entries of a mapping. -/
def Node.entryCount : Node → Nat
  | .mapping _ entries => entries.length
  | _ => 0

/-- The same node under another tag. -/
def Node.withTag (tag : String) : Node → Node
  | .scalar _ text => .scalar tag text
  | .sequence _ items => .sequence tag items
  | .mapping _ entries => .mapping tag entries

namespace Construction

/-- Steps of making a content. -/
abbrev Make (α : Type) := StateT Construction (Except Fault) α

/-- A node by its number. -/
def nodeAt (construction : Construction) (id : Nat) : Node :=
  construction.nodes[id]?.getD default

/-- Whether a node has the tag of a type. -/
def hasKind (construction : Construction) (kind : Kind) (id : Nat) : Bool :=
  (construction.nodeAt id).tag == kind.tag

/-- The text of a node that has to be a scalar. A mapping may give one under the key `=`. The
bound counts the mappings in each other. -/
def scalarText (construction : Construction) : (fuel : Nat) → Nat → Except Fault (List Char)
  | 0, _ => .error .nestedTooDeep
  | fuel + 1, id => match construction.nodeAt id with
    | .scalar _ text => .ok text.toList
    | .mapping _ entries =>
      match entries.find? fun entry => construction.hasKind .value entry.1 with
      | some entry => construction.scalarText fuel entry.2
      | none => .error (.expectedNode "scalar" "mapping")
    | .sequence .. => .error (.expectedNode "scalar" "sequence")

/-- Replace a node. -/
def setNode (id : Nat) (node : Node) : Make Unit :=
  modify fun construction =>
    { construction with nodes := construction.nodes.modify id fun _ => node }

/-- Add the part that a node is made into. -/
def add (id : Nat) (datum : Datum) : Make Nat := do
  let made := (← get).data.size
  modify fun construction =>
    { construction with
      data := construction.data.push datum
      made := construction.made.modify id fun _ => some made }
  return made

/-- The part that a collection of a type is before it is filled. -/
def emptyDatum? : Kind → Option Datum
  | .sequence | .orderedMap | .pairs => some (.list [])
  | .mapping => some (.dict [])
  | .set => some (.set [])
  | _ => none

/-- Make a node into a part: a scalar at once, a collection to be filled later. -/
def make (id : Nat) : Make Nat := do
  let construction ← get
  match construction.made[id]?.join with
  | some made => return made
  | none =>
    let node := construction.nodeAt id
    let unknown : Make Nat := throw (.unknownTag (Text.display node.tag))
    match Kind.ofTag? node.tag with
    | none => unknown
    | some kind => match emptyDatum? kind, Scalar.reader? kind with
      | some datum, _ =>
        let made ← add id datum
        modify fun construction =>
          { construction with opened := construction.opened.push (id, made) }
        return made
      | none, some read =>
        let text ← construction.scalarText (construction.nodes.size + 1) id
        if kind = .timestamp ∧ node.sort ≠ "scalar" then throw (.value (.expectedText "list"))
        add id (.atom (← read text))
      | none, none => unknown

/-- The entries of a mapping. -/
def entriesAt (id : Nat) : Make (List (Nat × Nat)) := do
  match (← get).nodeAt id with
  | .mapping _ entries => return entries
  | _ => throw (.constructing .mapping)

/-- Give a mapping other entries. -/
def setEntries (id : Nat) (entries : List (Nat × Nat)) : Make Unit := do
  setNode id (.mapping ((← get).nodeAt id).tag entries)

/-- A key that is a value mark is a text. -/
def settleKey (id : Nat) : Make Unit := do
  let construction ← get
  if construction.hasKind .value id then
    setNode id ((construction.nodeAt id).withTag Kind.text.tag)

/-- Take a merge key out of a mapping: what it merges. -/
def takeMerge? (id : Nat) : Make (Option Nat) := do
  let entries ← entriesAt id
  let construction ← get
  let isMerge (entry : Nat × Nat) : Bool := construction.hasKind .merge entry.1
  match entries.find? isMerge with
  | none => return none
  | some entry =>
    setEntries id (entries.eraseP isMerge)
    return some entry.2

/-- Put merged entries before a mapping's own. -/
def prepend (id : Nat) (merged : List (Nat × Nat)) : Make Unit := do
  let own ← entriesAt id
  own.forM fun entry => settleKey entry.1
  setEntries id (merged ++ own)

/-- Take the merge keys out of a mapping: the entries of what they merge, whose own merge keys are
followed before. A key is taken out before anything else, so the bound counts the merge keys. -/
def takeMerged : (fuel : Nat) → Nat → Make (List (Nat × Nat))
  | 0, _ => return []
  | fuel + 1, id => do
    match ← takeMerge? id with
    | none => return []
    | some source =>
      let flattened (id : Nat) : Make (List (Nat × Nat)) := do
        let _ ← entriesAt id
        prepend id (← takeMerged fuel id)
        entriesAt id
      let merged ← match (← get).nodeAt source with
        | .sequence _ items => do pure (← items.mapM flattened).reverse.flatten
        | _ => flattened source
      return merged ++ (← takeMerged fuel id)

/-- Put the entries that a mapping's merge keys merge before its own. -/
def flatten (id : Nat) : Make Unit := do
  let fuel := (← get).nodes.foldl (fun count node => count + node.entryCount) 1
  prepend id (← takeMerged fuel id)

/-- Whether two parts are one key: the same part, or equal scalars. -/
def sameKey (construction : Construction) (a b : Nat) : Bool :=
  a == b || match construction.data[a]?, construction.data[b]? with
    | some (.atom a), some (.atom b) => a.same b
    | _, _ => false

/-- Bind a key. An equal key keeps its place and its first form. -/
def bind (construction : Construction) (key value : Nat) : List (Nat × Nat) → List (Nat × Nat)
  | [] => [(key, value)]
  | (other, old) :: rest =>
    if construction.sameKey key other then (other, value) :: rest
    else (other, old) :: construction.bind key value rest

/-- The entries of a mapping as parts. -/
def dictOf (id : Nat) : Make (List (Nat × Nat)) := do
  flatten id
  (← entriesAt id).foldlM (fun entries (keyNode, valueNode) => do
    let key ← make keyNode
    match (← get).data[key]? with
    | some (.atom _) => pure ()
    | _ => throw (.constructing .mapping)
    let value ← make valueNode
    return (← get).bind key value entries) []

/-- The single pairs of an ordered collection as parts. -/
def singlesOf (collection : Collection) (node : Node) : Make (List Nat) := do
  match node with
  | .sequence _ items => items.mapM fun item => do
    match (← get).nodeAt item with
    | .mapping _ [(keyNode, valueNode)] =>
      let key ← make keyNode
      let value ← make valueNode
      let id := (← get).data.size
      modify fun construction =>
        { construction with data := construction.data.push (.pair key value) }
      return id
    | _ => throw (.constructing collection)
  | _ => throw (.constructing collection)

/-- What a collection holds. -/
def filled (id : Nat) : Make Datum := do
  let node := (← get).nodeAt id
  match Kind.ofTag? node.tag, node with
  | some .orderedMap, node => .list <$> singlesOf .orderedMap node
  | some .pairs, node => .list <$> singlesOf .pairs node
  | some .set, .mapping .. =>
    let members := (← dictOf id).map Prod.fst
    let data := (← get).data
    return .set (Places.ordered (fun member => data[member]?.bind Datum.atom?) members)
  | some .mapping, .mapping .. => .dict <$> dictOf id
  | some .sequence, .sequence _ items => .list <$> items.mapM make
  | some .sequence, node => throw (.expectedNode "sequence" node.sort)
  | _, node => throw (.expectedNode "mapping" node.sort)

/-- Fill the collections, from a place in their order on. Filling one may make others, which come
behind it; the bound counts the nodes. -/
def fillFrom : (fuel : Nat) → Nat → Make Unit
  | 0, _ => return
  | fuel + 1, index => do
    match (← get).opened[index]? with
    | none => return
    | some (id, made) =>
      let datum ← filled id
      modify fun construction =>
        { construction with data := construction.data.modify made fun _ => datum }
      fillFrom fuel (index + 1)

end Construction

/-- What a document says. -/
def Content.ofDocument (document : Document) : Except Fault Content := do
  let nodes := document.nodes
  let steps : Construction.Make Nat := do
    let root ← Construction.make document.root
    Construction.fillFrom (nodes.size + 1) 0
    return root
  let (root, construction) ← steps.run ⟨nodes, #[], nodes.map fun _ => none, #[]⟩
  return ⟨construction.data, root⟩

/-- Whether a text may hold a character. -/
def isAcceptable (c : Char) : Bool :=
  let n := c.toNat
  n == 0x9 || n == 0xA || n == 0xD || (0x20 ≤ n && n ≤ 0x7E) || n == 0x85 ||
    (0xA0 ≤ n && n ≤ 0xD7FF) || (0xE000 ≤ n && n ≤ 0xFFFD) || 0x10000 ≤ n

/-- What a text says: what its only document says, or nothing if it has none. -/
def Content.ofText (text : List Char) : Except Fault Content :=
  match text.find? fun c => !isAcceptable c with
  | some c => .error (.unacceptable c.toNat)
  | none => do
    match ← Document.ofText? text with
    | some document => Content.ofDocument document
    | none => return .nothing

end Stencil.Yaml
