import Stencil.Code.Value
import Stencil.Code.Path
import Stencil.Template.Template

/-!
# The store of generated code

Statements, bodies, modules and packages are shared: the same statement may
stand in several bodies, and what is pushed into a body shows wherever the body
is used. So they live in a store and values refer to them by number. An object
is never removed and never changes its sort, and a body holds statements only.

`Build` is the monad of building steps. A step that fails keeps what it had
already done: an extension that meets a value that is no statement has pushed
the statements before it.
-/

namespace Stencil.Code

/-- A stored statement. The bodies of a conditional are replaceable, so any value may stand there;
a function keeps its body. -/
inductive Statement where
  | assignment (target value : Value)
  | result (expression : Value)
  | raw (line : String)
  | function (name : String) (args : List String) (body : Nat)
  | conditional (condition thenBody elseBody : Value)
deriving Repr

/-- The shape of a statement. -/
def Statement.shape : Statement → Shape
  | assignment .. => .assignment
  | result _ => .result
  | raw _ => .raw
  | function .. => .function
  | conditional .. => .conditional

/-- A module: where its file goes, and its body. -/
structure Module where
  path : Path
  body : Nat
deriving Repr

/-- A package: its directory, its root module, and what was attached to it. -/
structure Package where
  path : Path
  root : Nat
  modules : List Ref
  packages : List Ref
deriving Repr

/-- How far an iterator has come. Over a body or a growing list it looks at what is there when it
is asked; once at the end it stays there. -/
inductive Walk where
  | rest (items : List Value)
  | block (id index : Nat)
  | cell (id index : Nat)
deriving Repr

/-- All objects there are. -/
structure Store where
  statements : Array Statement
  blocks : Array (List StatementRef)
  modules : Array Module
  packages : Array Package
  templates : Array Template.Template
  walks : Array Walk
  cells : Array (List Value)
deriving Repr

/-- No objects. -/
def Store.empty : Store := ⟨#[], #[], #[], #[], #[], #[], #[]⟩

namespace Store

/-- The statements of a body. -/
def block (store : Store) (id : Nat) : List StatementRef := store.blocks[id]?.getD []

/-- The items of a growing list. -/
def cell (store : Store) (id : Nat) : List Value := store.cells[id]?.getD []

/-- What an iterator has still to give. -/
def remaining (store : Store) : Walk → List Value
  | .rest items => items
  | .block id index => ((store.block id).drop index).map (.object ∘ .statement)
  | .cell id index => (store.cell id).drop index

end Store

/-- The place behind the item given next. -/
def Walk.advance : Walk → Walk
  | rest items => rest items.tail
  | block id index => block id (index + 1)
  | cell id index => cell id (index + 1)

/-- Building steps: they change the store, also when they fail. -/
abbrev Build (α : Type) := ExceptT Fault (StateM Store) α

namespace Build

/-- Store a body. -/
def newBlock : Build Nat := do
  let id := (← get).blocks.size
  modify fun store => { store with blocks := store.blocks.push [] }
  return id

/-- Store a statement. -/
def newStatement (statement : Statement) : Build StatementRef := do
  let id := (← get).statements.size
  modify fun store => { store with statements := store.statements.push statement }
  return ⟨statement.shape, id⟩

/-- Store a growing list. -/
def newCell (items : List Value) : Build Ref := do
  let id := (← get).cells.size
  modify fun store => { store with cells := store.cells.push items }
  return .cell id

/-- Store a module. -/
def newModule (name : String) : Build Nat := do
  let body ← newBlock
  let id := (← get).modules.size
  let path := Path.ofText (name ++ ".py")
  modify fun store => { store with modules := store.modules.push ⟨path, body⟩ }
  return id

/-- Put a module's file below a directory. -/
def moveModule (directory : Path) (id : Nat) : Build Unit :=
  modify fun store =>
    { store with
      modules := store.modules.modify id fun item =>
        { item with path := directory.join item.path } }

/-- Store a package with its root module. -/
def newPackage (name : String) : Build Nat := do
  let root ← newModule "__init__"
  let path := Path.ofText name
  moveModule path root
  let id := (← get).packages.size
  modify fun store => { store with packages := store.packages.push ⟨path, root, [], []⟩ }
  return id

/-- Put a statement at the end of a body. -/
def push (block : Nat) (value : Value) : Build Unit :=
  match value with
  | .object (.statement ref) =>
    modify fun store => { store with blocks := store.blocks.modify block (· ++ [ref]) }
  | value => throw (.notStatement value.kind)

/-- Put values at the end of a body, one by one. -/
def pushAll (block : Nat) : List Value → Build Unit
  | [] => pure ()
  | value :: rest => do
    push block value
    pushAll block rest

/-- What walking through a value gives. -/
inductive Supply where
  | items (items : List Value)
  | walk (id : Nat)
  | block (id : Nat)
  | cell (id : Nat)

/-- The characters of a text as values. -/
def characters (text : String) : List Value :=
  text.toList.map fun c => .text (String.singleton c)

/-- How to walk through a value. -/
def supply (value : Value) : Except Fault Supply :=
  match value.plain with
  | .list items => .ok (.items items)
  | .tuple items => .ok (.items items)
  | .text text => .ok (.items (characters text))
  | .bytes bytes => .ok (.items (bytes.map fun byte => .int byte.toNat))
  | .dict entries => .ok (.items (entries.map Prod.fst))
  | .object (.iterator _ id) => .ok (.walk id)
  | .object (.block id) => .ok (.block id)
  | .object (.cell id) => .ok (.cell id)
  | _ => .error (.notIterable value.kind)

/-- How far an iterator has come. -/
def walkAt (id : Nat) : Build Walk := return (← get).walks[id]?.getD (.rest [])

/-- Note how far an iterator has come. -/
def setWalk (id : Nat) (walk : Walk) : Build Unit :=
  modify fun store => { store with walks := store.walks.modify id fun _ => walk }

/-- Start an iterator over a value. An iterator is its own. -/
def iterate (value : Value) : Build Value := do
  let start (walked : Walked) (walk : Walk) : Build Value := do
    let id := (← get).walks.size
    modify fun store => { store with walks := store.walks.push walk }
    return .object (.iterator walked id)
  let walked : Walked := match value.plain with
    | .tuple _ => .tuple
    | .text text => if text.toList.all (·.toNat < 0x80) then .asciiText else .text
    | .bytes _ => .bytes
    | .dict _ => .dict
    | _ => .list
  match ← supply value with
  | .items items => start walked (.rest items)
  | .walk _ => return value
  | .block id => start walked (.block id 0)
  | .cell id => start walked (.cell id 0)

/-- The next item of an iterator, if there is one. -/
def next? (id : Nat) : Build (Option Value) := do
  let walk ← walkAt id
  match (← get).remaining walk with
  | [] =>
    setWalk id (.rest [])
    return none
  | item :: _ =>
    setWalk id walk.advance
    return some item

/-- Put the given items of an iterator at the end of a body, the iterator advancing with each. -/
def pushWalked (block id : Nat) : List Value → Build Unit
  | [] => setWalk id (.rest [])
  | value :: rest => do
    setWalk id (← walkAt id).advance
    push block value
    pushWalked block id rest

/-- Put everything that a value gives at the end of a body. A body that is extended by itself
would never come to the end, since each statement pushed is another one to push. -/
def extend (block : Nat) (value : Value) : Build Unit := do
  let store ← get
  match ← supply value with
  | .items items => pushAll block items
  | .cell id => pushAll block (store.cell id)
  | .block id =>
    let items := store.remaining (.block id 0)
    if id = block ∧ items ≠ [] then throw .endless
    pushAll block items
  | .walk id =>
    let walk ← walkAt id
    let items := store.remaining walk
    match walk, items with
    | .block source _, _ :: _ => if source = block then throw .endless
    | _, _ => pure ()
    pushWalked block id items

/-- Put everything that a value gives at the end of a growing list. -/
def extendCell (cell : Nat) (value : Value) : Build Unit := do
  let store ← get
  let append (items : List Value) : Build Unit :=
    modify fun store => { store with cells := store.cells.modify cell (· ++ items) }
  match ← supply value with
  | .items items => append items
  | .cell id => append (store.cell id)
  | .block id => append (store.remaining (.block id 0))
  | .walk id =>
    let walk ← walkAt id
    let items := store.remaining walk
    match walk, items with
    | .cell source _, _ :: _ => if source = cell then throw .endless
    | _, _ => pure ()
    append items
    setWalk id (.rest [])

/-- The statement behind a reference. -/
def statementAt (ref : StatementRef) : Build Statement :=
  return (← get).statements[ref.id]?.getD (.raw "")

/-- Replace the statement behind a reference. -/
def setStatement (ref : StatementRef) (statement : Statement) : Build Unit :=
  modify fun store =>
    { store with statements := store.statements.modify ref.id fun _ => statement }

/-- The body of a module. -/
def moduleBody (id : Nat) : Build Nat := return (((← get).modules[id]?).map Module.body).getD 0

/-- The root module of a package. -/
def packageRoot (id : Nat) : Build Nat := return (((← get).packages[id]?).map Package.root).getD 0

/-- The body that an object's statements go into, if it takes statements. -/
def bodyOf? : Ref → Build (Option Nat)
  | .block id => return some id
  | .module id => return some (← moduleBody id)
  | .package id => return some (← moduleBody (← packageRoot id))
  | .statement ref => do
    match ← statementAt ref with
    | .function _ _ body => return some body
    | _ => return none
  | _ => return none

/-- Put a statement into whatever takes statements. -/
def pushOnto (target value : Value) : Build Value := do
  let refused : Build Value := throw (.noAttribute target.kind "push")
  match target with
  | .object ref =>
    match ← bodyOf? ref with
    | some block =>
      push block value
      return target
    | none => refused
  | _ => refused

/-- Extend whatever takes statements. A growing list takes any values and gives nothing back. -/
def extendOnto (target value : Value) : Build Value := do
  let refused : Build Value := throw (.noAttribute target.kind "extend")
  match target with
  | .object (.cell id) =>
    extendCell id value
    return .none
  | .object ref =>
    match ← bodyOf? ref with
    | some block =>
      extend block value
      return target
    | none => refused
  | .list _ =>
    let _ ← supply value
    return .none
  | _ => refused

/-- Add a parameter to a function. -/
def addArg (target : Value) (arg : String) : Build Value := do
  let refused : Build Value := throw (.noAttribute target.kind "add_arg")
  match target with
  | .object (.statement ref) =>
    match ← statementAt ref with
    | .function name args body =>
      setStatement ref (.function name (args ++ [arg]) body)
      return target
    | _ => refused
  | _ => refused

/-- The two bodies of a conditional. -/
inductive Branch where
  | thenBranch
  | elseBranch
deriving DecidableEq, Repr

/-- The operation that replaces a body. -/
def Branch.operation : Branch → String
  | thenBranch => "with_body_if"
  | elseBranch => "with_body_else"

/-- Replace a body of a conditional by what a step makes of it. If the step fails the body stays. -/
def withBody (branch : Branch) (target : Value) (step : Value → Build Value) : Build Value := do
  let refused : Build Value := throw (.noAttribute target.kind branch.operation)
  match target with
  | .object (.statement ref) =>
    match ← statementAt ref with
    | .conditional _ thenBody elseBody =>
      let body ← step (match branch with
        | .thenBranch => thenBody
        | .elseBranch => elseBody)
      match ← statementAt ref with
      | .conditional condition thenBody elseBody =>
        setStatement ref (match branch with
          | .thenBranch => .conditional condition body elseBody
          | .elseBranch => .conditional condition thenBody body)
        return target
      | _ => refused
    | _ => refused
  | _ => refused

/-- A new body of the given values. -/
def blockOf (values : Value) : Build Value := do
  let block ← newBlock
  extend block values
  return .object (.block block)

/-- Put an object's files below a directory, with all that is attached to it. The bound counts the
packages below each other. -/
def move (directory : Path) : Nat → Ref → Build Unit
  | _, .module id => moveModule directory id
  | 0, .package _ => throw .tooDeep
  | fuel + 1, .package id => do
    match (← get).packages[id]? with
    | none => pure ()
    | some item =>
      modify fun store =>
        { store with
          packages := store.packages.modify id fun item =>
            { item with path := directory.join item.path } }
      moveModule directory item.root
      item.modules.forM (move directory fuel)
      item.packages.forM (move directory fuel)
  | _, ref => throw (.noAttribute ref.kind "_move_under")

/-- What is attached to a package. -/
inductive Attachment where
  | module
  | package
deriving DecidableEq, Repr

/-- The operation that attaches. -/
def Attachment.operation : Attachment → String
  | module => "add_module"
  | package => "add_package"

/-- Attach an object to a package: its files move below the package's directory. Whatever has
files can be attached either way. -/
def attach (sort : Attachment) (target child : Value) : Build Value := do
  match target with
  | .object (.package id) =>
    match (← get).packages[id]? with
    | none => throw (.noAttribute target.kind sort.operation)
    | some item =>
      match child with
      | .object ref =>
        move item.path ((← get).packages.size + 1) ref
        modify fun store =>
          { store with
            packages := store.packages.modify id fun item => match sort with
              | .module => { item with modules := item.modules ++ [ref] }
              | .package => { item with packages := item.packages ++ [ref] } }
        return target
      | child => throw (.noAttribute child.kind "_move_under")
  | target => throw (.noAttribute target.kind sort.operation)

end Build

end Stencil.Code
