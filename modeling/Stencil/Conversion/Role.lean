import Stencil.Conversion.Table
import Stencil.Conversion.Kind
import Stencil.Conversion.Order
import Stencil.Conversion.Recipe

/-!
# Roles

A role is a class whose functions convert values; its rule table says which
function converts which pair. The table is assembled when the role is defined:

* the tables of the bases come first, from left to right. An inherited rule
  passes to what the definition itself binds to the name of the rule's function,
  if that can be called and declares no pairs: a function, or a kind that stands
  at an end of the top-level conversion;
* then every pair that a function assigned in the definition declares, in the
  order of assignment, also where the name is assigned again later. A pair that
  was inherited may not be declared again;
* then the pairs that the role requires are checked, each taken apart only when
  its turn comes.

A bare class has members and no table. It is no role, but a base of roles and of
other bare classes: its members take part in the search for methods. A class
that is built on a role is a role. What a bare class binds to the name of the
rule table is not read as one.

Functions are shared objects. Declaring further pairs for a function changes no
table that is assembled already. Plain values are data here: none of them can be
called.
-/

namespace Stencil.Conversion

open Code

/-- What happens when a function is called. -/
inductive Callee where
  | recipe (recipe : Recipe)
  /-- The kind of a tag is asked for a value. -/
  | construction (tag : Tag)
deriving Repr

/-- A function: its name, the pairs that it declares, the class that it was written in, and what
it does. -/
structure Function where
  name : String
  pairs : List Pair
  home : Option Nat
  callee : Callee
deriving Repr

/-- A member of a class. -/
inductive Member where
  | function (id : Nat)
  | value (value : Value)
  | tag (tag : Tag)
  | pairs (pairs : List Pair)
  /-- The top-level conversion that every role has. -/
  | conversion
  /-- A method that needs one argument more than a value. -/
  | further (method argument : String)
  /-- A method that takes no value. -/
  | listing (method : String)
  /-- The rule table. -/
  | table
deriving Repr

/-- A class. The order lists the class itself and all that it is built on, in the order in which
members are searched. A bare class has no table. -/
structure Role where
  name : String
  order : List Nat
  members : List (String × Member)
  table : Option (Table Nat)
deriving Repr

/-- The member that holds what a role's top-level conversion goes from. -/
def inputField : String := "INPUT_TYPE"

/-- The member that holds what a role's top-level conversion goes to. -/
def outputField : String := "OUTPUT_TYPE"

/-- The member that holds the pairs that a role requires. -/
def requiredField : String := "REQUIRED_RULES"

/-- The method that lists what a role requires. -/
def requiredMethod : String := "required_rules"

/-- The method that gives a role's rule table. -/
def rulesMethod : String := "rules"

/-- The method that converts a value by the rule for its kind. -/
def convertMethod : String := "make_from"

/-- The method that converts items one by one. -/
def streamMethod : String := "make_from_iter"

/-- The member that holds a role's rule table. -/
def tableField : String := "_rule_table"

/-- All functions and classes. Functions are also known by labels and classes by names; a name
taken twice means the later one. A kind that was bound to a name is known by its tag, as the function
that calling it is. -/
structure Registry where
  functions : Array Function
  labels : List (String × Nat)
  kinds : List (Tag × Nat)
  roles : Array Role
  names : List (String × Nat)
deriving Repr

/-- The two ends of a top-level conversion. -/
inductive Side where
  | input
  | output
deriving DecidableEq, Repr

/-- The member that holds an end of a role's top-level conversion. -/
def Side.field : Side → String
  | input => inputField
  | output => outputField

/-- What stands at an end of a top-level conversion: a tag, or a function, which is at the end of no
rule. -/
inductive End where
  | tag (tag : Tag)
  | function
deriving Repr

namespace End

/-- An end as it is named in messages. A function is shown without its address. -/
def label : End → String
  | tag held => held.label
  | function => "<function>"

/-- The kind of what keeps an end from being in a key. -/
def unhashable? : End → Option String
  | tag held => held.unhashable?
  | function => none

/-- The pair of two ends, for a role. -/
def pair (role : String) : End → End → Except Fault Pair
  | tag input, tag output => .ok (.ofTags input output)
  | input, output => match input.unhashable? <|> output.unhashable? with
    | some kind => .error (.unhashable kind)
    | none => .error (.missingRule role input.label output.label)

end End

/-- A pair that is required, or what has to be one: a value, or the ends of a role's top-level
conversion. -/
inductive Requirement where
  | pair (pair : Pair)
  | value (value : Value)
  | conversion (role : String) (input output : End)
deriving Repr

namespace Requirement

/-- The pair that is required. -/
def toPair : Requirement → Build Pair
  | pair required => return required
  | value listed => do
    let (input, output) ← partsOf listed
    return .ofTags (.mark input) (.mark output)
  | conversion role input output => input.pair role output

/-- Check that a table has what is required; the first that it has not is the fault. -/
def check (table : Table Nat) : List Requirement → Build Unit
  | [] => return
  | requirement :: rest => do
    let _ ← table.resolve (← requirement.toPair)
    check table rest

end Requirement

namespace Registry

/-- The class that everything is built on. -/
def root : Role := ⟨"object", [0], [], none⟩

/-- The class that roles are built on: no conversion, nothing required, no rules. -/
def base : Role :=
  ⟨"Role", [1, 0],
    [(inputField, .tag .absent), (outputField, .tag .absent), (requiredField, .pairs []),
      ("make", .conversion), (convertMethod, .further "Role.make_from" "output_type"),
      (streamMethod, .further "Role.make_from_iter" "output_type"),
      (rulesMethod, .listing "Role.rules"), (requiredMethod, .listing "Role.required_rules"),
      (tableField, .table)],
    some (.empty "Role")⟩

/-- No functions, and no classes but the two that others are built on. -/
def initial : Registry := ⟨#[], [], [], #[root, base], [("Role", 1)]⟩

/-- The pairs that a function declares. -/
def pairsOf (registry : Registry) (id : Nat) : List Pair :=
  (registry.functions[id]?.map Function.pairs).getD []

/-- A function's name. -/
def nameOf (registry : Registry) (id : Nat) : String :=
  (registry.functions[id]?.map Function.name).getD ""

/-- The function that calling the kind of a tag is, if the kind was bound to a name. -/
def kindOf? (registry : Registry) (tag : Tag) : Option Nat :=
  (registry.kinds.find? fun held => held.1.same tag).map Prod.snd

/-- The order of a class. -/
def orderOf (registry : Registry) (id : Nat) : List Nat :=
  (registry.roles[id]?.map Role.order).getD []

/-- A class's name. -/
def roleName (registry : Registry) (id : Nat) : String :=
  (registry.roles[id]?.map Role.name).getD ""

/-- The first member of a name in an order of classes. -/
def member? (registry : Registry) (order : List Nat) (field : String) : Option Member :=
  order.findSome? fun id => registry.roles[id]?.bind fun role => role.members.lookup field

/-- Check that a member can be called as the methods are that every role has, if there is one. A
function takes a value and nothing else, so it refuses the call, with the complaint that is given. -/
def checkCallable (registry : Registry) (member : Option Member) (absent : Fault)
    (complaint : String) : Except Fault Unit :=
  match member with
  | some (.value held) => .error (.notCallable held.kind)
  | some (.function id) => .error (.unfitCall (registry.nameOf id ++ "() " ++ complaint))
  | some _ => .ok ()
  | none => .error absent

/-- Check that a method can be called on a class itself. -/
def checkMethod (registry : Registry) (role : Role) (method : String) : Except Fault Unit :=
  registry.checkCallable (registry.member? role.order method) (.noRole role.name method)
    "missing 2 required positional arguments: 'self' and 'value'"

/-- What stands at an end of the top-level conversion, if there is anything. -/
def end? (registry : Registry) (order : List Nat) (side : Side) : Option End :=
  match registry.member? order side.field with
  | some (.tag tag) => tag.given?.map .tag
  | some (.value value) => (Tag.mark value).given?.map .tag
  | some (.function _) => some .function
  | _ => none

/-- The ends of the top-level conversion, if there is one. -/
def conversion? (registry : Registry) (order : List Nat) : Option (End × End) := do
  return (← registry.end? order .input, ← registry.end? order .output)

/-- What a role requires: what is listed, then the pair of its top-level conversion. -/
def required (registry : Registry) (order : List Nat) : Build (List Requirement) := do
  let listed ← match registry.member? order requiredField with
    | some (.pairs pairs) => pure (pairs.map .pair)
    | some (.value value) => do pure ((← itemsOf value).map .value)
    | some (.function _) => throw (.notIterable "function")
    | _ => pure []
  let conversion := (registry.conversion? order).map fun ends =>
    Requirement.conversion (registry.roleName (order.headD 0)) ends.1 ends.2
  return listed ++ conversion.toList

/-- The table of a role. -/
def table? (registry : Registry) (id : Nat) : Option (Table Nat) :=
  registry.roles[id]?.bind Role.table

end Registry

/-- One line of a definition. -/
inductive Item where
  /-- A new function, known by a label if one is given, that declares pairs. -/
  | define (field name : String) (pairs : List Pair) (recipe : Recipe) (label : Option String)
  /-- A function known by its label, which declares further pairs. -/
  | reuse (label field : String) (pairs : List Pair)
  /-- A plain value. -/
  | set (field : String) (value : Value)
  /-- An end of the top-level conversion. -/
  | tag (side : Side) (tag : Tag)
  /-- The required pairs. -/
  | required (pairs : List Pair)
deriving Repr

/-- What a class is defined by. The tags and the required pairs count where they are given. A role is
built on its bases, and a bare class on its mixins. -/
structure Definition where
  name : String
  bases : List String
  items : List Item
  input : Option Tag
  output : Option Tag
  required : Option (List Pair)
  bare : Bool
  mixins : List String := []
deriving Repr

namespace Definition

/-- The lines of a definition: its items, and behind them its tags and its required pairs. -/
def lines (definition : Definition) : List Item :=
  definition.items ++ (definition.input.map (.tag .input)).toList ++
    (definition.output.map (.tag .output)).toList ++ (definition.required.map .required).toList

/-- The names of the classes that a class is built on. -/
def below (definition : Definition) : List String :=
  if definition.bare then definition.mixins else definition.bases

end Definition

/-- The members assigned so far, newest first, and the pairs declared so far, oldest first. -/
structure Body where
  members : List (String × Member)
  declared : List (Pair × Nat)
deriving Repr

namespace Body

/-- Nothing assigned. -/
def empty : Body := ⟨[], []⟩

/-- Assign a member that declares pairs. -/
def assign (body : Body) (field : String) (id : Nat) (pairs : List Pair) : Body :=
  ⟨(field, .function id) :: body.members, body.declared ++ pairs.map fun pair => (pair, id)⟩

/-- Assign a member that declares nothing. -/
def set (body : Body) (field : String) (member : Member) : Body :=
  { body with members := (field, member) :: body.members }

end Body

/-- Steps that change what there is of functions and classes, also when they fail. Walking through
values may change the store. -/
abbrev Assembly (α : Type) := ExceptT Fault (StateT Registry (StateM Store)) α

namespace Assembly

/-- A building step. -/
def building {α : Type} (step : Build α) : Assembly α := fun registry store =>
  let (result, store) := step.run store
  ((result, registry), store)

/-- Pairs as a function declares them behind the `count` pairs that it has. -/
def placed (function count : Nat) : List Pair → List Pair
  | [] => []
  | pair :: rest =>
    { pair with origin := some ⟨function, count⟩ } :: placed function (count + 1) rest

/-- A new function. -/
def newFunction (name : String) (pairs : List Pair) (recipe : Recipe) (label : Option String) :
    Assembly Nat := do
  let id := (← get).functions.size
  modify fun registry =>
    { registry with
      functions := registry.functions.push ⟨name, placed id 0 pairs, none, .recipe recipe⟩
      labels := (label.toList.map fun label => (label, id)) ++ registry.labels }
  return id

/-- The function of a label. -/
def labelled (label : String) : Assembly Nat := do
  match (← get).labels.lookup label with
  | some id => return id
  | none => throw (.missingKey (Text.display label))

/-- Let a function declare further pairs. -/
def declare (id : Nat) (pairs : List Pair) : Assembly Unit :=
  modify fun registry =>
    { registry with
      functions := registry.functions.modify id fun function =>
        { function with
          pairs := function.pairs ++ placed id function.pairs.length pairs } }

/-- Let a kind be known as a function. -/
def bindKind (tag : Tag) : Assembly Unit :=
  modify fun registry =>
    if tag.isKind && (registry.kindOf? tag).isNone then
      { registry with
        functions := registry.functions.push ⟨tag.label, [], none, .construction tag⟩
        kinds := registry.kinds ++ [(tag, registry.functions.size)] }
    else registry

/-- Assign what an item says. -/
def item (body : Body) : Item → Assembly Body
  | .define field name pairs recipe label => do
    let id ← newFunction name pairs recipe label
    return body.assign field id ((← get).pairsOf id)
  | .reuse label field pairs => do
    let id ← labelled label
    declare id pairs
    return body.assign field id ((← get).pairsOf id)
  | .set field value => return body.set field (.value value)
  | .tag side tag => do
    bindKind tag
    return body.set side.field (.tag tag)
  | .required pairs => return body.set requiredField (.pairs pairs)

/-- Assign what a definition says. -/
def body (definition : Definition) : Assembly Body := definition.lines.foldlM item Body.empty

/-- The class of a name. -/
def named (name : String) : Assembly Nat := do
  match (← get).names.lookup name with
  | some id => return id
  | none => throw (.missingKey (Text.display name))

/-- The classes that a class is built on. Of those that a bare class names only bare ones count. -/
def basesOf (definition : Definition) : Assembly (List Nat) := do
  let bases ← definition.below.mapM named
  let registry ← get
  return if definition.bare then bases.filter fun base => (registry.table? base).isNone else bases

end Assembly

/-- The first item that a list holds twice. -/
def repeated? : List Nat → Option Nat
  | [] => none
  | item :: rest => if rest.contains item then some item else repeated? rest

namespace Registry

/-- How many bytes of the wording about bases are kept. -/
def basesLimit : Nat := 999

/-- The fault of bases that cannot be put into one order. Its wording is cut without regard to
characters. -/
def basesFault (classes : List String) : Fault :=
  let text := "Cannot create a consistent method resolution\norder (MRO) for bases "
    ++ ", ".intercalate classes
  match Text.decode ((Text.encode text.toList).take basesLimit) with
  | .ok kept => .inconsistentBases (String.ofList kept)
  | .error fault => .encoding fault

/-- The order of a new class, which will have the number `id`. -/
def newOrder (registry : Registry) (id : Nat) (bases : List Nat) : Except Fault (List Nat) := do
  if let some base := repeated? bases then throw (.duplicateBase (registry.roleName base))
  let bases := if bases = [] then [0] else bases
  match Order.merge (bases.map registry.orderOf ++ [bases]) with
  | .ok order => return id :: order
  | .error classes => throw (basesFault (classes.map registry.roleName))

/-- What a body finally binds to a name, if that can be called and declares no pairs. -/
def plain? (registry : Registry) (body : Body) (name : String) : Option Nat :=
  match body.members.lookup name with
  | some (.function id) => if (registry.pairsOf id).isEmpty then some id else none
  | some (.tag tag) => registry.kindOf? tag
  | _ => none

/-- An inherited rule as a new class has it: it passes to what the class itself binds to the name of
the rule's function, if that can be called and declares no pairs. -/
def inherit (registry : Registry) (body : Body) (owner : String) (rule : Rule Nat) : Rule Nat :=
  match registry.plain? body (registry.nameOf rule.function) with
  | some id => { rule with function := id, owner }
  | none => rule

/-- The rules of the bases, put together. -/
def inherited (registry : Registry) (body : Body) (owner : String) (bases : List Nat) :
    Except Fault (Table Nat) :=
  let rules := bases.flatMap fun base => ((registry.table? base).map Table.rules).getD []
  (rules.map (registry.inherit body owner)).foldlM Table.add (.empty owner)

/-- Add a declared pair. What was inherited may not be declared again. -/
def addDeclared (keys : List Pair) (table : Table Nat) (declared : Pair × Nat) :
    Except Fault (Table Nat) := do
  declared.1.checkKey
  if keys.any declared.1.same then throw (table.duplicate declared.1)
  table.add ⟨declared.1, declared.2, table.role⟩

/-- The table of a new role. -/
def assemble (registry : Registry) (body : Body) (owner : String) (bases : List Nat) :
    Except Fault (Table Nat) := do
  let table ← registry.inherited body owner bases
  body.declared.foldlM (addDeclared table.keys) table

/-- The class that a definition's body makes. Its rule table is a member of its own. -/
def newRole (registry : Registry) (definition : Definition) (body : Body) (bases : List Nat) :
    Except Fault Role := do
  checkName definition.name
  let order ← registry.newOrder registry.roles.size bases
  if definition.bare then return ⟨definition.name, order, body.members, none⟩
  let table ← registry.assemble body definition.name bases
  return ⟨definition.name, order, (body.set tableField .table).members, some table⟩

/-- The registry with a new class. The functions numbered from `first` on were written in it. -/
def withRole (registry : Registry) (name : String) (role : Role) (first : Nat) : Registry :=
  let id := registry.roles.size
  { registry with
    functions := registry.functions.mapIdx fun index function =>
      if first ≤ index then { function with home := some id } else function
    roles := registry.roles.push role
    names := (name, id) :: registry.names }

end Registry

namespace Assembly

/-- Check that a new role has the rules that it requires. -/
def checkRequired (role : Role) : Assembly Unit := do
  match role.table with
  | none => return
  | some table =>
    let registry ← get
    let within := { registry with roles := registry.roles.push role }
    within.checkMethod role requiredMethod
    building do Requirement.check table (← within.required role.order)

/-- Define a class. -/
def define (definition : Definition) : Assembly Nat := do
  let bases ← basesOf definition
  let first := (← get).functions.size
  let body ← body definition
  let role ← (← get).newRole definition body bases
  checkRequired role
  let id := (← get).roles.size
  modify fun registry => registry.withRole definition.name role first
  return id

end Assembly

end Stencil.Conversion
