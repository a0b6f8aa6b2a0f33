import Stencil.Conversion.Role
import Stencil.Code.Cast

/-!
# Dispatch

Converting a value on a role: the role's table is asked for the rule of the
value's kind (or of an input tag that is given instead) and the output tag, and
the rule's function is called. A function can ask for further conversions and
methods; so calls are nested, up to a bound.

Every call of a recipe is noted with the function's name and the value's text
before it does anything. Methods, unlike rules, are searched by name along the
order of classes.
-/

namespace Stencil.Conversion

open Code

/-- A role with a configuration. -/
structure Instance where
  role : Nat
  config : List (String × Value)
deriving Repr

/-- A call that was made: the function's name and the value's text. -/
structure Call where
  function : String
  shown : String
deriving DecidableEq, Repr

/-- Where the items of a stream come from. -/
inductive Source where
  | walk (id : Nat)
  | stream (id : Nat)
deriving DecidableEq, Repr

/-- Items that are converted when they are asked for. The function is fixed in advance if the
input tag is given. -/
structure Stream where
  on : Instance
  output : Tag
  function : Option Nat
  source : Source
  finished : Bool
deriving Repr

/-- Everything that conversions work with. The calls are those made so far, newest first. -/
structure Desk where
  store : Store
  registry : Registry
  streams : Array Stream
  calls : List Call
deriving Repr

/-- Nothing but the two classes that others are built on. -/
def Desk.initial : Desk := ⟨.empty, .initial, #[], []⟩

/-- Conversion steps: they change what is on the desk, also when they fail. -/
abbrev Convert (α : Type) := ExceptT Fault (StateM Desk) α

namespace Convert

/-- Change the store. -/
def building {α : Type} (step : Build α) : Convert α := fun desk =>
  let (result, store) := step.run desk.store
  (result, { desk with store })

/-- Change the functions and classes. -/
def assembling {α : Type} (step : Assembly α) : Convert α := fun desk =>
  let ((result, registry), store) := step.run desk.registry desk.store
  (result, { desk with registry, store })

/-- The text of a value. -/
def textOf (value : Value) : Convert String := do (← get).store.text value

/-- Note a call. -/
def note (function shown : String) : Convert Unit :=
  modify fun desk => { desk with calls := ⟨function, shown⟩ :: desk.calls }

/-- The rules of a role. -/
def tableOf (role : Nat) : Convert (Table Nat) := do
  return ((← get).registry.table? role).getD (.empty "")

/-- Check that a method can be called on a class itself. -/
def checkMethod (role : Nat) (method : String) : Convert Unit := do
  let registry := (← get).registry
  match registry.roles[role]? with
  | some held => registry.checkMethod held method
  | none => return

/-- The rules of a role as its method lists them. A bare class has no such method. -/
def listedTable (role : Nat) : Convert (Table Nat) := do
  checkMethod role rulesMethod
  tableOf role

/-- What a role requires, as its method lists it. -/
def requiredPairs (role : Nat) : Convert (List Pair) := do
  checkMethod role requiredMethod
  let registry := (← get).registry
  building do (← registry.required (registry.orderOf role)).mapM Requirement.toPair

end Convert

/-- What a recipe can ask of the role that it runs on. -/
structure Role.Reach where
  /-- Call a function. -/
  call : Nat → Value → Convert Value
  /-- Check that a method can be called with a value, an output tag, and an input tag if one is
  given. -/
  check : String → Option Tag → Convert Unit
  /-- The function of the rule for a pair. -/
  resolve : Pair → Convert Nat
  /-- What a method gives. -/
  method : String → Value → Convert Value
  /-- What a method further on in the order of classes gives. -/
  inherited : String → Value → Convert Value
  /-- The configuration. -/
  config : List (String × Value)

namespace Role.Reach

/-- Convert a value. The input tag is the value's kind unless one is given. -/
def convert (reach : Role.Reach) (value : Value) (output : Tag) (input : Option Tag) :
    Convert Value := do
  reach.check convertMethod input
  let input := (input.bind Tag.given?).getD (.ofValue value)
  reach.call (← reach.resolve (.ofTags input output)) value

/-- The function that converts every item, where it is known in advance. -/
def fixed? (reach : Role.Reach) (output : Tag) (input : Option Tag) : Convert (Option Nat) := do
  reach.check streamMethod input
  match input.bind Tag.given? with
  | some input => return some (← reach.resolve (.ofTags input output))
  | none => return none

/-- Convert an item by the function fixed in advance, or by the rule for its kind. -/
def convertItem (reach : Role.Reach) (function : Option Nat) (output : Tag) (item : Value) :
    Convert Value :=
  match function with
  | some id => reach.call id item
  | none => reach.convert item output none

/-- The texts of the converted items of an iterator, at most `count` of them. -/
def eachText (reach : Role.Reach) (function : Option Nat) (output : Tag) (walk : Nat) :
    (count : Nat) → Convert (List String)
  | 0 => return []
  | count + 1 => do
    match ← Convert.building (Build.next? walk) with
    | none => return []
    | some item =>
      let text ← Convert.textOf (← reach.convertItem function output item)
      return text :: (← reach.eachText function output walk count)

end Role.Reach

/-- The number of a value's iterator, and how many items it can still give. -/
def iteratorOf (value : Value) : Convert (Nat × Nat) := do
  match ← Convert.building (Build.iterate value) with
  | .object (.iterator _ id) =>
    let walk ← Convert.building (Build.walkAt id)
    return (id, ((← get).store.remaining walk).length)
  | other => throw (.notIterable other.kind)

mutual

/-- What a recipe makes of a value. -/
def Recipe.run (reach : Role.Reach) (value : Value) : Recipe → Convert Value
  | .text written => return .text written
  | .value => return value
  | .shown before after => return .text (before ++ (← Convert.textOf value) ++ after)
  | .config key => do
    let first ← Convert.textOf value
    match reach.config.lookup key with
    | some entry => return .text (first ++ (← Convert.textOf entry))
    | none => throw (.missingKey (Text.display key))
  | .concat parts => return .text (String.join (← Recipe.runAll reach value parts))
  | .each output input separator => do
    let function ← reach.fixed? output input
    let (walk, count) ← iteratorOf value
    return .text (separator.intercalate (← reach.eachText function output walk count))
  | .via output input => reach.convert value output input
  | .inherited field => do
    let text ← Convert.textOf (← reach.inherited field value)
    return .text ("[" ++ text ++ "]")
  | .method field => reach.method field value
  | .refusal message => throw (.refused message)

/-- The texts of what recipes make of a value. -/
def Recipe.runAll (reach : Role.Reach) (value : Value) : List Recipe → Convert (List String)
  | [] => return []
  | part :: rest => do
    let text ← Convert.textOf (← part.run reach value)
    return text :: (← Recipe.runAll reach value rest)

end

namespace Instance

/-- How deep calls may be nested. -/
def callLimit : Nat := 1000

/-- The top-level conversion. -/
def makeWith (item : Instance) (reach : Role.Reach) (value : Value) : Convert Value := do
  let registry := (← get).registry
  let role := registry.roleName item.role
  match registry.conversion? (registry.orderOf item.role) with
  | some (input, output) =>
    let pair ← input.pair role output
    reach.convert value pair.output (some pair.input)
  | none => throw (.noConversion role)

/-- What a member gives for a value, if there is one and it can be called. -/
def callMember (item : Instance) (reach : Role.Reach) (member : Option Member) (absent : Fault)
    (value : Value) : Convert Value :=
  match member with
  | some (.function id) => reach.call id value
  | some .conversion => item.makeWith reach value
  | some (.value held) => throw (.notCallable held.kind)
  | some (.tag tag) => Convert.building (tag.construct value)
  | some (.pairs _) => throw (.notCallable "tuple")
  | some (.further method argument) => throw (.missingArgument method argument)
  | some (.listing method) => throw (.surplusArgument method)
  | some .table => throw (.notCallable "RuleTable")
  | none => throw absent

/-- What a function complains of that gets tags behind its value, the input tag by its name. -/
def complaint (input : Option Tag) : String :=
  if input.isSome then "got an unexpected keyword argument 'input_type'"
  else "takes 2 positional arguments but 3 were given"

/-- The name under which an instance holds its configuration, which no member of its class hides. -/
def configField : String := "config"

/-- What a function can ask of an instance, if calls are made by `call`. The order of classes
further on is the part behind the function's own class, which the order has to have. -/
def reach (item : Instance) (call : Nat → Value → Convert Value) (home : Option Nat) :
    Role.Reach :=
  let plain : Role.Reach :=
    { call
      check := fun name input => do
        let registry := (← get).registry
        registry.checkCallable (registry.member? (registry.orderOf item.role) name)
          (.noAttribute (registry.roleName item.role) name) (complaint input)
      resolve := fun pair => do return (← (← Convert.tableOf item.role).resolve pair).function
      method := fun _ value => return value
      inherited := fun _ value => return value
      config := item.config }
  { plain with
    method := fun name value => do
      if name = configField then throw (.notCallable "dict")
      let registry := (← get).registry
      item.callMember plain (registry.member? (registry.orderOf item.role) name)
        (.noAttribute (registry.roleName item.role) name) value
    inherited := fun name value => do
      let registry := (← get).registry
      let order := registry.orderOf item.role
      if home.any fun id => !order.contains id then throw .foreignClass
      let rest := order.dropWhile fun id => some id != home
      item.callMember plain (registry.member? rest.tail name) (.noInherited name) value }

/-- Call a function on an instance. A kind that stands in the place of a function notes no call. -/
def callWithin (item : Instance) : (fuel : Nat) → Nat → Value → Convert Value
  | 0, _, _ => throw .tooDeep
  | fuel + 1, id, value => do
    let registry := (← get).registry
    match registry.functions[id]? with
    | none => throw .tooDeep
    | some function => match function.callee with
      | .construction tag => throw (tag.callFault (registry.roleName item.role) value)
      | .recipe recipe =>
        Convert.note function.name (← Convert.textOf value)
        recipe.run (item.reach (item.callWithin fuel) function.home) value

/-- What an instance can be asked for from outside. -/
def outerReach (item : Instance) : Role.Reach := item.reach (item.callWithin callLimit) none

/-- Convert a value by the rule for its kind, or for an input tag that is given, and the output
tag. -/
def convert (item : Instance) (value : Value) (output : Tag) (input : Option Tag) :
    Convert Value :=
  item.outerReach.convert value output input

/-- The top-level conversion of a role, by the member of that name. -/
def make (item : Instance) (value : Value) : Convert Value :=
  item.outerReach.method "make" value

end Instance

end Stencil.Conversion
