import Stencil.Code.Store

/-!
# Filling templates

A call gives each point of a template a value and builds the statements. Every
call makes new statements and bodies; the values given are passed on as they
are, so a statement given for a point stands in the result itself and not as a
copy.

Values are bound by name. The names given have to be exactly the template's
points.

A sequence that is spliced into a body is read item by item, and reading it may
fail, before its first item, between two items or behind the last. What was read
is then in the body already. A `Reading` is what a value gives and the fault that
comes behind it, if one does. Filling goes by readings; a value that is given as
it is is read to the end.
-/

namespace Stencil

open Code

namespace Code

/-- What reading a value gives: the items of the value, and a fault behind them if there is one. -/
structure Reading where
  value : Value
  ending : Option Fault

/-- Reading has come to the end. -/
def Reading.finish (reading : Reading) : Build Unit :=
  match reading.ending with
  | some fault => throw fault
  | none => pure ()

/-- A reading of a value that is read to the end. -/
def Value.read (value : Value) : Reading := ⟨value, .none⟩

end Code

namespace Template

/-- The values given for points, by name. -/
abbrev Bindings := List (String × Value)

/-- The value given for a name. -/
def Bindings.get (bindings : Bindings) (name : String) : Build Value :=
  match bindings.lookup name with
  | some value => pure value
  | none => throw (.missingKey (Text.display name))

/-- The readings given for points, by name. -/
abbrev Readings := List (String × Reading)

/-- The values that are read. -/
def Readings.values (readings : Readings) : Bindings :=
  readings.map fun given => (given.1, given.2.value)

/-- The end of the reading given for a name. -/
def Readings.finish (readings : Readings) (name : String) : Build Unit :=
  match readings.lookup name with
  | some reading => reading.finish
  | none => pure ()

/-- Values that are given as they are are read to the end. -/
def Bindings.read (bindings : Bindings) : Readings :=
  bindings.map fun given => (given.1, given.2.read)

/-- The values that are read are the ones that were given. -/
@[simp] theorem read_values (bindings : Bindings) : bindings.read.values = bindings := by
  simp [Bindings.read, Readings.values, Value.read, Function.comp_def]

/-- The names of values are those of their readings. -/
@[simp] theorem read_names (bindings : Bindings) :
    bindings.read.map Prod.fst = bindings.map Prod.fst := by
  simp [Bindings.read, Function.comp_def]

/-- The readings of values are looked up where the values are. -/
theorem read_lookup (bindings : Bindings) (name : String) :
    bindings.read.lookup name = (bindings.lookup name).map Value.read := by
  induction bindings with
  | nil => rfl
  | cons given rest inductionHypothesis =>
    obtain ⟨known, value⟩ := given
    rw [Bindings.read, List.map_cons, List.lookup_cons, List.lookup_cons]
    cases name == known with
    | true => rfl
    | false => exact inductionHypothesis

/-- Nothing comes behind a value that is read to the end. -/
@[simp] theorem read_finish (bindings : Bindings) (name : String) :
    bindings.read.finish name = pure () := by
  rw [Readings.finish, read_lookup]
  cases bindings.lookup name <;> rfl

/-- The value of an operand. -/
def Operand.fill (bindings : Bindings) : Operand → Build Value
  | .literal text _ => pure (.literal (.text text))
  | .reference name _ => pure (.reference (.text name))
  | .point name _ => bindings.get name

mutual

/-- Build the value of a form that stands alone. -/
def Form.fill (readings : Readings) : Form → Build Value
  | .function name args body _ => do
    let block ← Build.newBlock
    let ref ← Build.newStatement (.function name args block)
    Form.fillInto readings block body
    return .object (.statement ref)
  | .conditional lhs rhs thenBody elseBody _ => do
    let condition : Value := .equals (.reference (.text lhs)) (← rhs.fill readings.values)
    let thenBlock ← Build.newBlock
    let elseBlock ← Build.newBlock
    let ref ← Build.newStatement
      (.conditional condition (.object (.block thenBlock)) (.object (.block elseBlock)))
    Form.fillInto readings thenBlock thenBody
    Form.fillInto readings elseBlock elseBody
    return .object (.statement ref)
  | .result value _ => do
    let ref ← Build.newStatement (.result (← value.fill readings.values))
    return .object (.statement ref)
  | .assign target value _ => do
    let ref ← Build.newStatement (.assignment (.text target) (← value.fill readings.values))
    return .object (.statement ref)
  | .raw text _ => do
    let ref ← Build.newStatement (.raw text)
    return .object (.statement ref)
  | .splice name _ _ => readings.values.get name

/-- Build forms and put them at the end of a body. A spliced sequence is put there item by item, up
to where reading it fails. -/
def Form.fillInto (readings : Readings) (block : Nat) : List Form → Build Unit
  | [] => pure ()
  | form :: rest => do
    match form with
    | .splice name true _ => do
      Build.extend block (← readings.values.get name)
      readings.finish name
    | form => Build.push block (← form.fill readings)
    Form.fillInto readings block rest

end

/-- What is wrong with the names that a call gives values for. -/
def Template.misnamed? (template : Template) (names : List String) : Option Fault :=
  let missing := template.points.filter fun name => !names.contains name
  let unexpected := names.filter fun name => !template.points.contains name
  if names.contains "self" then some .selfGivenTwice
  else if missing ≠ [] then some (.missingPoints template.name missing)
  else if unexpected ≠ [] then
    some (.unexpectedPoints template.name (unexpected.mergeSort fun a b => a ≤ b))
  else none

/-- Build what a template says, with the values at its points that are read. -/
def Template.buildReading (template : Template) (readings : Readings) : Build Value := do
  match template.kind, template.forms with
  | .statements, forms =>
    let block ← Build.newBlock
    Form.fillInto readings block forms
    let items := (← get).remaining (.block block 0)
    return .object (← Build.newCell items)
  | _, form :: _ => form.fill readings
  | _, [] => return .none

/-- Call a template with values that are read. -/
def Template.callReading (template : Template) (readings : Readings) : Build Value :=
  match template.misnamed? (readings.map Prod.fst) with
  | some fault => throw fault
  | none => template.buildReading readings

/-- Build what a template says, with the given values at its points. -/
def Template.build (template : Template) (bindings : Bindings) : Build Value :=
  template.buildReading bindings.read

/-- Call a template. -/
def Template.call (template : Template) (bindings : Bindings) : Build Value :=
  template.callReading bindings.read

/-- Values whose names are a template's points build what the template says. -/
theorem call_eq (template : Template) (bindings : Bindings) :
    template.call bindings = match template.misnamed? (bindings.map Prod.fst) with
      | some fault => throw fault
      | none => template.build bindings := by
  rw [Template.call, Template.callReading, read_names]
  rfl

end Template

end Stencil
