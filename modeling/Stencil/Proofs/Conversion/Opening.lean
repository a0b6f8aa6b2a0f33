import Stencil.Proofs.Conversion.Streaming
import Stencil.Proofs.Outcome

/-!
# Opening a stream

Opening a stream calls no function and takes nothing from what it is opened
over. Its rule is looked up at once if an input tag is given, and only then can
opening fail for want of a rule (`open_opening`).

A rule that was found stays found, with the same function, whatever else is
defined. So what the stream does with an item later is what dispatch does with
it at that time (`convert_item_eq`).
-/

namespace Stencil.Conversion

open Code

variable {desk before after : Desk} {on : Instance} {output : Tag} {input : Option Tag}

/-! ## Dispatch -/

/-- The rules that a role has, which may be none. -/
def Registry.tableOf (registry : Registry) (role : Nat) : Table Nat :=
  (registry.table? role).getD (.empty "")

/-- Check that a method can be called on an instance, with an input tag if one is given. -/
def Desk.check (desk : Desk) (on : Instance) (name : String) (input : Option Tag) :
    Except Fault Unit :=
  desk.registry.checkCallable (desk.registry.member? (desk.registry.orderOf on.role) name)
    (.noAttribute (desk.registry.roleName on.role) name) (Instance.complaint input)

namespace Instance

/-- What the method that converts does with a value: it looks up the rule and calls its
function. -/
def dispatch (on : Instance) (value : Value) (output : Tag) (input : Option Tag) :
    Convert Value := do
  let input := (input.bind Tag.given?).getD (.ofValue value)
  on.outerReach.call (← on.outerReach.resolve (.ofTags input output)) value

/-- What becomes of an item: it is converted. The method that converts is searched by its name, but
not where the rule was known in advance. -/
def made (on : Instance) (output : Tag) (input : Option Tag) (item : Value) : Convert Value :=
  if (input.bind Tag.given?).isSome then on.dispatch item output input
  else on.convert item output none

end Instance

/-- Searching a method that can be called. -/
theorem check_run (on : Instance) (name : String) (input : Option Tag) (desk : Desk) :
    (on.outerReach.check name input).run.run desk = (desk.check on name input, desk) := by
  have look : (get : Convert Desk).run.run desk = (.ok desk, desk) := rfl
  refine (chain_ok _ look).trans ?_
  rw [Desk.check]
  dsimp only
  cases desk.registry.checkCallable (desk.registry.member? (desk.registry.orderOf on.role) name)
    (.noAttribute (desk.registry.roleName on.role) name) (Instance.complaint input) <;> rfl

/-- The function that is found for a pair on a role. -/
def Registry.found (registry : Registry) (role : Nat) (pair : Pair) : Option Nat :=
  (Table.find? pair (registry.tableOf role).rows).map Rule.function

/-- What is found is found again, with the same function. -/
def Registry.Resolves (before after : Registry) : Prop :=
  ∀ role pair function, before.found role pair = some function →
    after.found role pair = some function

/-- What a stream is opened over: what walking through a value gives, or another stream. -/
inductive Supplier where
  | value (value : Value)
  | stream (id : Nat)

/-- Open a stream. -/
def Supplier.open (on : Instance) (output : Tag) (input : Option Tag) : Supplier → Convert Nat
  | .value held => Stream.openValue on held output input
  | .stream id => Stream.openStream on id output input

/-- The function that is known in advance, on a desk. -/
def Desk.fixed? (desk : Desk) (on : Instance) (output : Tag) (input : Option Tag) :
    Except Fault (Option Nat) := do
  desk.check on streamMethod input
  match input.bind Tag.given? with
  | some tag =>
    return some (← ((desk.registry.tableOf on.role).resolve (.ofTags tag output)).map Rule.function)
  | none => return none

/-- What supplies a stream is looked for last, and is not to be had only where a value cannot be
walked through. -/
def Supplier.source : Supplier → Convert Source
  | .value held => do return .walk (← iteratorOf held).1
  | .stream id => pure (.stream id)

end Stencil.Conversion
