import Stencil.Conversion.Dispatch
import Stencil.Proofs.Code.Reserving

/-!
# What conversions leave alone

A conversion notes calls and walks through values. It changes no function, no
class and no stream, and it comes to no reserved iterator unless it is given
one; so what it gives leads to none either (`convert_skips`).

The proofs follow the layers of dispatch: recipes ask the role that they run on,
a role reaches functions and members, and functions are nested up to a bound,
on which the last induction is.
-/

namespace Stencil.Conversion

open Code

variable {reserved : Nat → Prop} {value : Value}

/-- Calls are noted, and iterators are started and walked on, but not the reserved ones. It says
nothing of what a conversion gives, only what it leaves alone. -/
structure Desk.Skips (reserved : Nat → Prop) (before after : Desk) : Prop where
  registry : after.registry = before.registry
  streams : after.streams = before.streams
  calls : before.calls <:+ after.calls
  store : before.store.Skips reserved after.store

/-- The frame of conversions. -/
def Desk.skipping (reserved : Nat → Prop) : Frame Desk where
  holds desk := desk.store.Reserves reserved
  leads := Desk.Skips reserved
  refl desk holds := ⟨rfl, rfl, List.suffix_rfl, (Store.skipping reserved).refl desk.store holds⟩
  trans _ _ _ first second := {
    registry := second.registry.trans first.registry
    streams := second.streams.trans first.streams
    calls := first.calls.trans second.calls
    store := Store.skips_trans first.store second.store }
  ends _ _ leads := leads.store.reserves

/-- A conversion step comes to no reserved iterator. -/
abbrev Convert.Skips {α : Type} (reserved : Nat → Prop) (step : Convert α) : Prop :=
  (Desk.skipping reserved).Covers step fun _ => True

/-- A conversion comes to no reserved iterator, and gives what leads to none. -/
abbrev Convert.Gives (reserved : Nat → Prop) (step : Convert Value) : Prop :=
  (Desk.skipping reserved).Covers step fun value => value.Avoids reserved

/-! ## Single steps -/

section Steps

variable {α : Type} {good : α → Prop}

/-- A building step changes the store. -/
theorem building_run {step : Build α} {desk : Desk} {outcome : Except Fault α} {store : Store}
    (ran : step.run.run desk.store = (outcome, store)) :
    (Convert.building step).run.run desk = (outcome, { desk with store }) := by
  change ((fun (ran : Except Fault α × Store) => (ran.1, { desk with store := ran.2 }))
    (step.run.run desk.store)) = _
  rw [ran]

/-- A building step. -/
theorem building_skips {step : Build α} (covers : (Store.skipping reserved).Covers step good) :
    (Desk.skipping reserved).Covers (Convert.building step) good := by
  intro desk reserves
  obtain ⟨leads, reached⟩ := covers desk.store reserves
  rw [building_run (show step.run.run desk.store = (_, _) from rfl)]
  exact ⟨⟨rfl, rfl, List.suffix_rfl, leads⟩, reached⟩

/-- A look at the desk. -/
theorem get_skips : (get : Convert Desk).Skips reserved :=
  Frame.covers_forget Frame.covers_get

/-- The text of a value. -/
theorem text_skips (value : Value) : (Convert.textOf value).Skips reserved :=
  Frame.covers_then get_skips fun _ => Frame.covers_lift fun _ _ => trivial

/-- A call is noted. -/
theorem note_skips (function shown : String) : (Convert.note function shown).Skips reserved :=
  Frame.covers_modify fun desk reserves =>
    ⟨rfl, rfl, List.suffix_cons _ _, (Store.skipping reserved).refl desk.store reserves⟩

/-- The rules of a role are looked up. -/
theorem table_skips (role : Nat) : (Convert.tableOf role).Skips reserved :=
  Frame.covers_then get_skips fun _ => Frame.covers_pure trivial

/-- A value is cast to a plain kind. -/
theorem cast_skips (name base : String) (avoids : value.Avoids reserved) :
    (Store.skipping reserved).Covers (castTo name base value)
      fun value => value.Avoids reserved := by
  have look : (Store.skipping reserved).Covers (get : Build Store) fun _ => True :=
    Frame.covers_forget Frame.covers_get
  unfold castTo
  split
  · exact Frame.covers_then look fun _ => Frame.covers_pure (avoids_of_none rfl)
  · exact Frame.covers_then (Frame.covers_lift fun _ _ => trivial) fun _ =>
      Frame.covers_pure (avoids_of_none rfl)
  · exact Frame.covers_then (Frame.covers_lift fun _ _ => trivial) fun _ =>
      Frame.covers_pure (avoids_of_none rfl)
  · exact Frame.covers_then look fun _ =>
      Frame.covers_then (Frame.covers_lift fun _ _ => trivial) fun _ =>
        Frame.covers_pure (avoids_of_none rfl)
  · exact Frame.covers_then (bytes_skip avoids) fun _ => Frame.covers_pure (avoids_of_none rfl)
  · exact Frame.covers_bind (items_skips avoids) fun _ given =>
      Frame.covers_pure (avoids_of_all rfl given)
  · exact Frame.covers_bind (items_skips avoids) fun _ given =>
      Frame.covers_pure (avoids_of_all rfl given)
  · exact Frame.covers_bind (entries_skip avoids) fun _ given =>
      Frame.covers_pure (entries_avoid given)
  · exact Frame.covers_throw _
  · exact Frame.covers_throw _

/-- A value is cast to the kind of a tag. -/
theorem construct_skips (tag : Tag) (avoids : value.Avoids reserved) :
    (Store.skipping reserved).Covers (tag.construct value) fun value => value.Avoids reserved := by
  unfold Tag.construct
  cases tag with
  | kind name => exact cast_skips name name avoids
  | declared held =>
    exact Frame.covers_bind (cast_skips held.name held.base avoids) fun inner given =>
      Frame.covers_pure given
  | mark held => exact Frame.covers_throw _

/-- The iterator of a value is not reserved. -/
theorem iterator_skips (avoids : value.Avoids reserved) :
    (Desk.skipping reserved).Covers (iteratorOf value) fun found => ¬reserved found.1 := by
  unfold iteratorOf
  refine Frame.covers_bind (building_skips (iterate_skips avoids)) fun started given => ?_
  split
  · rename_i walked id
    have at' : (Convert.building (Build.walkAt id)).Skips reserved :=
      building_skips (Frame.covers_of_run fun store reserves =>
        ⟨_, store, rfl, (Store.skipping reserved).refl store reserves, trivial⟩)
    refine Frame.covers_then at' fun walk => Frame.covers_then get_skips fun _ => ?_
    exact Frame.covers_pure (given walked id (List.mem_singleton.mpr rfl))
  · exact Frame.covers_throw _

end Steps

/-! ## What a recipe can ask for -/

/-- Nothing that a recipe asks of a role comes to a reserved iterator. -/
structure Role.Reach.Skips (reserved : Nat → Prop) (reach : Role.Reach) : Prop where
  call : ∀ id value, value.Avoids reserved → (reach.call id value).Gives reserved
  check : ∀ name input, (reach.check name input).Skips reserved
  resolve : ∀ pair, (reach.resolve pair).Skips reserved
  method : ∀ name value, value.Avoids reserved → (reach.method name value).Gives reserved
  inherited : ∀ name value, value.Avoids reserved → (reach.inherited name value).Gives reserved

section Reach

variable {reach : Role.Reach} (skips : reach.Skips reserved)
include skips

/-- A conversion that a recipe asks for. -/
theorem reach_convert_skips (output : Tag) (input : Option Tag) (avoids : value.Avoids reserved) :
    (reach.convert value output input).Gives reserved :=
  Frame.covers_then (skips.check _ _) fun _ =>
    Frame.covers_then (skips.resolve _) fun id => skips.call id value avoids

/-- The function that is known in advance. -/
theorem fixed_skips (output : Tag) (input : Option Tag) :
    (reach.fixed? output input).Skips reserved := by
  refine Frame.covers_then (skips.check _ _) fun _ => ?_
  split
  · exact Frame.covers_then (skips.resolve _) fun _ => Frame.covers_pure trivial
  · exact Frame.covers_pure trivial

/-- An item is converted. -/
theorem item_skips (function : Option Nat) (output : Tag) (avoids : value.Avoids reserved) :
    (reach.convertItem function output value).Gives reserved := by
  cases function with
  | none => exact reach_convert_skips skips output none avoids
  | some id => exact skips.call id value avoids

/-- The items of an iterator are converted. -/
theorem each_text_skips (function : Option Nat) (output : Tag) {walk : Nat}
    (free : ¬reserved walk) (count : Nat) :
    (reach.eachText function output walk count).Skips reserved := by
  induction count with
  | zero => exact Frame.covers_pure trivial
  | succ count inductionHypothesis =>
    refine Frame.covers_bind (building_skips (next_skips free)) fun item? given => ?_
    cases item? with
    | none => exact Frame.covers_pure trivial
    | some item =>
      have converted := item_skips skips function output (given item rfl)
      refine Frame.covers_then (Frame.covers_forget converted) fun made => ?_
      refine Frame.covers_then (text_skips made) fun _ => ?_
      exact Frame.covers_then inductionHypothesis fun _ => Frame.covers_pure trivial

end Reach

mutual

/-- What a recipe makes of a value. The cases are those of the recipe. Casting and showing make new
values; converting the items of a value walks through a new iterator, or through one that the value
is, which is not reserved. -/
theorem recipe_skips {reach : Role.Reach} (skips : reach.Skips reserved) (recipe : Recipe)
    (avoids : value.Avoids reserved) : (recipe.run reach value).Gives reserved := by
  cases recipe with
  | text written =>
    rw [Recipe.run]
    exact Frame.covers_pure (avoids_of_none rfl)
  | value =>
    rw [Recipe.run]
    exact Frame.covers_pure avoids
  | shown before behind =>
    rw [Recipe.run]
    exact Frame.covers_then (text_skips value) fun _ => Frame.covers_pure (avoids_of_none rfl)
  | config key =>
    rw [Recipe.run]
    refine Frame.covers_then (text_skips value) fun _ => ?_
    split
    · exact Frame.covers_then (text_skips _) fun _ => Frame.covers_pure (avoids_of_none rfl)
    · exact Frame.covers_throw _
  | concat parts =>
    rw [Recipe.run]
    exact Frame.covers_then (recipes_skip skips parts avoids) fun _ =>
      Frame.covers_pure (avoids_of_none rfl)
  | each output input separator =>
    rw [Recipe.run]
    refine Frame.covers_then (fixed_skips skips output input) fun function => ?_
    refine Frame.covers_bind (iterator_skips avoids) fun found free => ?_
    exact Frame.covers_then (each_text_skips skips function output free found.2) fun _ =>
      Frame.covers_pure (avoids_of_none rfl)
  | via output input =>
    rw [Recipe.run]
    exact reach_convert_skips skips output input avoids
  | inherited field =>
    rw [Recipe.run]
    have asked := skips.inherited field value avoids
    refine Frame.covers_then (Frame.covers_forget asked) fun made => ?_
    exact Frame.covers_then (text_skips made) fun _ => Frame.covers_pure (avoids_of_none rfl)
  | method field =>
    rw [Recipe.run]
    exact skips.method field value avoids
  | refusal message =>
    rw [Recipe.run]
    exact Frame.covers_throw _

/-- What recipes make of a value. -/
theorem recipes_skip {reach : Role.Reach} (skips : reach.Skips reserved) (parts : List Recipe)
    (avoids : value.Avoids reserved) : (Recipe.runAll reach value parts).Skips reserved := by
  cases parts with
  | nil =>
    rw [Recipe.runAll]
    exact Frame.covers_pure trivial
  | cons part rest =>
    rw [Recipe.runAll]
    refine Frame.covers_then (Frame.covers_forget (recipe_skips skips part avoids)) fun made => ?_
    refine Frame.covers_then (text_skips made) fun _ => ?_
    exact Frame.covers_then (recipes_skip skips rest avoids) fun _ => Frame.covers_pure trivial

end

section Members

variable {reach : Role.Reach} (skips : reach.Skips reserved)
include skips

/-- The top-level conversion. -/
theorem make_with_skips (item : Instance) (avoids : value.Avoids reserved) :
    (item.makeWith reach value).Gives reserved := by
  refine Frame.covers_then get_skips fun desk => ?_
  dsimp only
  split
  · exact Frame.covers_then (Frame.covers_lift fun _ _ => trivial) fun _ =>
      reach_convert_skips skips _ _ avoids
  · exact Frame.covers_throw _

/-- What a member gives for a value. -/
theorem member_skips (item : Instance) (member : Option Member) (absent : Fault)
    (avoids : value.Avoids reserved) :
    (item.callMember reach member absent value).Gives reserved := by
  unfold Instance.callMember
  split
  · exact skips.call _ value avoids
  · exact make_with_skips skips item avoids
  · exact Frame.covers_throw _
  · exact building_skips (construct_skips _ avoids)
  · exact Frame.covers_throw _
  · exact Frame.covers_throw _
  · exact Frame.covers_throw _
  · exact Frame.covers_throw _
  · exact Frame.covers_throw _

end Members

/-! ## Calls -/

/-- What a function asks of an instance skips the reserved iterators if the calls do. -/
theorem reach_skips (item : Instance) {call : Nat → Value → Convert Value}
    (calls : ∀ id value, value.Avoids reserved → (call id value).Gives reserved)
    (home : Option Nat) : (item.reach call home).Skips reserved := by
  have resolves (pair : Pair) : ((item.reach call home).resolve pair).Skips reserved :=
    Frame.covers_then (table_skips item.role) fun _ =>
      Frame.covers_then (Frame.covers_lift fun _ _ => trivial) fun _ => Frame.covers_pure trivial
  have checks (name : String) (input : Option Tag) :
      ((item.reach call home).check name input).Skips reserved :=
    Frame.covers_then get_skips fun _ => Frame.covers_lift fun _ _ => trivial
  -- Members are called with a reach whose methods give the value back.
  have plain : Role.Reach.Skips reserved { item.reach call home with
      method := fun _ value => return value, inherited := fun _ value => return value } :=
    ⟨calls, checks, resolves, fun _ _ avoids => Frame.covers_pure avoids,
      fun _ _ avoids => Frame.covers_pure avoids⟩
  refine ⟨calls, checks, resolves, ?_, ?_⟩
  · intro name value avoids
    simp only [Instance.reach]
    have found : (do
        let registry := (← get).registry
        item.callMember { item.reach call home with
          method := fun _ value => return value, inherited := fun _ value => return value }
          (registry.member? (registry.orderOf item.role) name)
          (.noAttribute (registry.roleName item.role) name) value : Convert Value).Gives
          reserved :=
      Frame.covers_then get_skips fun desk => member_skips plain item _ _ avoids
    split
    · exact Frame.covers_ended _ _
    · exact found
  · intro name value avoids
    simp only [Instance.reach]
    refine Frame.covers_then get_skips fun desk => ?_
    split
    · exact Frame.covers_ended _ _
    · exact member_skips plain item _ _ avoids

/-- A call of a function. The induction is on how deep calls may be nested. -/
theorem call_skips (item : Instance) (fuel id : Nat) (avoids : value.Avoids reserved) :
    (item.callWithin fuel id value).Gives reserved := by
  induction fuel generalizing id value with
  | zero => exact Frame.covers_throw _
  | succ fuel inductionHypothesis =>
    refine Frame.covers_then get_skips fun desk => ?_
    dsimp only
    split
    · exact Frame.covers_throw _
    · rename_i function _
      split
      · exact Frame.covers_throw _
      · rename_i recipe _
        refine Frame.covers_then (text_skips value) fun shown => ?_
        refine Frame.covers_then (note_skips function.name shown) fun _ => ?_
        refine recipe_skips (reach_skips item ?_ function.home) recipe avoids
        exact fun id value avoids => inductionHypothesis id avoids

/-- What can be asked for from outside. -/
theorem outer_skips (item : Instance) : item.outerReach.Skips reserved :=
  reach_skips item (fun id _ avoids => call_skips item Instance.callLimit id avoids) none

/-- A conversion comes to no reserved iterator, and gives what leads to none. -/
theorem convert_skips (item : Instance) (output : Tag) (input : Option Tag)
    (avoids : value.Avoids reserved) : (item.convert value output input).Gives reserved :=
  reach_convert_skips (outer_skips item) output input avoids

end Stencil.Conversion
