import Stencil.Proofs.Conversion.Inheritance

/-!
# Where a second function for a pair is refused

A definition can fail for many reasons: a base or a function is missing, a name
or an order of classes is impossible, a pair can be no key, or what the class
requires is not there. A second function for a pair is refused in one place
alone, where the rule table is put together (`duplicate_refused`), at one rule
that meets another one for its pair.
-/

namespace Stencil

/-- A fault that refuses a second function for a pair. -/
def Fault.isDuplicate : Fault → Bool
  | duplicateRule _ _ _ => true
  | _ => false

namespace Code

/-- A step refuses no second function for a pair. -/
def Build.Spares {α : Type} (step : Build α) : Prop :=
  ∀ before fault after, step.Fails before fault after → fault.isDuplicate = false

namespace Build

variable {α β : Type}

/-- A value that is given refuses nothing. -/
theorem spares_pure (value : α) : Spares (pure value) := by
  intro before fault after failed
  cases failed

/-- Looking at the store refuses nothing. -/
theorem spares_get : Spares (get : Build Store) := by
  intro before fault after failed
  cases failed

/-- Changing the store refuses nothing. -/
theorem spares_modify (change : Store → Store) : Spares (modify change : Build Unit) := by
  intro before fault after failed
  cases failed

/-- A fault that is thrown may be any other. -/
theorem spares_throw {thrown : Fault} (other : thrown.isDuplicate = false) :
    Spares (throw thrown : Build α) := by
  intro before fault after failed
  cases failed
  exact other

/-- An outcome that needs no store may be any other fault. -/
theorem spares_lift {outcome : Except Fault α}
    (other : ∀ fault, outcome = .error fault → fault.isDuplicate = false) :
    Spares (liftM outcome : Build α) := by
  intro before fault after failed
  exact other fault (lift_fails_iff.mp failed).1

/-- A chain refuses nothing if its steps do not. -/
theorem spares_bind {step : Build α} {next : α → Build β} (first : step.Spares)
    (behind : ∀ value, (next value).Spares) : (step >>= next).Spares := by
  intro before fault after failed
  rcases bind_fails_iff.mp failed with here | ⟨value, middle, _, later⟩
  · exact first before fault after here
  · exact behind value middle fault after later

/-- A step whose fault is put into other words refuses nothing if the other words do not. -/
theorem spares_catch {step : Build α} {handler : Fault → Build α} (first : step.Spares)
    (behind : ∀ fault, fault.isDuplicate = false → (handler fault).Spares) :
    Spares (tryCatch step handler) := by
  intro before fault after failed
  unfold Fails at failed
  rw [ExceptT.run_tryCatch, StateT.run_bind] at failed
  cases result : step.run.run before with
  | mk outcome middle =>
    rw [result] at failed
    cases outcome with
    | ok value => cases failed
    | error other => exact behind other (first before other middle result) middle fault after failed

end Build

/-- Walking through a value refuses nothing but values. -/
theorem items_spare (value : Value) : (itemsOf value).Spares := by
  unfold itemsOf
  refine Build.spares_bind Build.spares_get fun store => ?_
  refine Build.spares_bind (Build.spares_lift ?_) fun supply => ?_
  · intro fault refused
    unfold Build.supply at refused
    split at refused
    all_goals cases refused
    rfl
  · cases supply with
    | items | cell | block => exact Build.spares_pure _
    | walk id =>
      refine Build.spares_bind (Build.spares_bind Build.spares_get fun _ => Build.spares_pure _) ?_
      intro walk
      exact Build.spares_bind (Build.spares_modify _) fun _ => Build.spares_pure _

/-- Taking a value apart refuses nothing but values. -/
theorem parts_spare (value : Value) : (partsOf value).Spares := by
  unfold partsOf
  refine Build.spares_bind (Build.spares_catch (items_spare value) ?_) fun items => ?_
  · intro fault other
    split
    · exact Build.spares_throw rfl
    · exact Build.spares_throw other
  · split
    · exact Build.spares_pure _
    · exact Build.spares_throw rfl
    · exact Build.spares_throw rfl

end Code

namespace Conversion

open Code

/-! ## What else a definition does -/

/-- A pair that can be no key is no second function. -/
theorem key_spares {pair : Pair} {fault : Fault} (refused : pair.checkKey = .error fault) :
    fault.isDuplicate = false := by
  unfold Pair.checkKey at refused
  split at refused
  · cases refused
    rfl
  · cases refused

/-- Declared pairs are refused at one of them: it can be no key, it was inherited, or another
function is found for it among the rules that were added before. -/
theorem declared_refused {declared : List (Pair × Nat)} {keys : List Pair} {table : Table Nat}
    {fault : Fault}
    (refused : declared.foldlM (Registry.addDeclared keys) table = .error fault) :
    ∃ before pair id behind middle, declared = before ++ (pair, id) :: behind ∧
      before.foldlM (Registry.addDeclared keys) table = .ok middle ∧
      (pair.checkKey = .error fault ∨
        pair.checkKey = .ok () ∧ fault = middle.duplicate pair ∧
          (keys.any pair.same = true ∨
            ∃ held, Table.find? pair middle.rows = some held ∧ held.function ≠ id)) := by
  obtain ⟨before, ⟨pair, id⟩, behind, middle, whole, added, clash⟩ := fold_error refused
  refine ⟨before, pair, id, behind, middle, whole, added, ?_⟩
  rw [Table.add_declared_eq] at clash
  split at clash
  · rename_i other unfit
    cases clash
    exact .inl unfit
  · rename_i done fit
    split at clash
    · rename_i again
      cases clash
      exact .inr ⟨fit, rfl, .inl again⟩
    · rcases Table.add_error clash with unfit | ⟨is, held, found, differ⟩
      · exact .inl unfit
      · exact .inr ⟨fit, is, .inr ⟨held, found, differ⟩⟩

/-- Resolving a pair refuses no second function. -/
theorem resolve_spares {table : Table Nat} {pair : Pair} {fault : Fault}
    (refused : table.resolve pair = .error fault) : fault.isDuplicate = false := by
  rcases bind_error refused with here | ⟨found, _, refused⟩
  · rcases bind_error here with unfit | ⟨_, _, refused⟩
    · exact key_spares unfit
    · cases refused
  · cases found with
    | none =>
      cases refused
      rfl
    | some rule => cases refused

/-- Making a pair of the ends of a conversion refuses no second function. -/
theorem ends_spare {role : String} {input output : End} {fault : Fault}
    (refused : input.pair role output = .error fault) : fault.isDuplicate = false := by
  unfold End.pair at refused
  split at refused
  · cases refused
  · split at refused <;> cases refused <;> rfl

/-- Checking requirements refuses no second function. -/
theorem check_spares (table : Table Nat) (requirements : List Requirement) :
    (Requirement.check table requirements).Spares := by
  induction requirements with
  | nil => exact Build.spares_pure _
  | cons requirement rest inductionHypothesis =>
    rw [Requirement.check]
    refine Build.spares_bind ?_ fun pair => ?_
    · cases requirement with
      | pair => exact Build.spares_pure _
      | value listed => exact Build.spares_bind (parts_spare listed) fun _ => Build.spares_pure _
      | conversion role input output => exact Build.spares_lift fun _ => ends_spare
    · exact Build.spares_bind (Build.spares_lift fun _ => resolve_spares) fun _ =>
        inductionHypothesis

/-- Listing what a role requires refuses no second function. -/
theorem required_spares (registry : Registry) (order : List Nat) :
    (registry.required order).Spares := by
  unfold Registry.required
  split
  · exact Build.spares_pure _
  · exact Build.spares_bind (items_spare _) fun _ => Build.spares_pure _
  · exact Build.spares_bind (Build.spares_throw rfl) fun _ => Build.spares_pure _
  · exact Build.spares_pure _

/-- Checking what a new role requires refuses no second function. -/
theorem role_check_spares {role : Role} {registry after : Registry} {store final : Store}
    {fault : Fault}
    (failed : (Assembly.checkRequired role).Fails registry store fault after final) :
    fault.isDuplicate = false := by
  unfold Assembly.checkRequired at failed
  split at failed
  · exact absurd failed Assembly.not_pure_fails
  · rw [Assembly.get_bind_fails, Assembly.bind_fails_iff] at failed
    rcases failed with uncallable | ⟨_, _, _, _, failed⟩
    · have refused := (Assembly.lift_fails_iff.mp uncallable).1
      unfold Registry.checkMethod Registry.checkCallable at refused
      split at refused
      all_goals cases refused
      all_goals rfl
    · have building := (Assembly.building_fails_iff.mp failed).1
      exact Build.spares_bind (required_spares _ _) (fun _ => check_spares _ _) _ _ _ building

/-- Putting classes into an order refuses no second function. -/
theorem order_spares {registry : Registry} {id : Nat} {bases : List Nat} {fault : Fault}
    (refused : registry.newOrder id bases = .error fault) : fault.isDuplicate = false := by
  unfold Registry.newOrder at refused
  cases twice : repeated? bases with
  | some base =>
    rw [twice] at refused
    cases refused
    rfl
  | none =>
    simp only [twice] at refused
    split at refused
    · cases refused
    · cases refused
      unfold Registry.basesFault
      dsimp only
      split <;> rfl

/-- A class for which a second function for a pair is refused is not bare, and its table cannot be
put together. -/
theorem role_duplicate {registry : Registry} {definition : Definition} {body : Body}
    {bases : List Nat} {fault : Fault}
    (refused : registry.newRole definition body bases = .error fault)
    (duplicate : fault.isDuplicate = true) :
    definition.bare = false ∧ registry.assemble body definition.name bases = .error fault := by
  have apart (other : fault.isDuplicate = false) : False := by
    rw [other] at duplicate
    cases duplicate
  unfold Registry.newRole at refused
  rcases bind_error refused with misnamed | ⟨_, _, refused⟩
  · refine (apart ?_).elim
    unfold checkName at misnamed
    split at misnamed
    · cases misnamed
      rfl
    · cases misnamed
  rcases bind_error refused with unordered | ⟨order, _, refused⟩
  · exact (apart (order_spares unordered)).elim
  split at refused
  · cases refused
  · rename_i full
    rcases bind_error refused with unassembled | ⟨_, _, refused⟩
    · exact ⟨by simpa using full, unassembled⟩
    · cases refused

/-- A definition refuses a second function for a pair where its table is put together, and nowhere
else. Of the causes that end a definition the others are faults of another kind. -/
theorem duplicate_refused {registry after : Registry} {store final : Store}
    {definition : Definition} {fault : Fault}
    (fails : (Assembly.define definition).Fails registry store fault after final)
    (duplicate : fault.isDuplicate = true) :
    ∃ bases body, (Assembly.basesOf definition).Yields registry store bases registry store ∧
      (Assembly.body definition).Yields registry store body after store ∧
      after.assemble body definition.name bases = .error fault := by
  obtain ⟨_, _, _, missing | ⟨bases, body, based, lines, refused | ⟨role, _, unmet⟩⟩⟩ :=
    Assembly.define_fails fails
  · obtain ⟨name, rfl⟩ := missing
    cases duplicate
  · exact ⟨bases, body, based, lines, (role_duplicate refused duplicate).2⟩
  · rw [role_check_spares unmet] at duplicate
    cases duplicate

end Conversion

end Stencil
