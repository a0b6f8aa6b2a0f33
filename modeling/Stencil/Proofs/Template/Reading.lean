import Stencil.Proofs.Code.Upkeep
import Stencil.Template.Call

/-!
# Calls whose values fail when they are read

A sequence that is spliced into a body is read item by item, and reading it may
fail, before its first item, between two items or behind the last. What was read
is then in the body already. A call keeps a store sound, whether or not it
succeeds, whatever forms the template has and whatever values it is given
(`call_reading_secures`).
-/

namespace Stencil

open Code

namespace Template

variable {readings : Readings} {store after : Store}

/-- The values that are read are held. -/
def Readings.Held (store : Store) (readings : Readings) : Prop :=
  ∀ given ∈ readings, given.2.value.Held store

/-- The values that are read are still held. -/
theorem readings_wider (held : readings.Held store) (wider : store.Wider after) :
    readings.Held after :=
  fun given member => value_wider (held given member) wider

/-- The value given for a name is held. -/
theorem get_secures (sound : store.Sound) (held : readings.Held store) (name : String) :
    (readings.values.get name).Secures store fun value after => value.Held after := by
  unfold Bindings.get
  cases found : readings.values.lookup name with
  | none => exact secures_throw _ sound
  | some value =>
    obtain ⟨before, behind, split, _⟩ := List.lookup_eq_some_iff.mp found
    have given : (name, value) ∈ readings.values := by simp [split]
    obtain ⟨⟨other, reading⟩, member, is⟩ := List.mem_map.mp given
    cases is
    exact secures_pure sound (held _ member)

/-- The value of an operand is held. -/
theorem operand_secures (sound : store.Sound) (held : readings.Held store) (operand : Operand) :
    (operand.fill readings.values).Secures store fun value after => value.Held after := by
  cases operand with
  | literal text location => exact secures_pure sound (held_of_none rfl)
  | reference name location => exact secures_pure sound (held_of_none rfl)
  | point name location => exact get_secures sound held name

/-- The end of a reading changes nothing. -/
theorem reading_secures (sound : store.Sound) (reading : Reading) :
    reading.finish.Secures store fun _ _ => True := by
  unfold Reading.finish
  split
  · exact secures_throw _ sound
  · exact secures_pure sound trivial

/-- The end of the reading given for a name changes nothing. -/
theorem finish_secures (sound : store.Sound) (name : String) :
    (readings.finish name).Secures store fun _ _ => True := by
  unfold Readings.finish
  split
  · exact reading_secures sound _
  · exact secures_pure sound trivial

/-- A new statement is held as a value. -/
theorem statement_secures (sound : store.Sound) {statement : Statement}
    (mentioned : ∀ ref ∈ statement.mentions, ref.Held store) :
    (do
      return .object (.statement (← Build.newStatement statement)) : Build Value).Secures store
        fun value after => value.Held after := by
  apply secures_bind (new_statement_secures sound mentioned)
  intro ref middle sound wider held
  exact secures_pure sound (object_held.mpr held)

mutual

/-- A form that is filled is held. By recursion on the form, each step of which makes an object of
what is held. -/
theorem fill_secures (form : Form) {store : Store} (sound : store.Sound)
    (held : readings.Held store) :
    (form.fill readings).Secures store fun value after => value.Held after := by
  cases form with
  | function name args body location =>
    rw [Form.fill]
    apply secures_bind (new_block_secures sound)
    intro block first sound wider inside
    replace held := readings_wider held wider
    refine secures_bind (new_statement_secures sound (List.forall_mem_singleton.mpr inside)) ?_
    intro ref second sound wider stored
    replace held := readings_wider held wider
    apply secures_bind (fill_into_secures body block sound held)
    intro _ third sound wider _
    exact secures_pure sound (object_held.mpr (held_wider stored wider))
  | conditional lhs rhs thenBody elseBody location =>
    rw [Form.fill]
    apply secures_bind (operand_secures sound held rhs)
    intro value first sound wider given
    replace held := readings_wider held wider
    apply secures_bind (new_block_secures sound)
    intro thenBlock second sound wider thenInside
    replace held := readings_wider held wider
    replace given := value_wider given wider
    apply secures_bind (new_block_secures sound)
    intro elseBlock third sound wider elseInside
    replace held := readings_wider held wider
    replace given := value_wider given wider
    have inside : (Ref.block thenBlock).Held third := Nat.lt_of_lt_of_le thenInside wider.blocks
    refine secures_bind (new_statement_secures sound ?_) fun ref fourth sound wider stored => ?_
    · simp only [Statement.mentions, Value.mentions, List.nil_append, List.forall_mem_append,
        List.forall_mem_singleton]
      exact ⟨⟨given, inside⟩, elseInside⟩
    replace held := readings_wider held wider
    apply secures_bind (fill_into_secures thenBody thenBlock sound held)
    intro _ fifth sound wider _
    replace held := readings_wider held wider
    replace stored := held_wider stored wider
    apply secures_bind (fill_into_secures elseBody elseBlock sound held)
    intro _ last sound wider _
    exact secures_pure sound (object_held.mpr (held_wider stored wider))
  | result value location =>
    simp only [Form.fill]
    apply secures_bind (operand_secures sound held value)
    intro value middle sound wider given
    exact statement_secures sound given
  | assign target value location =>
    simp only [Form.fill]
    apply secures_bind (operand_secures sound held value)
    intro value middle sound wider given
    exact statement_secures sound given
  | raw text location =>
    simp only [Form.fill]
    exact statement_secures sound (List.forall_mem_nil _)
  | splice name many location =>
    simp only [Form.fill]
    exact get_secures sound held name

/-- Forms are filled into a body. -/
theorem fill_into_secures (forms : List Form) (block : Nat) {store : Store} (sound : store.Sound)
    (held : readings.Held store) :
    (Form.fillInto readings block forms).Secures store fun _ _ => True := by
  cases forms with
  | nil =>
    rw [Form.fillInto]
    exact secures_pure sound trivial
  | cons form rest =>
    have head := fill_secures form sound held
    -- What the rest does behind the first form, whatever that has stored.
    have behind {middle : Store} (sound : middle.Sound) (wider : store.Wider middle) :=
      fill_into_secures rest block sound (readings_wider held wider)
    have pushed : (do
        Build.push block (← form.fill readings)
        Form.fillInto readings block rest : Build Unit).Secures store fun _ _ => True := by
      apply secures_bind head
      intro value first sound wider given
      apply secures_bind (push_secures sound block given)
      intro _ second sound further _
      exact behind sound (wider_trans wider further)
    cases form with
    | splice name many location =>
      cases many with
      | true =>
        simp only [Form.fillInto]
        apply secures_bind (get_secures sound held name)
        intro value first sound wider given
        apply secures_bind (extend_secures sound block given)
        intro _ second sound further _
        apply secures_bind (finish_secures sound name)
        intro _ third sound last _
        exact behind sound (wider_trans (wider_trans wider further) last)
      | false => simpa only [Form.fillInto] using pushed
    | function | conditional | result | assign | raw =>
      simpa only [Form.fillInto] using pushed

end

/-- A call of a template keeps a store sound and loses nothing, also where it fails. -/
theorem call_reading_secures (template : Template) (sound : store.Sound)
    (held : readings.Held store) :
    (template.callReading readings).Secures store fun value after => value.Held after := by
  unfold Template.callReading
  split
  · exact secures_throw _ sound
  · unfold Template.buildReading
    split
    · apply secures_bind (new_block_secures sound)
      intro block first sound wider inside
      replace held := readings_wider held wider
      apply secures_bind (fill_into_secures _ block sound held)
      intro _ second sound wider _
      have walked : (Walk.block block 0).Held second := Nat.lt_of_lt_of_le inside wider.blocks
      apply secures_behind (Build.get_yields second)
      apply secures_bind (new_cell_secures sound (remaining_held sound walked))
      intro ref last sound wider stored
      exact secures_pure sound (object_held.mpr stored)
    · exact fill_secures _ sound held
    · exact secures_pure sound (held_of_none rfl)

end Template

end Stencil
