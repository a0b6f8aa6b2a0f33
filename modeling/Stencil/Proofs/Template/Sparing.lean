import Stencil.Proofs.Code.Storing
import Stencil.Proofs.Template.Reading

/-!
# What a call leaves

A call of a template stores new objects and leaves those that were there, whether it
returns or fails half way: it only spends iterators that are given as values. What it
stores is made of new objects and of what the given values reach (`call_stores`).

The steps of a call are those of its forms. Each of them keeps the invariant of storing
new objects (`fill_stores`, by induction on the form), since what it fills is new.
-/

namespace Stencil.Template

open Code

/-- The iterators that are given as values. -/
def Readings.Spends (readings : Readings) (id : Nat) : Prop :=
  ∃ given ∈ readings, Build.supply given.2.value = .ok (.walk id)

/-- The objects that the given values reach. -/
def Readings.Reaches (store : Store) (readings : Readings) (ref : Ref) : Prop :=
  ∃ given ∈ readings, given.2.value.Reaches store ref

variable {readings : Readings} {ground store : Store}

/-- What given values reach has its parts among what they reach. -/
theorem readings_whole (store : Store) (readings : Readings) :
    store.Whole (readings.Reaches store) :=
  fun ref ⟨given, member, reached⟩ part inside =>
    ⟨given, member, reached_whole store given.2.value ref reached part inside⟩

/-- What given values reach is held if they are. -/
theorem readings_reach_held (sound : store.Sound) (held : readings.Held store) (ref : Ref)
    (reached : readings.Reaches store ref) : ref.Held store := by
  obtain ⟨given, member, onward⟩ := reached
  exact reached_held sound (held given member) onward

/-- A value that is found for a name was given. -/
theorem given_of_lookup {name : String} {value : Value}
    (found : readings.values.lookup name = some value) :
    ∃ given ∈ readings, given.2.value = value := by
  obtain ⟨before, behind, split, _⟩ := List.lookup_eq_some_iff.mp found
  have member : (name, value) ∈ readings.values := by simp [split]
  obtain ⟨given, inside, is⟩ := List.mem_map.mp member
  exact ⟨given, inside, congrArg Prod.snd is⟩

/-- The invariant of a call: it stores new objects, made of what is given. -/
def Readings.storing (ground : Store) (readings : Readings) : Frame Store :=
  Store.storing readings.Spends (readings.Reaches ground) ground

/-- What a call makes: a value of new objects and of what is given. -/
def Readings.Makes (ground : Store) (readings : Readings) (value : Value) : Prop :=
  value.From (readings.Reaches ground) ground

/-! ## Values -/

/-- What a given value mentions is given. -/
theorem given_makes {value : Value} (given : ∃ given ∈ readings, given.2.value = value) :
    readings.Makes ground value := by
  obtain ⟨given, member, rfl⟩ := given
  exact fun ref mentioned => .inr ⟨given, member, reaches_mentioned mentioned⟩

/-- A value that mentions nothing is made of nothing. -/
theorem makes_of_none {value : Value} (none : value.mentions = []) :
    readings.Makes ground value := by
  intro ref mentioned
  rw [none] at mentioned
  cases mentioned

/-- A new object is made. -/
theorem makes_object {ref : Ref} (new : ref.Beyond ground) :
    readings.Makes ground (.object ref) :=
  List.forall_mem_singleton.mpr (.inl new)

/-- The value given for a name is one of those given. -/
theorem get_stores (name : String) : (readings.storing ground).Covers (readings.values.get name)
    fun value => ∃ given ∈ readings, given.2.value = value := by
  unfold Bindings.get
  cases found : readings.values.lookup name with
  | none => exact Frame.covers_throw _
  | some value => exact Frame.covers_pure (given_of_lookup found)

/-- The value of an operand is given, or mentions nothing. -/
theorem operand_stores (operand : Operand) :
    (readings.storing ground).Covers (operand.fill readings.values) (readings.Makes ground) := by
  cases operand with
  | literal text location => exact Frame.covers_pure (makes_of_none rfl)
  | reference name location => exact Frame.covers_pure (makes_of_none rfl)
  | point name location => exact Frame.covers_weaken (get_stores name) fun _ => given_makes

/-- The end of a reading changes nothing. -/
theorem finish_stores (name : String) :
    (readings.storing ground).Covers (readings.finish name) fun _ => True := by
  unfold Readings.finish
  split
  · unfold Reading.finish
    split
    · exact Frame.covers_throw _
    · exact Frame.covers_pure trivial
  · exact Frame.covers_pure trivial

/-- A statement that is made of what is given is stored, if it has no body of its own. -/
theorem statement_stores {statement : Statement}
    (mentioned : ∀ ref ∈ statement.mentions, ref.From (readings.Reaches ground) ground)
    (bodied : ∀ body, statement.body? = some body → ground.blocks.size ≤ body) :
    (readings.storing ground).Covers
      (do return .object (.statement (← Build.newStatement statement)) : Build Value)
      (readings.Makes ground) :=
  Frame.covers_bind (new_statement_stores mentioned bodied)
    fun _ new => Frame.covers_pure (makes_object new)

/-! ## Forms -/

/-- A new body is fed with a value that is made. -/
theorem push_stores (sound : ground.Sound) (held : readings.Held ground) {block : Nat}
    (new : ground.blocks.size ≤ block) {value : Value} (made : readings.Makes ground value) :
    (readings.storing ground).Covers (Build.push block value) fun _ => True := by
  have feed : (Feed.one value).From readings.Spends (readings.Reaches ground) ground := made
  exact feed_stores (readings_whole ground readings) (readings_reach_held sound held) new feed

/-- A new body is extended by a given value. -/
theorem extend_stores (sound : ground.Sound) (held : readings.Held ground) {block : Nat}
    (new : ground.blocks.size ≤ block) {value : Value}
    (given : ∃ given ∈ readings, given.2.value = value) :
    (readings.storing ground).Covers (Build.extend block value) fun _ => True := by
  obtain ⟨given, member, rfl⟩ := given
  have feed : (Feed.all given.2.value).From readings.Spends (readings.Reaches ground) ground :=
    ⟨fun ref mentioned => ⟨given, member, reaches_mentioned mentioned⟩,
      fun id supplied => ⟨given, member, supplied⟩⟩
  exact feed_stores (readings_whole ground readings) (readings_reach_held sound held) new feed

mutual

/-- A form that is filled stores new objects, made of what is given. The cases are those of the
form, each step of which stores new objects of what the steps before have made. -/
theorem fill_stores (sound : ground.Sound) (held : readings.Held ground) (form : Form) :
    (readings.storing ground).Covers (form.fill readings) (readings.Makes ground) := by
  cases form with
  | function name args body location =>
    rw [Form.fill]
    refine Frame.covers_bind new_block_stores fun block new => ?_
    refine Frame.covers_bind (new_statement_stores ?_ ?_) fun ref beyond => ?_
    · exact List.forall_mem_singleton.mpr (.inl new)
    · intro other is
      cases is
      exact new
    refine Frame.covers_then (fill_into_stores sound held body block new) fun _ => ?_
    exact Frame.covers_pure (makes_object beyond)
  | conditional lhs rhs thenBody elseBody location =>
    rw [Form.fill]
    refine Frame.covers_bind (operand_stores rhs) fun value made => ?_
    refine Frame.covers_bind new_block_stores fun thenBlock thenNew => ?_
    refine Frame.covers_bind new_block_stores fun elseBlock elseNew => ?_
    refine Frame.covers_bind (new_statement_stores ?_ ?_) fun ref beyond => ?_
    · simp only [Statement.mentions, Value.mentions, List.nil_append, List.forall_mem_append,
        List.forall_mem_singleton]
      exact ⟨⟨made, .inl thenNew⟩, .inl elseNew⟩
    · intro other is
      cases is
    refine Frame.covers_then (fill_into_stores sound held thenBody thenBlock thenNew) fun _ => ?_
    refine Frame.covers_then (fill_into_stores sound held elseBody elseBlock elseNew) fun _ => ?_
    exact Frame.covers_pure (makes_object beyond)
  | result value location =>
    simp only [Form.fill]
    refine Frame.covers_bind (operand_stores value) fun value made => ?_
    exact statement_stores made (by simp [Statement.body?])
  | assign target value location =>
    simp only [Form.fill]
    refine Frame.covers_bind (operand_stores value) fun value made => ?_
    exact statement_stores made (by simp [Statement.body?])
  | raw text location =>
    simp only [Form.fill]
    exact statement_stores (List.forall_mem_nil _) (by simp [Statement.body?])
  | splice name many location =>
    simp only [Form.fill]
    exact Frame.covers_weaken (get_stores name) fun _ => given_makes

/-- Forms are filled into a new body. -/
theorem fill_into_stores (sound : ground.Sound) (held : readings.Held ground) (forms : List Form)
    (block : Nat) (new : ground.blocks.size ≤ block) :
    (readings.storing ground).Covers (Form.fillInto readings block forms)
      fun _ => True := by
  cases forms with
  | nil =>
    rw [Form.fillInto]
    exact Frame.covers_pure trivial
  | cons form rest =>
    have head := fill_stores sound held form
    have behind := fill_into_stores sound held rest block new
    have pushed : (readings.storing ground).Covers (do
        Build.push block (← form.fill readings)
        Form.fillInto readings block rest) fun _ => True := by
      refine Frame.covers_bind head fun value made => ?_
      exact Frame.covers_then (push_stores sound held new made) fun _ => behind
    cases form with
    | splice name many location =>
      cases many with
      | true =>
        simp only [Form.fillInto]
        refine Frame.covers_bind (get_stores name) fun value given => ?_
        refine Frame.covers_then (extend_stores sound held new given) fun _ => ?_
        exact Frame.covers_then (finish_stores name) fun _ => behind
      | false => simpa only [Form.fillInto] using pushed
    | function | conditional | result | assign | raw =>
      simpa only [Form.fillInto] using pushed

end

/-- A call stores new objects, made of what is given, whether or not it succeeds. -/
theorem call_stores (sound : ground.Sound) (held : readings.Held ground) (template : Template) :
    (readings.storing ground).Covers (template.callReading readings) (readings.Makes ground) := by
  unfold Template.callReading
  split
  · exact Frame.covers_throw _
  · unfold Template.buildReading
    split
    · refine Frame.covers_bind new_block_stores fun block new => ?_
      refine Frame.covers_then (fill_into_stores sound held _ block new) fun _ => ?_
      refine Frame.covers_bind Frame.covers_get fun store invariant => ?_
      refine Frame.covers_bind (new_cell_stores fun item member => ?_) fun ref beyond => ?_
      · obtain ⟨ref, among, rfl⟩ := List.mem_map.mp member
        cases stored : store.blocks[block]? with
        | none => simp [Store.block, stored] at among
        | some body =>
          rw [Store.block, stored] at among
          exact List.forall_mem_singleton.mpr (invariant.2.blocks block body new stored ref among)
      · exact Frame.covers_pure (makes_object beyond)
    · exact fill_stores sound held _
    · exact Frame.covers_pure (makes_of_none rfl)

end Stencil.Template
