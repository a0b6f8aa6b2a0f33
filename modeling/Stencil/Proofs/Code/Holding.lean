import Stencil.Proofs.Code.Mentions

/-!
# Stores that hold what they mention

An object is held by a store if it is there, a statement with the shape that its
reference says. `Store.Sound` says that all that is mentioned in a store is held
by it: bodies hold statements, and statements, lists and iterators mention what is
there. Building steps keep a store sound and lose no object, whether or not they
succeed (`Build.Secures`).

A step is shown to do so from what it renews. All but a few objects of the store
after it are those before it, which go on being sound because what they mention is
not lost; `Store.Renewed` names the others.
-/

namespace Stencil.Code

/-- An object is in a store, and a statement has its shape there. The shape is part of it, since a
reference carries the shape of its statement and operations go by that. -/
def Ref.Held (store : Store) : Ref → Prop
  | .statement ref => ∃ statement, store.statements[ref.id]? = some statement ∧
    statement.shape = ref.shape
  | .block id => id < store.blocks.size
  | .module id => id < store.modules.size
  | .package id => id < store.packages.size
  | .template id => id < store.templates.size
  | .iterator _ id => id < store.walks.size
  | .cell id => id < store.cells.size

/-- What a value mentions is in a store. -/
def Value.Held (store : Store) (value : Value) : Prop := ∀ ref ∈ value.mentions, ref.Held store

/-- What an iterator walks through is in a store. -/
def Walk.Held (store : Store) : Walk → Prop
  | .rest items => ∀ item ∈ items, item.Held store
  | .block id _ => id < store.blocks.size
  | .cell id _ => id < store.cells.size

/-- What a store mentions is in it. It is an invariant of every building operation, whether or not
it succeeds, and it holds of the empty store for want of objects. -/
structure Store.Sound (store : Store) : Prop where
  statements : ∀ (id : Nat) (statement : Statement), store.statements[id]? = some statement →
    ∀ ref ∈ statement.mentions, ref.Held store
  blocks : ∀ (id : Nat) (body : List StatementRef), store.blocks[id]? = some body →
    ∀ ref ∈ body, (Ref.statement ref).Held store
  modules : ∀ (id : Nat) (item : Module), store.modules[id]? = some item →
    item.body < store.blocks.size
  packages : ∀ (id : Nat) (item : Package), store.packages[id]? = some item →
    item.root < store.modules.size
  cells : ∀ (id : Nat) (items : List Value), store.cells[id]? = some items →
    ∀ item ∈ items, item.Held store
  walks : ∀ (id : Nat) (walk : Walk), store.walks[id]? = some walk → walk.Held store

/-- The body that a statement keeps as long as it is there: that of a function. -/
def Statement.body? : Statement → Option Nat
  | .function _ _ body => some body
  | _ => none

/-- No object of a store is lost in another. -/
structure Store.Wider (before after : Store) : Prop where
  statements : ∀ (id : Nat) (statement : Statement), before.statements[id]? = some statement →
    ∃ other, after.statements[id]? = some other ∧ other.shape = statement.shape ∧
      other.body? = statement.body?
  blocks : before.blocks.size ≤ after.blocks.size
  modules : before.modules.size ≤ after.modules.size
  packages : before.packages.size ≤ after.packages.size
  templates : before.templates.size ≤ after.templates.size
  walks : before.walks.size ≤ after.walks.size
  cells : before.cells.size ≤ after.cells.size

/-- From one store to another no object is lost, and those that are not as before mention what is
in the store `now`. -/
structure Store.RenewedFor (now before after : Store) : Prop where
  wider : before.Wider after
  statements : ∀ (id : Nat) (statement : Statement), after.statements[id]? = some statement →
    before.statements[id]? = some statement ∨ ∀ ref ∈ statement.mentions, ref.Held now
  blocks : ∀ (id : Nat) (body : List StatementRef), after.blocks[id]? = some body →
    before.blocks[id]? = some body ∨ ∀ ref ∈ body, (Ref.statement ref).Held now
  modules : ∀ (id : Nat) (item : Module), after.modules[id]? = some item →
    (∃ old, before.modules[id]? = some old ∧ item.body = old.body) ∨ item.body < now.blocks.size
  packages : ∀ (id : Nat) (item : Package), after.packages[id]? = some item →
    (∃ old, before.packages[id]? = some old ∧ item.root = old.root) ∨
      item.root < now.modules.size
  cells : ∀ (id : Nat) (items : List Value), after.cells[id]? = some items →
    before.cells[id]? = some items ∨ ∀ item ∈ items, item.Held now
  walks : ∀ (id : Nat) (walk : Walk), after.walks[id]? = some walk →
    before.walks[id]? = some walk ∨ walk.Held now

/-- No object is lost, and those that are not as before mention what is there. -/
abbrev Store.Renewed (before after : Store) : Prop :=
  after.RenewedFor before after

/-- A step keeps a store sound and loses none of its objects, whether or not it succeeds; and what
it yields is good. -/
structure Build.Secures {α : Type} (step : Build α) (store : Store) (good : α → Store → Prop) :
    Prop where
  sound : (step.run.run store).2.Sound
  wider : store.Wider (step.run.run store).2
  good : ∀ value after, step.Yields store value after → good value after

variable {store before middle after : Store}

/-! ## What is held -/

/-- An object that is not lost is still held. -/
theorem held_wider {ref : Ref} (held : ref.Held before) (wider : before.Wider after) :
    ref.Held after := by
  cases ref with
  | statement ref =>
    obtain ⟨statement, stored, shape⟩ := held
    obtain ⟨other, there, same, _⟩ := wider.statements _ _ stored
    exact ⟨other, there, same.trans shape⟩
  | block id => exact Nat.lt_of_lt_of_le held wider.blocks
  | module id => exact Nat.lt_of_lt_of_le held wider.modules
  | package id => exact Nat.lt_of_lt_of_le held wider.packages
  | template id => exact Nat.lt_of_lt_of_le held wider.templates
  | iterator _ id => exact Nat.lt_of_lt_of_le held wider.walks
  | cell id => exact Nat.lt_of_lt_of_le held wider.cells

/-- What a value mentions is still held. -/
theorem value_wider {value : Value} (held : value.Held before) (wider : before.Wider after) :
    value.Held after :=
  fun ref mentioned => held_wider (held ref mentioned) wider

/-- What an iterator walks through is still held. -/
theorem walk_wider {walk : Walk} (held : walk.Held before) (wider : before.Wider after) :
    walk.Held after := by
  cases walk with
  | rest items => exact fun item member => value_wider (held item member) wider
  | block id index => exact Nat.lt_of_lt_of_le held wider.blocks
  | cell id index => exact Nat.lt_of_lt_of_le held wider.cells

/-- A store loses nothing of its own. -/
theorem wider_refl (store : Store) : store.Wider store where
  statements _ statement stored := ⟨statement, stored, rfl, rfl⟩
  blocks := Nat.le_refl _
  modules := Nat.le_refl _
  packages := Nat.le_refl _
  templates := Nat.le_refl _
  walks := Nat.le_refl _
  cells := Nat.le_refl _

/-- A store with nothing new in it: what changes is put in the place of a field. -/
theorem renewed_refl (now store : Store) : now.RenewedFor store store where
  wider := wider_refl store
  statements _ _ same := .inl same
  blocks _ _ same := .inl same
  modules _ item same := .inl ⟨item, same, rfl⟩
  packages _ item same := .inl ⟨item, same, rfl⟩
  cells _ _ same := .inl same
  walks _ _ same := .inl same

/-- What is lost neither first nor then is not lost. -/
theorem wider_trans (first : before.Wider middle) (second : middle.Wider after) :
    before.Wider after where
  statements id statement stored := by
    obtain ⟨other, there, same, body⟩ := first.statements id statement stored
    obtain ⟨last, here, again, still⟩ := second.statements id other there
    exact ⟨last, here, again.trans same, still.trans body⟩
  blocks := Nat.le_trans first.blocks second.blocks
  modules := Nat.le_trans first.modules second.modules
  packages := Nat.le_trans first.packages second.packages
  templates := Nat.le_trans first.templates second.templates
  walks := Nat.le_trans first.walks second.walks
  cells := Nat.le_trans first.cells second.cells

/-- A store stays sound if what is renewed in it mentions what is there. -/
theorem sound_renewed (sound : before.Sound) (renewed : before.Renewed after) : after.Sound where
  statements id statement stored := by
    rcases renewed.statements id statement stored with old | new
    · exact fun ref mentioned => held_wider (sound.statements id _ old ref mentioned) renewed.wider
    · exact new
  blocks id body held := by
    rcases renewed.blocks id body held with old | new
    · exact fun ref member => held_wider (sound.blocks id body old ref member) renewed.wider
    · exact new
  modules id item stored := by
    rcases renewed.modules id item stored with ⟨old, there, same⟩ | new
    · rw [same]
      exact Nat.lt_of_lt_of_le (sound.modules id old there) renewed.wider.blocks
    · exact new
  packages id item stored := by
    rcases renewed.packages id item stored with ⟨old, there, same⟩ | new
    · rw [same]
      exact Nat.lt_of_lt_of_le (sound.packages id old there) renewed.wider.modules
    · exact new
  cells id items held := by
    rcases renewed.cells id items held with old | new
    · exact fun item member => value_wider (sound.cells id items old item member) renewed.wider
    · exact new
  walks id walk come := by
    rcases renewed.walks id walk come with old | new
    · exact walk_wider (sound.walks id walk old) renewed.wider
    · exact new

/-! ## Chains -/

section Chains

variable {α β : Type} {step : Build α} {good : α → Store → Prop} {last : β → Store → Prop}

/-- A step that is known to succeed. -/
theorem secures_of_yields {value : α} (done : step.Yields before value after) (sound : after.Sound)
    (wider : before.Wider after) (reached : good value after) : step.Secures before good := by
  rw [Build.Yields] at done
  refine ⟨by rwa [done], by rwa [done], fun other store yielded => ?_⟩
  rw [Build.Yields, done] at yielded
  cases yielded
  exact reached

/-- A step that renews a store. -/
theorem secures_of_renewed {value : α} (done : step.Yields before value after)
    (sound : before.Sound) (renewed : before.Renewed after) (reached : good value after) :
    step.Secures before good :=
  secures_of_yields done (sound_renewed sound renewed) renewed.wider reached

/-- A step that changes the store by a function. -/
theorem secures_modify {change : Store → Store} (sound : store.Sound)
    (renewed : store.Renewed (change store)) :
    (modify change : Build Unit).Secures store fun _ _ => True :=
  secures_of_renewed (show Build.Yields _ store () (change store) from rfl) sound renewed trivial

/-- A value that is yielded as it is. -/
theorem secures_pure {value : α} (sound : store.Sound) (reached : good value store) :
    (pure value : Build α).Secures store good :=
  secures_of_yields (Build.pure_yields value store) sound (wider_refl store) reached

/-- A step that is known to fail. -/
theorem secures_of_fails {fault : Fault} (failed : step.Fails before fault after)
    (sound : after.Sound) (wider : before.Wider after) : step.Secures before good := by
  refine ⟨?_, ?_, fun value store yielded => ?_⟩
  · rw [Build.Fails] at failed
    rwa [failed]
  · rw [Build.Fails] at failed
    rwa [failed]
  · exact absurd yielded (Build.not_yields_of_fails failed value store)

/-- A fault. -/
theorem secures_throw (fault : Fault) (sound : store.Sound) :
    (throw fault : Build α).Secures store good :=
  secures_of_fails (show Build.Fails _ store fault store from rfl) sound (wider_refl store)

/-- An outcome that needs no store. -/
theorem secures_lift {outcome : Except Fault α} (sound : store.Sound)
    (reached : ∀ value, outcome = .ok value → good value store) :
    (liftM outcome : Build α).Secures store good := by
  cases is : outcome with
  | ok value => exact secures_pure sound (reached value is)
  | error fault => exact secures_throw fault sound

/-- A chain does what its second step does behind the first. -/
theorem secures_bind {next : α → Build β} (first : step.Secures store good)
    (behind : ∀ value middle, middle.Sound → store.Wider middle → good value middle →
      (next value).Secures middle last) : (step >>= next).Secures store last := by
  -- The second step is run only where the first succeeds; else the store is as the first left it.
  rcases ran : step.run.run store with ⟨outcome, middle⟩
  have sound := first.sound
  have wider := first.wider
  rw [ran] at sound wider
  cases outcome with
  | error fault => exact secures_of_fails (Build.bind_fails next ran) sound wider
  | ok value =>
    have second := behind value middle sound wider (first.good value middle ran)
    have run := Build.bind_run ran next
    refine ⟨?_, ?_, fun outcome after yielded => second.good outcome after (run.symm.trans yielded)⟩
    · rw [run]
      exact second.sound
    · rw [run]
      exact wider_trans wider second.wider

/-- A chain that looks something up first does what follows. -/
theorem secures_behind {next : α → Build β} {value : α} (first : step.Yields store value store)
    (behind : (next value).Secures store last) : (step >>= next).Secures store last := by
  have run := Build.bind_run first next
  constructor
  · rw [run]
    exact behind.sound
  · rw [run]
    exact behind.wider
  · intro outcome after yielded
    exact behind.good outcome after (run.symm.trans yielded)

/-- A loop keeps a store sound if its steps do. -/
theorem secures_each {step : α → Build Unit} {items : List α}
    (each : ∀ item ∈ items, ∀ middle : Store, middle.Sound → store.Wider middle →
      (step item).Secures middle fun _ _ => True) (sound : store.Sound) :
    (items.forM step).Secures store fun _ _ => True := by
  induction items generalizing store with
  | nil => exact secures_pure sound trivial
  | cons item rest inductionHypothesis =>
    refine secures_bind (each item List.mem_cons_self store sound (wider_refl store)) ?_
    intro _ middle sound wider _
    refine inductionHypothesis (fun other member after sound behind => ?_) sound
    exact each other (List.mem_cons_of_mem _ member) after sound (wider_trans wider behind)

end Chains

/-! ## New objects -/

/-- A value that mentions nothing is held by every store. -/
theorem held_of_none {value : Value} (none : value.mentions = []) : value.Held store := by
  intro ref mentioned
  rw [none] at mentioned
  cases mentioned

/-- An object is held as a value. -/
theorem object_held {ref : Ref} : (Value.object ref).Held store ↔ ref.Held store :=
  List.forall_mem_singleton

section New

variable (sound : store.Sound)

include sound

/-- A new body is there. -/
theorem new_block_secures :
    Build.newBlock.Secures store fun id after => id < after.blocks.size := by
  have wider : store.Wider { store with blocks := store.blocks.push [] } :=
    { wider_refl store with blocks := by simp }
  refine secures_of_renewed (Build.new_block_yields store) sound
    { renewed_refl _ store with wider, blocks := fun id body held => ?_ } (by simp)
  rcases push_cases held with old | rfl
  · exact .inl old
  · exact .inr (List.forall_mem_nil _)

/-- A new statement is there. -/
theorem new_statement_secures {statement : Statement}
    (mentioned : ∀ ref ∈ statement.mentions, ref.Held store) :
    (Build.newStatement statement).Secures store
      fun ref after => (Ref.statement ref).Held after := by
  have wider : store.Wider { store with statements := store.statements.push statement } :=
    { wider_refl store with
      statements := fun id other stored => ⟨other, push_held stored statement, rfl, rfl⟩ }
  refine secures_of_renewed (Build.new_statement_yields statement store) sound
    { renewed_refl _ store with wider, statements := fun id other stored => ?_ }
    ⟨statement, by simp, rfl⟩
  rcases push_cases stored with old | rfl
  · exact .inl old
  · exact .inr fun ref member => held_wider (mentioned ref member) wider

/-- A new growing list is there. -/
theorem new_cell_secures {items : List Value} (held : ∀ item ∈ items, item.Held store) :
    (Build.newCell items).Secures store fun ref after => ref.Held after := by
  have wider : store.Wider { store with cells := store.cells.push items } :=
    { wider_refl store with cells := by simp }
  refine secures_of_renewed (Build.new_cell_yields items store) sound
    { renewed_refl _ store with wider, cells := fun id others stored => ?_ } (by simp [Ref.Held])
  rcases push_cases stored with old | rfl
  · exact .inl old
  · exact .inr fun item member => value_wider (held item member) wider

/-- A new module is there. -/
theorem new_module_secures (name : String) :
    (Build.newModule name).Secures store fun id after => id < after.modules.size := by
  refine secures_of_renewed (Build.new_module_yields name store) sound
    { renewed_refl _ store with
      wider := { wider_refl store with blocks := by simp, modules := by simp },
      blocks := fun id body held => ?_, modules := fun id item stored => ?_ }
    (by simp)
  · rcases push_cases held with old | rfl
    · exact .inl old
    · exact .inr (List.forall_mem_nil _)
  · rcases push_cases stored with old | rfl
    · exact .inl ⟨item, old, rfl⟩
    · exact .inr (by simp)

/-- A new package is there. -/
theorem new_package_secures (name : String) :
    (Build.newPackage name).Secures store fun id after => id < after.packages.size := by
  refine secures_of_renewed (Build.new_package_yields name store) sound
    { renewed_refl _ store with
      wider := { wider_refl store with
        blocks := by simp, modules := by simp, packages := by simp },
      blocks := fun id body held => ?_, modules := fun id item stored => ?_,
      packages := fun id item stored => ?_ } (by simp)
  · rcases push_cases held with old | rfl
    · exact .inl old
    · exact .inr (List.forall_mem_nil _)
  · rcases push_cases stored with old | rfl
    · exact .inl ⟨item, old, rfl⟩
    · exact .inr (by simp)
  · rcases push_cases stored with old | rfl
    · exact .inl ⟨item, old, rfl⟩
    · exact .inr (by simp)

end New

end Stencil.Code
