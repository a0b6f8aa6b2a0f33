import Stencil.Proofs.Code.Operations
import Stencil.Proofs.Template.Sparing

/-!
# Working on one's own objects

Values are put onto objects, objects are extended and functions get parameters, all of
them objects of one's own; and new objects are made in between (`Works`). Nothing else
changes then, iterators apart: not a statement, a body or a list of others
(`work_changes` for one operation, `works_change` for a run of them).

So what does not reach an object of one's own is rendered the same all the while
(`works_render`).
-/

namespace Stencil.Code

/-- An operation makes a new object, or it changes what objects of one's own hold. -/
def Operation.On (own : Ref → Prop) : Operation → Prop
  | .push target _ | .extend target _ | .addArg target _ => ∃ ref, target = .object ref ∧ own ref
  | .attach .. => False
  | _ => True

/-- A run of operations that make new objects or change what objects of one's own hold. All that the
operations are given was there before the run or was made by it. -/
inductive Works (own : Ref → Prop) : Store → Store → Prop where
  | none {start : Store} : Works own start start
  | act {start store : Store} (run : Works own start store) (operation : Operation)
    (held : ∀ value ∈ operation.values, value.Held store) (on : operation.On own) :
    Works own start (operation.act.run.run store).2

/-- One's own objects are there, and so are the bodies of functions among them. There are no modules
and packages among them. -/
structure Store.Owns (own : Ref → Prop) (store : Store) : Prop where
  held : ∀ ref, own ref → ref.Held store
  bodies : ∀ (ref : StatementRef) (statement : Statement) (body : Nat), own (.statement ref) →
    store.statements[ref.id]? = some statement → statement.body? = some body → own (.block body)
  modules : ∀ id, ¬own (.module id)
  packages : ∀ id, ¬own (.package id)

/-- Only objects of one's own have changed, apart from iterators. -/
structure Store.Changes (own : Ref → Prop) (before after : Store) : Prop where
  statements : ∀ (id : Nat) (statement : Statement), before.statements[id]? = some statement →
    own (.statement ⟨statement.shape, id⟩) ∨ after.statements[id]? = some statement
  blocks : ∀ (id : Nat) (body : List StatementRef), before.blocks[id]? = some body →
    own (.block id) ∨ after.blocks[id]? = some body
  cells : ∀ (id : Nat) (items : List Value), before.cells[id]? = some items →
    own (.cell id) ∨ after.cells[id]? = some items
  modules : ∀ (id : Nat) (item : Module), before.modules[id]? = some item →
    after.modules[id]? = some item
  packages : ∀ (id : Nat) (item : Package), before.packages[id]? = some item →
    after.packages[id]? = some item
  templates : ∀ (id : Nat) (item : Template.Template), before.templates[id]? = some item →
    after.templates[id]? = some item

variable {own : Ref → Prop} {start store before middle after : Store}

/-! ## Changes -/

/-- Nothing has changed. -/
theorem changes_refl (store : Store) : store.Changes own store where
  statements _ _ stored := .inr stored
  blocks _ _ held := .inr held
  cells _ _ held := .inr held
  modules _ _ stored := stored
  packages _ _ stored := stored
  templates _ _ stored := stored

/-- Only objects of one's own have changed, first and then. -/
theorem changes_trans (first : before.Changes own middle) (second : middle.Changes own after) :
    before.Changes own after where
  statements id statement stored :=
    (first.statements id statement stored).elim .inl (second.statements id statement)
  blocks id body held := (first.blocks id body held).elim .inl (second.blocks id body)
  cells id items held := (first.cells id items held).elim .inl (second.cells id items)
  modules id item stored := second.modules id item (first.modules id item stored)
  packages id item stored := second.packages id item (first.packages id item stored)
  templates id item stored := second.templates id item (first.templates id item stored)

/-- Storing new objects changes none. -/
theorem changes_of_adds {spent : Nat → Prop} (adds : before.Adds spent after) :
    before.Changes own after where
  statements id statement stored := .inr (adds.statements id statement stored)
  blocks id body held := .inr (adds.blocks id body held)
  cells id items held := .inr (adds.cells id items held)
  modules id item stored := by
    rw [adds.others]
    exact stored
  packages id item stored := by
    rw [adds.others]
    exact stored
  templates id item stored := by
    rw [adds.others]
    exact stored

/-- A body of one's own is fed, or a body that was not there at first. -/
theorem changes_fed (changes : start.Changes own store) {block : Nat} (feed : Feed)
    (free : block < start.blocks.size → own (.block block)) :
    start.Changes own (store.fed block feed) := by
  rw [fed_others]
  exact { changes with
    blocks := fun id body held => by
      by_cases here : block = id
      · subst here
        exact .inl (free (Array.getElem?_eq_some_iff.mp held).1)
      · rw [fed_blocks, if_neg here]
        exact changes.blocks id body held }

/-- What feeding a body changes, if it is one's own, or was not there at first; also where it
fails. -/
theorem feed_changes (changes : start.Changes own store) {block : Nat} (feed : Feed)
    (free : block < start.blocks.size → own (.block block)) :
    start.Changes own ((feed.act block).run.run store).2 := by
  rcases feed_outcome store block feed with is | ⟨_, is⟩
  · rw [is]
    exact changes_fed changes feed free
  · rw [is]
    exact changes

/-- A step behind which the store is left as it is. -/
theorem after_quiet {α β : Type} (step : Build α) {next : α → Build β}
    (quiet : ∀ value store, ((next value).run.run store).2 = store) (store : Store) :
    ((step >>= next).run.run store).2 = (step.run.run store).2 := by
  rcases ran : step.run.run store with ⟨outcome, middle⟩
  cases outcome with
  | error fault => rw [Build.bind_fails next ran]
  | ok value =>
    rw [Build.bind_run ran]
    exact quiet value middle

/-- The end of a reading leaves the store. -/
theorem finish_quiet (reading : Reading) (store : Store) :
    (reading.finish.run.run store).2 = store := by
  unfold Reading.finish
  split <;> rfl

/-- Iterators may be started and walked on. -/
theorem walks_changes (store : Store) (walks : Array Walk) :
    store.Changes own { store with walks } :=
  { changes_refl store with }

/-! ## Operations on one's own objects -/

section Owned

variable (owns : store.Owns own)

include owns

/-- The body of an object of one's own is one's own. -/
theorem body_owned {ref : Ref} (mine : own ref) {block : Nat}
    (body : (Build.bodyOf? ref).Yields store (some block) store) : own (.block block) := by
  cases ref with
  | block id =>
    cases body
    exact mine
  | module id => exact absurd mine (owns.modules id)
  | package id => exact absurd mine (owns.packages id)
  | statement ref =>
    obtain ⟨statement, stored, _⟩ := owns.held _ mine
    have looked := (Build.bind_run (statement_at_yields ref store) _).symm.trans body
    rw [stored] at looked
    cases statement with
    | function name args inner =>
      cases looked
      exact owns.bodies ref _ _ mine stored rfl
    | assignment | result | raw | conditional => cases looked
  | template | iterator | cell => cases body

/-- A value is put onto an object of one's own. -/
theorem push_changes {ref : Ref} (mine : own ref) (value : Value) :
    store.Changes own ((Build.pushOnto (.object ref) value).run.run store).2 := by
  obtain ⟨found, body⟩ := body_of_yields ref store
  cases found with
  | none =>
    rw [Build.pushOnto, Build.bind_run body]
    exact changes_refl store
  | some block =>
    rw [push_onto_eq body, after_quiet _ fun _ _ => rfl]
    exact feed_changes (changes_refl store) (.one value) fun _ => body_owned owns mine body

omit owns in
/-- A growing list of one's own is extended. -/
theorem extend_cell_changes {cell : Nat} (mine : own (.cell cell)) (values : Value) :
    store.Changes own ((Build.extendCell cell values).run.run store).2 := by
  have gathered (items : List Value) (walks : Array Walk) :
      store.Changes own
        { store with cells := store.cells.modify cell (· ++ items), walks := walks } := by
    refine { changes_refl store with cells := fun id held stored => ?_ }
    by_cases here : cell = id
    · exact .inl (here ▸ mine)
    · exact .inr (by rw [Array.getElem?_modify, if_neg here, stored])
  unfold Build.extendCell
  rw [Build.bind_run (Build.get_yields store)]
  cases supplied : Build.supply values with
  | error fault => exact changes_refl store
  | ok supply =>
    rw [Build.bind_run (Build.lift_yields rfl store)]
    cases supply with
    | items items => exact gathered items store.walks
    | cell id => exact gathered _ store.walks
    | block id => exact gathered _ store.walks
    | walk id =>
      dsimp only
      rw [Build.bind_run (show (Build.walkAt id).Yields store _ store from rfl)]
      split
      · split
        · exact changes_refl store
        · exact gathered _ _
      · exact gathered _ _

/-- An object of one's own is extended. -/
theorem extend_changes {ref : Ref} (mine : own ref) (reading : Reading) :
    store.Changes own ((Build.extendReading (.object ref) reading).run.run store).2 := by
  rw [Build.extendReading, after_quiet _ fun result middle =>
    (after_quiet _ (fun _ _ => rfl) middle).trans (finish_quiet reading middle)]
  by_cases list : ∃ id, ref = .cell id
  · obtain ⟨id, rfl⟩ := list
    rw [Build.extendOnto, after_quiet _ fun _ _ => rfl]
    exact extend_cell_changes mine reading.value
  · have notCell (id : Nat) : ref ≠ .cell id := fun is => list ⟨id, is⟩
    obtain ⟨found, body⟩ := body_of_yields ref store
    cases found with
    | none =>
      cases ref with
      | cell id => exact absurd rfl (notCell id)
      | _ =>
        rw [Build.extendOnto, Build.bind_run body]
        · exact changes_refl store
        · simp
    | some block =>
      rw [extend_onto_eq notCell body, after_quiet _ fun _ _ => rfl]
      exact feed_changes (changes_refl store) (.all reading.value) fun _ =>
        body_owned owns mine body

/-- A function of one's own gets a parameter. -/
theorem add_arg_changes {ref : Ref} (mine : own ref) (arg : String) :
    store.Changes own ((Build.addArg (.object ref) arg).run.run store).2 := by
  cases ref with
  | statement ref =>
    obtain ⟨statement, stored, shape⟩ := owns.held _ mine
    rw [Build.addArg, Build.bind_run (statement_at_yields ref store)]
    split
    · rw [after_quiet _ fun _ _ => rfl]
      refine { changes_refl store with statements := fun id other there => ?_ }
      by_cases here : ref.id = id
      · subst here
        cases stored.symm.trans there
        exact .inl (by rwa [shape])
      · refine .inr ?_
        change (store.statements.modify ref.id _)[id]? = some other
        rw [Array.getElem?_modify, if_neg here, there]
    · exact changes_refl store
  | _ => exact changes_refl store

end Owned

/-! ## Operations that make objects -/

/-- A new body of given values. -/
theorem block_of_changes (store : Store) (values : Value) :
    store.Changes own ((Build.blockOf values).run.run store).2 := by
  rw [Build.blockOf, Build.bind_run (Build.new_block_yields store), after_quiet _ fun _ _ => rfl]
  refine feed_changes ?_ (.all values) fun old => absurd old (Nat.lt_irrefl _)
  exact { changes_refl store with blocks := fun id body held => .inr (push_held held []) }

/-- A new package, with a root module and its body. -/
theorem new_package_changes (store : Store) (name : String) :
    store.Changes own ((Build.newPackage name).run.run store).2 := by
  rw [Build.new_package_yields name store]
  exact { changes_refl store with
    blocks := fun id body held => .inr (push_held held [])
    modules := fun id item stored => push_held stored _
    packages := fun id item stored => push_held stored _ }

/-- An iterator over a value. -/
theorem iterate_changes (store : Store) (value : Value) :
    store.Changes own ((Build.iterate value).run.run store).2 := by
  unfold Build.iterate
  cases supplied : Build.supply value with
  | error fault => exact changes_refl store
  | ok supply =>
    rw [Build.bind_run (Build.lift_yields rfl store)]
    cases supply with
    | walk id => exact changes_refl store
    | items | block | cell => exact walks_changes store _

/-- An operation changes objects of one's own only, whether or not it succeeds. What is made is new
and so among one's own; what is put somewhere is put into a body, a list or an iterator of one's
own; and what is read is left as it is. -/
theorem work_changes (sound : store.Sound) (owns : store.Owns own) (operation : Operation)
    (held : ∀ value ∈ operation.values, value.Held store) (on : operation.On own) :
    store.Changes own (operation.act.run.run store).2 := by
  -- Statements are stored behind the others, and so are bodies.
  have stored (statement : Statement) (blocks : Array (List StatementRef))
      (kept : ∀ (id : Nat) (body : List StatementRef), store.blocks[id]? = some body →
        blocks[id]? = some body) :
      store.Changes own
        { store with statements := store.statements.push statement, blocks := blocks } :=
    { changes_refl store with
      statements := fun id other there => .inr (push_held there statement)
      blocks := fun id body there => .inr (kept id body there) }
  cases operation with
  | assignment | result | raw => exact stored _ store.blocks fun _ _ there => there
  | function name args => exact stored _ _ fun _ _ there => push_held there []
  | conditional condition =>
    exact stored _ _ fun _ _ there => push_held (push_held there []) []
  | block statements =>
    rw [Operation.act, after_quiet _ fun result middle =>
      (after_quiet _ (fun _ _ => rfl) middle).trans (finish_quiet statements middle)]
    exact block_of_changes store statements.value
  | module name =>
    exact { changes_refl store with
      blocks := fun id body there => .inr (push_held there [])
      modules := fun id item there => push_held there _ }
  | package name =>
    rw [Operation.act, after_quiet _ fun _ _ => rfl]
    exact new_package_changes store name
  | template item =>
    exact { changes_refl store with templates := fun id other there => push_held there item }
  | list items =>
    exact { changes_refl store with cells := fun id others there => .inr (push_held there items) }
  | iterator value => exact iterate_changes store value
  | next walked id =>
    rw [Operation.act, after_quiet _ fun _ _ => rfl, next_run]
    exact walks_changes store _
  | push target value =>
    obtain ⟨ref, rfl, mine⟩ := on
    exact push_changes owns mine value
  | extend target reading =>
    obtain ⟨ref, rfl, mine⟩ := on
    exact extend_changes owns mine reading
  | addArg target arg =>
    obtain ⟨ref, rfl, mine⟩ := on
    exact add_arg_changes owns mine arg
  | attach => exact on.elim
  | call template readings =>
    have stores := Template.call_stores sound (List.forall_mem_map.mp held) template
    exact changes_of_adds (stores store (storing_start sound)).1.1

/-! ## Runs -/

/-- Objects of one's own stay so while nothing is lost. -/
theorem owns_wider (owns : before.Owns own) (wider : before.Wider after) : after.Owns own where
  held ref mine := held_wider (owns.held ref mine) wider
  bodies ref statement body mine stored has := by
    obtain ⟨old, there, _⟩ := owns.held _ mine
    obtain ⟨new, here, _, same⟩ := wider.statements ref.id old there
    cases stored.symm.trans here
    exact owns.bodies ref old body mine there (same.symm.trans has)
  modules := owns.modules
  packages := owns.packages

/-- A run of operations on one's own objects changes these only. It keeps the store sound and loses
nothing of it. The induction is on the run. -/
theorem works_change (sound : start.Sound) (owns : start.Owns own) (run : Works own start store) :
    store.Sound ∧ start.Wider store ∧ start.Changes own store := by
  induction run with
  | none => exact ⟨sound, wider_refl start, changes_refl start⟩
  | act run operation held on inductionHypothesis =>
    obtain ⟨middle, wider, changes⟩ := inductionHypothesis
    have secures := act_secures middle operation held
    exact ⟨secures.sound, wider_trans wider secures.wider, changes_trans changes
      (work_changes middle (owns_wider owns wider) operation held on)⟩

/-- While one works on one's own objects, a value that reaches none of them is rendered the same.
All that the value reaches was there and is not one's own, so it is stored as before, and the
rendering depends on nothing else (`render_alike`). -/
theorem works_render (sound : start.Sound) (owns : start.Owns own) (run : Works own start store)
    {value : Value} (held : value.Held start) (free : ∀ ref, value.Reaches start ref → ¬own ref)
    (depth : Int) : store.render depth value = start.render depth value := by
  obtain ⟨_, wider, changes⟩ := works_change sound owns run
  have there {ref : Ref} (reached : value.Reaches start ref) : ref.Held start :=
    reached_held sound held reached
  have alike : start.Alike (value.Reaches start) store := {
    statements := fun ref reached => by
      obtain ⟨statement, stored, shape⟩ := there reached
      have other : ¬own (.statement ⟨statement.shape, ref.id⟩) := by
        rw [shape]
        exact free _ reached
      rw [stored, (changes.statements ref.id statement stored).resolve_left other]
    blocks := fun id reached => by
      have held := Array.getElem?_eq_getElem (there reached)
      rw [held, (changes.blocks id _ held).resolve_left (free _ reached)]
    modules := fun id reached => by
      have stored := Array.getElem?_eq_getElem (there reached)
      rw [stored, changes.modules id _ stored]
    packages := fun id reached => by
      have stored := Array.getElem?_eq_getElem (there reached)
      rw [stored, changes.packages id _ stored]
    templates := fun id reached => by
      have stored := Array.getElem?_eq_getElem (there reached)
      rw [stored, changes.templates id _ stored]
    cells := fun id reached => by
      have held := Array.getElem?_eq_getElem (there reached)
      rw [held, (changes.cells id _ held).resolve_left (free _ reached)] }
  have statements : start.statements.size ≤ store.statements.size :=
    size_of_there fun id statement stored => by
      obtain ⟨other, kept, _⟩ := wider.statements id statement stored
      exact ⟨other, kept⟩
  exact render_alike alike (reached_whole start value) wider.cells statements depth
    fun ref mentioned => reaches_mentioned mentioned

end Stencil.Code
