import Stencil.Code.Store

/-!
# What building steps do

A building step takes a store to a store. `Build.Yields` says that it succeeds
and with which outcome, and the steps of a chain are put together from those of
its parts.

`Store.Extends` is the frame of building: all that was stored stays as it was,
except that one body, the target, may have grown. New objects are told from old
ones by their numbers.
-/

namespace Stencil.Code

/-- A step succeeds on a store, with an outcome, and leaves a store. -/
def Build.Yields {α : Type} (step : Build α) (before : Store) (value : α) (after : Store) : Prop :=
  step.run.run before = (.ok value, after)

/-- A step fails on a store, and leaves a store. -/
def Build.Fails {α : Type} (step : Build α) (before : Store) (fault : Fault) (after : Store) :
    Prop :=
  step.run.run before = (.error fault, after)

/-- The value of a growing list's item or of a body's statement. -/
def StatementRef.value (ref : StatementRef) : Value := .object (.statement ref)

/-- The statement that a value is. -/
def Value.statement? : Value → Option StatementRef
  | .object (.statement ref) => some ref
  | _ => .none

/-- Only a statement's value is that statement. -/
theorem statement_eq {value : Value} {ref : StatementRef} (same : value.statement? = some ref) :
    value = ref.value := by
  unfold Value.statement? at same
  split at same
  · cases same
    rfl
  · cases same

/-- Values that are statements one by one are the values of statements. -/
theorem statements_eq {values : List Value} {refs : List StatementRef}
    (same : values.mapM Value.statement? = some refs) : values = refs.map StatementRef.value := by
  induction values generalizing refs with
  | nil =>
    cases same
    rfl
  | cons value rest inductionHypothesis =>
    simp only [List.mapM_cons, Option.pure_def, Option.bind_eq_bind, Option.bind_eq_some_iff,
      Option.some.injEq] at same
    obtain ⟨ref, first, others, behind, rfl⟩ := same
    rw [statement_eq first, inductionHypothesis behind]
    rfl

/-- The values of statements are those statements one by one. -/
theorem statements_value (refs : List StatementRef) :
    (refs.map StatementRef.value).mapM Value.statement? = some refs := by
  induction refs with
  | nil => rfl
  | cons ref rest inductionHypothesis =>
    rw [List.map_cons, List.mapM_cons, inductionHypothesis]
    rfl

/-- What is at the end of an array does not hide what is before. -/
theorem push_held {α : Type} {items : Array α} {id : Nat} {item : α} (held : items[id]? = some item)
    (last : α) : (items.push last)[id]? = some item := by
  have inside : id < items.size := (Array.getElem?_eq_some_iff.mp held).1
  rw [Array.getElem?_push, if_neg (by omega), held]

/-- What is in an array with a new end was in it, or is the end. -/
theorem push_cases {α : Type} {items : Array α} {id : Nat} {last item : α}
    (held : (items.push last)[id]? = some item) : items[id]? = some item ∨ item = last := by
  rw [Array.getElem?_push] at held
  split at held
  · exact .inr (Option.some.inj held).symm
  · exact .inl held

/-- What is in an array that was changed at one place was in it, or is what was changed. -/
theorem modify_cases {α : Type} {items : Array α} {at' id : Nat} {change : α → α} {item : α}
    (held : (items.modify at' change)[id]? = some item) :
    items[id]? = some item ∨ ∃ old, items[id]? = some old ∧ item = change old := by
  rw [Array.getElem?_modify] at held
  split at held
  · obtain ⟨old, there, is⟩ := Option.map_eq_some_iff.mp held
    exact .inr ⟨old, there, is.symm⟩
  · exact .inl held

/-- What is at the end of an array is changed where it is. -/
theorem push_modify {α : Type} (items : Array α) (last : α) (change : α → α) :
    (items.push last).modify items.size change = items.push (change last) := by
  apply Array.ext_getElem?
  intro index
  rw [Array.getElem?_modify, Array.getElem?_push, Array.getElem?_push]
  by_cases here : items.size = index
  · rw [if_pos here, if_pos here.symm, if_pos here.symm]
    rfl
  · rw [if_neg here, if_neg (Ne.symm here), if_neg (Ne.symm here)]

namespace Store

/-- Statements are put at the end of a body. -/
def appended (store : Store) (block : Nat) (refs : List StatementRef) : Store :=
  { store with blocks := store.blocks.modify block (· ++ refs) }

/-- Putting no statement at the end of a body changes nothing. -/
@[simp] theorem appended_nil (store : Store) (block : Nat) : store.appended block [] = store := by
  have same : store.blocks.modify block (· ++ []) = store.blocks := by
    apply Array.ext_getElem?
    intro index
    rw [Array.getElem?_modify]
    split
    · cases store.blocks[index]? <;> simp
    · rfl
  rw [appended, same]

/-- Statements are put at the end of a body in parts. -/
theorem appended_appended (store : Store) (block : Nat) (refs others : List StatementRef) :
    (store.appended block refs).appended block others = store.appended block (refs ++ others) := by
  have same : (store.blocks.modify block (· ++ refs)).modify block (· ++ others) =
      store.blocks.modify block (· ++ (refs ++ others)) := by
    apply Array.ext_getElem?
    intro index
    simp only [Array.getElem?_modify]
    split
    · cases store.blocks[index]? <;> simp
    · rfl
  simp only [appended, same]

/-- Statements put at the end of a body stand behind those in it. -/
theorem appended_block {store : Store} {block : Nat} {held : List StatementRef}
    (open' : store.blocks[block]? = some held) (refs : List StatementRef) :
    (store.appended block refs).blocks[block]? = some (held ++ refs) := by
  rw [appended, Array.getElem?_modify, if_pos rfl, open']
  rfl

/-- A store keeps the statements and bodies of another, except that the target may have grown. -/
structure Keeps (target : Nat) (before after : Store) : Prop where
  statements : ∀ (id : Nat) (statement : Statement), before.statements[id]? = some statement →
    after.statements[id]? = some statement
  blocks : ∀ (id : Nat) (body : List StatementRef), id ≠ target →
    before.blocks[id]? = some body → after.blocks[id]? = some body
  grows : before.blocks.size ≤ after.blocks.size

/-- A store keeps all that was stored, except that the target may have grown. Objects other than
statements and bodies are the same. -/
structure Extends (target : Nat) (before after : Store) : Prop
    extends Keeps target before after where
  others : after = { before with statements := after.statements, blocks := after.blocks }

variable {target : Nat} {before middle after : Store}

/-- A store keeps what it has. -/
theorem extends_refl (target : Nat) (store : Store) : store.Extends target store :=
  ⟨⟨fun _ _ stored => stored, fun _ _ _ held => held, Nat.le_refl _⟩, rfl⟩

/-- Statements and bodies that are kept twice are kept. -/
theorem keeps_trans (first : before.Keeps target middle) (second : middle.Keeps target after) :
    before.Keeps target after where
  statements id statement stored :=
    second.statements id statement (first.statements id statement stored)
  blocks id body other held := second.blocks id body other (first.blocks id body other held)
  grows := Nat.le_trans first.grows second.grows

/-- Growing a body that was not there at first leaves the statements and bodies that were. -/
theorem keeps_fresh {fresh : Nat} (first : before.Keeps target middle)
    (new : before.blocks.size ≤ fresh) (second : middle.Keeps fresh after) :
    before.Keeps target after where
  statements id statement stored :=
    second.statements id statement (first.statements id statement stored)
  blocks id body other held := by
    have inside : id < before.blocks.size := (Array.getElem?_eq_some_iff.mp held).1
    exact second.blocks id body (by omega) (first.blocks id body other held)
  grows := Nat.le_trans first.grows second.grows

/-- What is kept twice is kept. -/
theorem extends_trans (first : before.Extends target middle)
    (second : middle.Extends target after) : before.Extends target after :=
  ⟨keeps_trans first.toKeeps second.toKeeps, by rw [second.others, first.others]⟩

/-- Growing a body that was not there at first leaves what was. -/
theorem extends_fresh {fresh : Nat} (first : before.Extends target middle)
    (new : before.blocks.size ≤ fresh) (second : middle.Extends fresh after) :
    before.Extends target after :=
  ⟨keeps_fresh first.toKeeps new second.toKeeps, by rw [second.others, first.others]⟩

/-- Growing lists are kept. -/
theorem extends_cells (extended : before.Extends target after) : after.cells = before.cells := by
  rw [extended.others]

end Store

namespace Build

variable {α β : Type} {before middle after : Store}

/-- A value is yielded as it is. -/
theorem pure_yields (value : α) (store : Store) :
    (pure value : Build α).Yields store value store := rfl

/-- A chain yields what its second step does behind the first. -/
theorem bind_yields {step : Build α} {next : α → Build β} {value : α} {outcome : β}
    (first : step.Yields before value middle) (second : (next value).Yields middle outcome after) :
    (step >>= next).Yields before outcome after := by
  rw [Yields] at first second ⊢
  rw [ExceptT.run_bind, StateT.run_bind, first]
  exact second

/-- A chain fails where its first step does. -/
theorem bind_fails {step : Build α} (next : α → Build β) {fault : Fault}
    (first : step.Fails before fault after) : (step >>= next).Fails before fault after := by
  rw [Fails] at first ⊢
  rw [ExceptT.run_bind, StateT.run_bind, first]
  rfl

/-- A chain fails where its second step does. -/
theorem bind_fails_behind {step : Build α} {next : α → Build β} {value : α} {fault : Fault}
    (first : step.Yields before value middle) (second : (next value).Fails middle fault after) :
    (step >>= next).Fails before fault after := by
  rw [Yields] at first
  rw [Fails] at second ⊢
  rw [ExceptT.run_bind, StateT.run_bind, first]
  exact second

/-- A chain that succeeds went through an outcome of its first step. -/
theorem bind_yields_iff {step : Build α} {next : α → Build β} {outcome : β} :
    (step >>= next).Yields before outcome after ↔ ∃ value middle,
      step.Yields before value middle ∧ (next value).Yields middle outcome after := by
  unfold Yields
  rw [ExceptT.run_bind, StateT.run_bind]
  rcases step.run.run before with ⟨result, middle⟩
  cases result with
  | error fault =>
    constructor
    · intro done
      cases done
    · rintro ⟨value, other, first, _⟩
      cases first
  | ok value =>
    constructor
    · intro done
      exact ⟨value, middle, rfl, done⟩
    · rintro ⟨_, _, first, behind⟩
      cases first
      exact behind

/-- A chain that fails did so in its first step or behind it. -/
theorem bind_fails_iff {step : Build α} {next : α → Build β} {fault : Fault} :
    (step >>= next).Fails before fault after ↔
      step.Fails before fault after ∨
      ∃ value middle, step.Yields before value middle ∧ (next value).Fails middle fault after := by
  unfold Yields Fails
  rw [ExceptT.run_bind, StateT.run_bind]
  rcases step.run.run before with ⟨result, middle⟩
  cases result with
  | error other =>
    constructor
    · intro failed
      cases failed
      exact .inl rfl
    · rintro (failed | ⟨value, other, first, _⟩)
      · cases failed
        rfl
      · cases first
  | ok value =>
    constructor
    · intro failed
      exact .inr ⟨value, middle, rfl, failed⟩
    · rintro (failed | ⟨_, _, first, behind⟩)
      · cases failed
      · cases first
        exact behind

/-- A step that fails does not succeed. -/
theorem not_yields_of_fails {step : Build α} {fault : Fault}
    (failed : step.Fails before fault after) (value : α) (other : Store) :
    ¬step.Yields before value other := by
  intro yielded
  rw [Yields, failed] at yielded
  cases yielded

/-- The store can be looked at. -/
theorem get_yields (store : Store) : (get : Build Store).Yields store store store := rfl

/-- An outcome that needs no store is yielded. -/
theorem lift_yields {outcome : Except Fault α} {value : α} (settled : outcome = .ok value)
    (store : Store) : (liftM outcome : Build α).Yields store value store := by
  subst settled
  rfl

/-- An outcome that needs no store is yielded if it is there. -/
theorem lift_yields_iff {outcome : Except Fault α} {value : α} :
    (liftM outcome : Build α).Yields before value after ↔ outcome = .ok value ∧ before = after := by
  cases outcome with
  | error fault =>
    constructor
    · intro done
      cases done
    · rintro ⟨is, _⟩
      cases is
  | ok given =>
    constructor
    · intro done
      cases done
      exact ⟨rfl, rfl⟩
    · rintro ⟨is, rfl⟩
      cases is
      rfl

/-- An outcome that needs no store fails if it is a fault. -/
theorem lift_fails_iff {outcome : Except Fault α} {fault : Fault} :
    (liftM outcome : Build α).Fails before fault after ↔
      outcome = .error fault ∧ before = after := by
  cases outcome with
  | ok given =>
    constructor
    · intro failed
      cases failed
    · rintro ⟨is, _⟩
      cases is
  | error other =>
    constructor
    · intro failed
      cases failed
      exact ⟨rfl, rfl⟩
    · rintro ⟨is, rfl⟩
      cases is
      rfl

/-- A new body is empty and has the next number. -/
theorem new_block_yields (store : Store) :
    newBlock.Yields store store.blocks.size { store with blocks := store.blocks.push [] } := rfl

/-- A new statement has the next number. -/
theorem new_statement_yields (statement : Statement) (store : Store) :
    (newStatement statement).Yields store ⟨statement.shape, store.statements.size⟩
      { store with statements := store.statements.push statement } := rfl

/-- A new growing list has the next number. -/
theorem new_cell_yields (items : List Value) (store : Store) :
    (newCell items).Yields store (.cell store.cells.size)
      { store with cells := store.cells.push items } := rfl

/-- A statement is put at the end of a body. -/
theorem push_yields (block : Nat) (ref : StatementRef) (store : Store) :
    (push block ref.value).Yields store () (store.appended block [ref]) := rfl

/-- Statements are put at the end of a body in their order. -/
theorem push_all_yields (block : Nat) (refs : List StatementRef) (store : Store) :
    (pushAll block (refs.map StatementRef.value)).Yields store () (store.appended block refs) := by
  induction refs generalizing store with
  | nil =>
    rw [Store.appended_nil]
    rfl
  | cons ref rest inductionHypothesis =>
    have behind := inductionHypothesis (store.appended block [ref])
    rw [Store.appended_appended] at behind
    exact bind_yields (push_yields block ref store) behind

/-- A new body leaves what was stored. -/
theorem new_block_extends (target : Nat) (store : Store) :
    store.Extends target { store with blocks := store.blocks.push [] } := by
  refine ⟨⟨fun _ _ stored => stored, ?_, ?_⟩, rfl⟩
  · intro id body _ held
    have inside : id < store.blocks.size := (Array.getElem?_eq_some_iff.mp held).1
    rw [Array.getElem?_push, if_neg (by omega), held]
  · simp

/-- A new statement leaves what was stored. -/
theorem new_statement_extends (target : Nat) (statement : Statement) (store : Store) :
    store.Extends target { store with statements := store.statements.push statement } := by
  refine ⟨⟨?_, fun _ _ _ held => held, Nat.le_refl _⟩, rfl⟩
  intro id other stored
  have inside : id < store.statements.size := (Array.getElem?_eq_some_iff.mp stored).1
  rw [Array.getElem?_push, if_neg (by omega), stored]

/-- Statements put at the end of the target leave what was stored. -/
theorem appended_extends (target : Nat) (refs : List StatementRef) (store : Store) :
    store.Extends target (store.appended target refs) := by
  refine ⟨⟨fun _ _ stored => stored, ?_, ?_⟩, rfl⟩
  · intro id body other held
    rw [Store.appended, Array.getElem?_modify, if_neg (fun same => other same.symm), held]
  · simp [Store.appended]

/-- A chain goes on from what its first step yields. -/
theorem bind_run {step : Build α} {value : α}
    (first : step.Yields before value middle) (next : α → Build β) :
    (step >>= next).run.run before = (next value).run.run middle := by
  rw [Build.Yields] at first
  rw [ExceptT.run_bind, StateT.run_bind, first]
  rfl

/-- A new module has the next number, and a new body. -/
theorem new_module_yields (name : String) (store : Store) :
    (newModule name).Yields store store.modules.size { store with
      blocks := store.blocks.push []
      modules := store.modules.push ⟨.ofText (name ++ ".py"), store.blocks.size⟩ } := rfl

/-- A new package has the next number, and a new module in its directory for its root. -/
theorem new_package_yields (name : String) (store : Store) :
    (newPackage name).Yields store store.packages.size { store with
      blocks := store.blocks.push []
      modules := store.modules.push
        ⟨(Path.ofText name).join (.ofText "__init__.py"), store.blocks.size⟩
      packages := store.packages.push ⟨.ofText name, store.modules.size, [], []⟩ } := by
  let inside (item : Module) : Module := { item with path := (Path.ofText name).join item.path }
  let root : Module := ⟨.ofText "__init__.py", store.blocks.size⟩
  have steps : (newPackage name).Yields store store.packages.size { store with
      blocks := store.blocks.push []
      modules := (store.modules.push root).modify store.modules.size inside
      packages := store.packages.push ⟨.ofText name, store.modules.size, [], []⟩ } := rfl
  rwa [push_modify] at steps

/-- A module is attached to a package: its file is moved into the package's directory. -/
theorem attach_yields {store : Store} {id inner : Nat} {item : Package}
    (stored : store.packages[id]? = some item) :
    (attach .module (.object (.package id)) (.object (.module inner))).Yields store
      (.object (.package id)) { store with
        modules := store.modules.modify inner fun other =>
          { other with path := item.path.join other.path }
        packages := store.packages.modify id fun other =>
          { other with modules := other.modules ++ [.module inner] } } := by
  unfold attach
  refine bind_yields (get_yields store) ?_
  rw [stored]
  rfl

/-- The body of a module that is stored is looked up. -/
theorem module_body_yields {store : Store} {id : Nat} {item : Module}
    (stored : store.modules[id]? = some item) :
    (moduleBody id).Yields store item.body store := by
  have known : ((store.modules[id]?).map Module.body).getD 0 = item.body := by rw [stored]; rfl
  rw [← known]
  rfl

/-- The root module of a package that is stored is looked up. -/
theorem package_root_yields {store : Store} {id : Nat} {item : Package}
    (stored : store.packages[id]? = some item) :
    (packageRoot id).Yields store item.root store := by
  have known : ((store.packages[id]?).map Package.root).getD 0 = item.root := by rw [stored]; rfl
  rw [← known]
  rfl

end Build

end Stencil.Code
