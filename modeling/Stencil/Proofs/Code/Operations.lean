import Stencil.Proofs.Code.Refusal
import Stencil.Proofs.Template.Reading

/-!
# Runs of building operations

A run makes objects, puts values onto them, extends them, attaches them to each
other and calls templates, with any values and in any order. An operation that
fails leaves what it had already done, and the run goes on (`Leads`). The bodies of
a conditional are replaced by what a given function makes of them, which can run
operations of its own. Extending by values that are made while they are asked for is
not set apart here: it is pushing one after another, and what makes them in between
(`Build.pushMade`).

Whatever a run does, bodies hold statements that are stored, and whatever takes
statements has a body (`run_secures`, `body_of_held`). So extending takes what is in
front of the first value that is no statement, and nothing else that was there
changes (`Ref.Takes`, `bodies_hold_statements`).
-/

namespace Stencil.Code

open Template (Readings)

/-- An operation of building. Values that are given to it may be any, also such as an operation
refuses. -/
inductive Operation where
  | assignment (target value : Value)
  | result (expression : Value)
  | raw (line : String)
  | function (name : String) (args : List String)
  | conditional (condition : Value)
  | block (statements : Reading)
  | module (name : String)
  | package (name : String)
  | template (template : Template.Template)
  | list (items : List Value)
  | iterator (value : Value)
  | next (walked : Walked) (id : Nat)
  | push (target value : Value)
  | extend (target : Value) (values : Reading)
  | addArg (target : Value) (arg : String)
  | attach (sort : Build.Attachment) (target child : Value)
  | call (template : Template.Template) (readings : Readings)

/-- Extend whatever takes statements by what is read. -/
def Build.extendReading (target : Value) (reading : Reading) : Build Value := do
  let result ← Build.extendOnto target reading.value
  reading.finish
  return result

/-- Extend an object that takes statements by values that are made one after another. -/
def Build.extendMade (target : Ref) (makes : List (Build Value)) : Build Value := do
  match ← bodyOf? target with
  | some block =>
    pushMade block makes
    return .object target
  | none => throw (.noAttribute target.kind "extend")

namespace Operation

/-- The values that an operation is given. -/
def values : Operation → List Value
  | .assignment target value => [target, value]
  | .result expression => [expression]
  | .conditional condition => [condition]
  | .block statements => [statements.value]
  | .list items => items
  | .iterator value => [value]
  | .next walked id => [.object (.iterator walked id)]
  | .push target value => [target, value]
  | .extend target reading => [target, reading.value]
  | .addArg target _ => [target]
  | .attach _ target child => [target, child]
  | .call _ readings => readings.map fun given => given.2.value
  | .raw _ | .function .. | .module _ | .package _ | .template _ => []

/-- Carry out an operation. -/
def act : Operation → Build Value
  | .assignment target value => do
    return .object (.statement (← Build.newStatement (.assignment target value)))
  | .result expression => do
    return .object (.statement (← Build.newStatement (.result expression)))
  | .raw line => do
    return .object (.statement (← Build.newStatement (.raw line)))
  | .function name args => do
    let body ← Build.newBlock
    return .object (.statement (← Build.newStatement (.function name args body)))
  | .conditional condition => do
    let thenBlock ← Build.newBlock
    let elseBlock ← Build.newBlock
    return .object (.statement (← Build.newStatement
      (.conditional condition (.object (.block thenBlock)) (.object (.block elseBlock)))))
  | .block statements => do
    let block ← Build.blockOf statements.value
    statements.finish
    return block
  | .module name => do return .object (.module (← Build.newModule name))
  | .package name => do return .object (.package (← Build.newPackage name))
  | .template item => do
    let id := (← get).templates.size
    modify fun store => { store with templates := store.templates.push item }
    return .object (.template id)
  | .list items => do return .object (← Build.newCell items)
  | .iterator value => Build.iterate value
  | .next _ id => do return (← Build.next? id).getD .none
  | .push target value => Build.pushOnto target value
  | .extend target reading => Build.extendReading target reading
  | .addArg target arg => Build.addArg target arg
  | .attach sort target child => Build.attach sort target child
  | .call item readings => item.callReading readings

end Operation

/-- A run of operations leads from a store to another. An operation is given objects that are there.
A body of a conditional is replaced by what a step makes of it, which is a run of its own. -/
inductive Leads : Store → Store → Prop where
  | none {start : Store} : Leads start start
  | act {start store : Store} (run : Leads start store) (operation : Operation)
    (held : ∀ value ∈ operation.values, value.Held store) :
    Leads start (operation.act.run.run store).2
  | withBody {start store : Store} (run : Leads start store) (branch : Build.Branch)
    {target : Value} (given : target.Held store) {step : Value → Build Value}
    (inner : ∀ body, body.Held store → Leads store ((step body).run.run store).2)
    (made : ∀ body result after, body.Held store → (step body).Yields store result after →
      result.Held after) :
    Leads start ((Build.withBody branch target step).run.run store).2

/-- The objects that take statements. This goes by the shape alone: a function, a body, a module and
a package, but not a conditional, which has two bodies. -/
def Ref.TakesStatements : Ref → Prop
  | .block _ | .module _ | .package _ => True
  | .statement ref => ref.shape = .function
  | .template _ | .iterator .. | .cell _ => False

/-- How an object takes what it is fed with: into a body, which is its own. -/
structure Ref.Takes (store : Store) (target : Ref) (block : Nat) (body : List StatementRef) :
    Prop where
  found : (Build.bodyOf? target).Yields store (some block) store
  held : store.blocks[block]? = some body
  /-- The first value that is no statement is refused, and the body has those in front of it. -/
  refused : ∀ (reading : Reading) (front : List StatementRef) (bad : Value) (rest : List Value),
    store.intake (.all reading.value) = front.map StatementRef.value ++ bad :: rest →
    bad.statement? = none →
    ∃ fault after, (Build.extendReading (.object target) reading).Fails store fault after ∧
      fault.family = .type ∧ fault.message = "Expected a Statement, got " ++ bad.kind ∧
      after.blocks[block]? = some (body ++ front) ∧
      store.Took after block (.all reading.value) front rest
  /-- So it is where the values are made one after another, if that leaves what is there. -/
  made : ∀ (makes : List (Build Value)) (front : List StatementRef) (bad : Value) (after : Store),
    Made block store makes front bad after →
    ∃ fault, (Build.extendMade target makes).Fails store fault after ∧
      fault.family = .type ∧ fault.message = "Expected a Statement, got " ++ bad.kind ∧
      after.blocks[block]? = some (body ++ front) ∧ store.Spares block after
  /-- Statements are all taken, if they are not the body's own, also where reading fails behind
  them. -/
  taken : ∀ (reading : Reading) (supply : Build.Supply) (refs : List StatementRef),
    Build.supply reading.value = .ok supply → store.Clear block (.all reading.value) →
    store.intake (.all reading.value) = refs.map StatementRef.value →
    ∃ after, store.Took after block (.all reading.value) refs [] ∧
      (reading.ending = none →
        (Build.extendReading (.object target) reading).Yields store (.object target) after) ∧
      ∀ fault, reading.ending = some fault →
        (Build.extendReading (.object target) reading).Fails store fault after
  pushed : ∀ ref : StatementRef,
    (Build.pushOnto (.object target) ref.value).Yields store (.object target)
      (store.appended block [ref])
  /-- What succeeds gives the object back. -/
  push : ∀ value result after,
    (Build.pushOnto (.object target) value).Yields store result after → result = .object target
  extend : ∀ reading result after,
    (Build.extendReading (.object target) reading).Yields store result after →
    result = .object target
  extendMade : ∀ makes result after,
    (Build.extendMade target makes).Yields store result after → result = .object target

variable {start store : Store}

/-! ## What a run keeps -/

/-- A body of given values is held. -/
theorem block_of_secures (sound : store.Sound) {values : Value} (held : values.Held store) :
    (Build.blockOf values).Secures store fun result after => result.Held after := by
  unfold Build.blockOf
  apply secures_bind (new_block_secures sound)
  intro block first sound wider inside
  apply secures_bind (extend_secures sound block (value_wider held wider))
  intro _ second sound further _
  apply secures_pure sound
  exact object_held.mpr (Nat.lt_of_lt_of_le inside further.blocks)

/-- The end of a reading, and the value that was made before it. -/
theorem finished_secures {step : Build Value} (reading : Reading)
    (secures : step.Secures store fun result after => result.Held after) :
    (do
      let result ← step
      reading.finish
      return result : Build Value).Secures store fun result after => result.Held after := by
  apply secures_bind secures
  intro result first sound wider held
  apply secures_bind (Template.reading_secures sound reading)
  intro _ second sound further _
  exact secures_pure sound (value_wider held further)

/-- Every operation keeps a store sound and loses nothing of it, whether or not it succeeds. What an
operation makes is held by the store that it leads to, so later operations may be given it. -/
theorem act_secures (sound : store.Sound) (operation : Operation)
    (held : ∀ value ∈ operation.values, value.Held store) :
    operation.act.Secures store fun result after => result.Held after := by
  cases operation with
  | assignment target value =>
    rw [Operation.values, List.forall_mem_cons, List.forall_mem_singleton] at held
    exact Template.statement_secures sound (List.forall_mem_append.mpr held)
  | result expression => exact Template.statement_secures sound (List.forall_mem_singleton.mp held)
  | raw line => exact Template.statement_secures sound (List.forall_mem_nil _)
  | function name args =>
    apply secures_bind (new_block_secures sound)
    intro body first sound wider inside
    exact Template.statement_secures sound (List.forall_mem_singleton.mpr inside)
  | conditional condition =>
    replace held := List.forall_mem_singleton.mp held
    apply secures_bind (new_block_secures sound)
    intro thenBlock first sound wider thenInside
    apply secures_bind (new_block_secures sound)
    intro elseBlock second sound further elseInside
    apply Template.statement_secures sound
    simp only [Statement.mentions, Value.mentions, List.forall_mem_append,
      List.forall_mem_singleton]
    exact ⟨⟨value_wider held (wider_trans wider further),
      Nat.lt_of_lt_of_le thenInside further.blocks⟩, elseInside⟩
  | block statements =>
    exact finished_secures statements (block_of_secures sound (List.forall_mem_singleton.mp held))
  | module name =>
    apply secures_bind (new_module_secures sound name)
    intro id after sound _ inside
    exact secures_pure sound (object_held.mpr inside)
  | package name =>
    apply secures_bind (new_package_secures sound name)
    intro id after sound _ inside
    exact secures_pure sound (object_held.mpr inside)
  | template template =>
    have new : (Ref.template store.templates.size).Held
        { store with templates := store.templates.push template } := by simp [Ref.Held]
    exact secures_of_renewed (show Build.Yields _ store _ _ from rfl) sound
      { renewed_refl _ store with wider := { wider_refl store with templates := by simp } }
      (object_held.mpr new)
  | list items =>
    apply secures_bind (new_cell_secures sound held)
    intro ref after sound _ stored
    exact secures_pure sound (object_held.mpr stored)
  | iterator value => exact iterate_secures sound (List.forall_mem_singleton.mp held)
  | next walked id =>
    apply secures_bind (next_secures sound id)
    intro item? after sound _ given
    apply secures_pure sound
    cases item? with
    | none => exact held_of_none rfl
    | some item => exact given item rfl
  | push target value =>
    rw [Operation.values, List.forall_mem_cons, List.forall_mem_singleton] at held
    exact push_onto_secures sound held.1 held.2
  | extend target reading =>
    rw [Operation.values, List.forall_mem_cons, List.forall_mem_singleton] at held
    exact finished_secures reading (extend_onto_secures sound held.1 held.2)
  | addArg target arg => exact add_arg_secures sound (List.forall_mem_singleton.mp held) arg
  | attach sort target child =>
    rw [Operation.values, List.forall_mem_cons] at held
    exact attach_secures sound sort held.1 child
  | call template readings =>
    exact Template.call_reading_secures template sound (List.forall_mem_map.mp held)

/-- A run keeps a store sound and loses nothing of it. The induction is on the run; where a body is
replaced, the run that makes the new one keeps the store as well. -/
theorem run_secures (run : Leads start store) (sound : start.Sound) :
    store.Sound ∧ start.Wider store := by
  induction run with
  | none => exact ⟨sound, wider_refl _⟩
  | act run operation held inductionHypothesis =>
    obtain ⟨middle, wider⟩ := inductionHypothesis sound
    have secures := act_secures middle operation held
    exact ⟨secures.sound, wider_trans wider secures.wider⟩
  | withBody run branch given inner made inductionHypothesis innerHypothesis =>
    obtain ⟨middle, wider⟩ := inductionHypothesis sound
    have secures := with_body_secures middle branch given fun body held => by
      obtain ⟨after, further⟩ := innerHypothesis body held middle
      exact ⟨after, further, fun result after yielded => made body result after held yielded⟩
    exact ⟨secures.sound, wider_trans wider secures.wider⟩

/-- The store without objects is sound. -/
theorem empty_sound : Store.empty.Sound := by
  constructor <;> intro id item stored <;> simp [Store.empty] at stored

/-! ## What takes statements -/

/-- An object that takes statements has a body. Soundness leads from a package to its root module,
and from there or from a function to a body; no number of a body is mentioned without one. -/
theorem body_of_held (sound : store.Sound) {target : Ref} (held : target.Held store)
    (takes : target.TakesStatements) :
    ∃ block body, (Build.bodyOf? target).Yields store (some block) store ∧
      store.blocks[block]? = some body := by
  -- Numbers of bodies that are mentioned are numbers of bodies.
  have stored {block : Nat} (inside : block < store.blocks.size) :
      ∃ body, store.blocks[block]? = some body := ⟨_, Array.getElem?_eq_getElem inside⟩
  have module {id : Nat} (inside : id < store.modules.size) :
      ∃ block body, (Build.moduleBody id).Yields store block store ∧
        store.blocks[block]? = some body := by
    have there := Array.getElem?_eq_getElem inside
    obtain ⟨body, open'⟩ := stored (sound.modules id _ there)
    exact ⟨_, body, Build.module_body_yields there, open'⟩
  cases target with
  | block id =>
    obtain ⟨body, open'⟩ := stored held
    exact ⟨id, body, rfl, open'⟩
  | module id =>
    obtain ⟨block, body, found, open'⟩ := module held
    exact ⟨block, body, Build.bind_yields found (Build.pure_yields _ _), open'⟩
  | package id =>
    have there := Array.getElem?_eq_getElem held
    obtain ⟨block, body, found, open'⟩ := module (sound.packages id _ there)
    refine ⟨block, body, Build.bind_yields (Build.package_root_yields there) ?_, open'⟩
    exact Build.bind_yields found (Build.pure_yields _ _)
  | statement ref =>
    obtain ⟨statement, there, shape⟩ := held
    rw [takes] at shape
    cases statement with
    | function name args block =>
      have inside : (Ref.block block).Held store :=
        sound.statements ref.id _ there _ (List.mem_singleton.mpr rfl)
      obtain ⟨body, open'⟩ := stored inside
      refine ⟨block, body, Build.bind_yields (statement_at_yields ref store) ?_, open'⟩
      rw [there]
      rfl
    | assignment | result | raw | conditional => cases shape
  | template | iterator | cell => exact takes.elim

/-- What is put onto an object gives the object back. -/
theorem push_onto_target {target : Ref} {block : Nat}
    (body : (Build.bodyOf? target).Yields store (some block) store) {value result : Value}
    {after : Store} (done : (Build.pushOnto (.object target) value).Yields store result after) :
    result = .object target := by
  rw [Build.Yields, push_onto_eq body] at done
  obtain ⟨_, middle, _, given⟩ := Build.bind_yields_iff.mp done
  cases given
  rfl

/-- What an object is extended by gives the object back. -/
theorem extend_reading_target {target : Ref} {block : Nat} (notCell : ∀ id, target ≠ .cell id)
    (body : (Build.bodyOf? target).Yields store (some block) store) {reading : Reading}
    {result : Value} {after : Store}
    (done : (Build.extendReading (.object target) reading).Yields store result after) :
    result = .object target := by
  obtain ⟨other, middle, extended, finished⟩ := Build.bind_yields_iff.mp done
  obtain ⟨_, last, _, given⟩ := Build.bind_yields_iff.mp finished
  cases given
  rw [Build.Yields, extend_onto_eq notCell body] at extended
  obtain ⟨_, _, _, given⟩ := Build.bind_yields_iff.mp extended
  cases given
  rfl

/-- What an object is extended by is refused where its body refuses it. -/
theorem extend_reading_refused {target : Ref} {block : Nat} (notCell : ∀ id, target ≠ .cell id)
    (body : (Build.bodyOf? target).Yields store (some block) store) (reading : Reading)
    {front : List StatementRef} {bad : Value} {rest : List Value} (refused : bad.statement? = none)
    (gives : store.intake (.all reading.value) =
      front.map StatementRef.value ++ bad :: rest) :
    ∃ after, (Build.extendReading (.object target) reading).Fails store (.notStatement bad.kind)
        after ∧ store.Took after block (.all reading.value) front rest := by
  obtain ⟨after, failed, took⟩ := feed_refused refused gives block
  refine ⟨after, Build.bind_fails _ ?_, took⟩
  rw [Build.Fails, extend_onto_eq notCell body]
  exact Build.bind_fails _ failed

/-- What an object is extended by is taken if it gives statements, also where reading it fails
behind them. -/
theorem extend_reading_taken {target : Ref} {block : Nat} (notCell : ∀ id, target ≠ .cell id)
    (body : (Build.bodyOf? target).Yields store (some block) store) (reading : Reading)
    {supply : Build.Supply} (supplied : Build.supply reading.value = .ok supply)
    (clear : store.Clear block (.all reading.value)) {refs : List StatementRef}
    (gives : store.intake (.all reading.value) = refs.map StatementRef.value) :
    ∃ after, store.Took after block (.all reading.value) refs [] ∧
      (reading.ending = none →
        (Build.extendReading (.object target) reading).Yields store (.object target) after) ∧
      ∀ fault, reading.ending = some fault →
        (Build.extendReading (.object target) reading).Fails store fault after := by
  obtain ⟨after, done, took⟩ := feed_taken supplied clear gives
  have extended : (Build.extendOnto (.object target) reading.value).Yields store (.object target)
      after := by
    rw [Build.Yields, extend_onto_eq notCell body]
    exact Build.bind_yields done (Build.pure_yields _ after)
  refine ⟨after, took, ?_, ?_⟩
  · intro ends
    have finished : reading.finish.Yields after () after := by
      rw [Reading.finish, ends]
      exact Build.pure_yields () after
    exact Build.bind_yields extended (Build.bind_yields finished (Build.pure_yields _ after))
  · intro fault ends
    apply Build.bind_fails_behind extended
    apply Build.bind_fails
    rw [Reading.finish, ends]
    rfl

/-- A statement that is put onto an object is put into its body. -/
theorem push_onto_taken {target : Ref} {block : Nat}
    (body : (Build.bodyOf? target).Yields store (some block) store) (ref : StatementRef) :
    (Build.pushOnto (.object target) ref.value).Yields store (.object target)
      (store.appended block [ref]) := by
  rw [Build.Yields, push_onto_eq body]
  exact Build.bind_yields (Build.push_yields block ref store) (Build.pure_yields _ _)

/-- Extending by values that are there already is extending by the list of them. -/
theorem extend_made_pure {target : Ref} {block : Nat} (notCell : ∀ id, target ≠ .cell id)
    (body : (Build.bodyOf? target).Yields store (some block) store) (items : List Value) :
    (Build.extendMade target (items.map pure)).run.run store =
      (Build.extendOnto (.object target) (.list items)).run.run store := by
  rw [extend_onto_eq notCell body, Build.extendMade, Build.bind_run body, ExceptT.run_bind,
    StateT.run_bind, ExceptT.run_bind, StateT.run_bind, push_made_pure, extend_run rfl,
    Build.takeFrom]

/-- What an object is extended by is refused where a value that is made is no statement. -/
theorem extend_made_refused {target : Ref} {block : Nat}
    (body : (Build.bodyOf? target).Yields store (some block) store) {makes : List (Build Value)}
    {front : List StatementRef} {bad : Value} {after : Store}
    (made : Made block store makes front bad after) :
    (Build.extendMade target makes).Fails store (.notStatement bad.kind) after := by
  obtain ⟨failed, _⟩ := made_refused made
  rw [Build.extendMade]
  apply Build.bind_fails_behind body
  exact Build.bind_fails _ failed

/-- What an object is extended by one after another gives the object back. -/
theorem extend_made_target {target : Ref} {block : Nat}
    (body : (Build.bodyOf? target).Yields store (some block) store) {makes : List (Build Value)}
    {result : Value} {after : Store}
    (done : (Build.extendMade target makes).Yields store result after) :
    result = .object target := by
  rw [Build.Yields, Build.extendMade, Build.bind_run body] at done
  obtain ⟨_, middle, _, given⟩ := Build.bind_yields_iff.mp done
  cases given
  rfl

/-- After any run bodies hold statements that are stored, and every object that takes statements
takes what it is fed with into a body: if that is statements and then a value that is none, the
value is refused, the body has taken the statements in front of it and nothing else has changed.

Proof: every operation keeps a store sound, also where it fails half way, so the first part is the
soundness of what the run leads to (`run_secures`). In a sound store whatever takes statements has a
body (`body_of_held`), and one equation says what feeding a body does, whether it comes to its end
or to a value that is refused (`feed_run`). -/
theorem bodies_hold_statements (run : Leads .empty store) :
    (∀ (id : Nat) (body : List StatementRef), store.blocks[id]? = some body → ∀ ref ∈ body,
      ∃ statement, store.statements[ref.id]? = some statement ∧ statement.shape = ref.shape) ∧
    ∀ target : Ref, target.Held store → target.TakesStatements →
      ∃ block body, target.Takes store block body := by
  obtain ⟨sound, _⟩ := run_secures run empty_sound
  constructor
  · exact sound.blocks
  · intro target held takes
    -- A growing list is extended as well, but has no body and takes any values.
    have notCell : ∀ id, target ≠ .cell id := by
      rintro id rfl
      exact takes
    obtain ⟨block, body, found, open'⟩ := body_of_held sound held takes
    refine ⟨block, body, ?_⟩
    constructor
    · exact found
    · exact open'
    · intro reading front bad rest gives refused
      obtain ⟨after, failed, took⟩ := extend_reading_refused notCell found reading refused gives
      refine ⟨.notStatement bad.kind, after, failed, rfl, rfl, ?_, took⟩
      rw [took.body, open']
      rfl
    · intro makes front bad after made
      obtain ⟨_, grown, spared⟩ := made_refused made
      refine ⟨.notStatement bad.kind, extend_made_refused found made, rfl, rfl, ?_, spared⟩
      rw [grown, open']
      rfl
    · intro reading supply refs supplied clear gives
      exact extend_reading_taken notCell found reading supplied clear gives
    · intro ref
      exact push_onto_taken found ref
    · intro value result after done
      exact push_onto_target found done
    · intro reading result after done
      exact extend_reading_target notCell found done
    · intro makes result after done
      exact extend_made_target found done

/-- A function has one line and is extended by another line, by nothing and by its line again; or it
is extended by a line that is made then, and by nothing. -/
theorem extension_stopped : ∃ store, Leads .empty store ∧ store.blocks[0]? = some [⟨.raw, 0⟩] ∧
    (∃ fault after, (Build.extendReading (.object (.statement ⟨.function, 2⟩)) (Value.read (.list
        [.object (.statement ⟨.raw, 1⟩), .none, .object (.statement ⟨.raw, 0⟩)]))).Fails
          store fault after ∧
      fault.message = "Expected a Statement, got NoneType" ∧
      after.blocks[0]? = some [⟨.raw, 0⟩, ⟨.raw, 1⟩]) ∧
    ∃ fault after, (Build.extendMade (.statement ⟨.function, 2⟩)
        [(Operation.raw "third()").act, pure .none]).Fails store fault after ∧
      fault.message = "Expected a Statement, got NoneType" ∧
      after.blocks[0]? = some [⟨.raw, 0⟩, ⟨.raw, 3⟩] := by
  have lines : Leads .empty _ :=
    .act (.act .none (.raw "first()") (List.forall_mem_nil _)) (.raw "second()")
      (List.forall_mem_nil _)
  have function : Leads .empty _ := .act lines (.function "f" []) (List.forall_mem_nil _)
  have run : Leads .empty _ :=
    .act function (.push (.object (.statement ⟨.function, 2⟩)) (.object (.statement ⟨.raw, 0⟩)))
      (List.forall_mem_cons.mpr ⟨object_held.mpr ⟨_, rfl, rfl⟩,
        List.forall_mem_singleton.mpr (object_held.mpr ⟨_, rfl, rfl⟩)⟩)
  obtain ⟨_, each⟩ := bodies_hold_statements run
  obtain ⟨block, body, takes⟩ := each (.statement ⟨.function, 2⟩) ⟨_, rfl, rfl⟩ rfl
  cases takes.found
  cases takes.held
  obtain ⟨fault, after, failed, _, message, held, _⟩ :=
    takes.refused (Value.read (.list
      [.object (.statement ⟨.raw, 1⟩), .none, .object (.statement ⟨.raw, 0⟩)]))
      [⟨.raw, 1⟩] .none [.object (.statement ⟨.raw, 0⟩)] rfl rfl
  obtain ⟨other, stopped, _, told, grown, _⟩ :=
    takes.made [(Operation.raw "third()").act, pure .none] [⟨.raw, 3⟩] .none _
      (.taken rfl (new_statement_spares 0 _ _) rfl (.refused rfl (spares_refl 0 _) rfl rfl))
  exact ⟨_, run, rfl, ⟨fault, after, failed, message, held⟩, other, _, stopped, told, grown⟩

end Stencil.Code
