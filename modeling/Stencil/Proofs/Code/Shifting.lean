import Stencil.Proofs.Code.Feeding
import Stencil.Proofs.Code.Upkeep

/-!
# Stores with one body more

A store may stand beside another that has one body more, behind the older ones. The
newer bodies then have the next higher numbers there, and the statements that own
them name them so; all else is the same (`Store.Beside`). Building steps that are
run on both stores with these numbers stay in step: they fail with the same fault or
succeed alike, and the stores are beside each other again (`Build.InStep`).

The numbers of bodies show nowhere, so a statement has the same outline in both
stores (`outline_beside`).
-/

namespace Stencil.Code

/-! ## Numbers and statements -/

/-- The number of a body beside: one higher from a ground on. -/
def shifted (ground id : Nat) : Nat := if id < ground then id else id + 1

/-- A value that stands as a body, beside. -/
def Value.shifted (ground : Nat) : Value → Value
  | .object (.block id) => .object (.block (Code.shifted ground id))
  | value => value

/-- A statement beside. -/
def Statement.shifted (ground : Nat) : Statement → Statement
  | .function name args body => .function name args (Code.shifted ground body)
  | .conditional condition thenBody elseBody =>
    .conditional condition (thenBody.shifted ground) (elseBody.shifted ground)
  | statement => statement

/-- One store has a body more than another, at a ground, and this body holds some statements. -/
structure Store.Beside (ground : Nat) (extra : List StatementRef) (store other : Store) : Prop where
  statements : other.statements = store.statements.map (Statement.shifted ground)
  more : other.blocks[ground]? = some extra
  blocks : ∀ id, other.blocks[shifted ground id]? = store.blocks[id]?
  size : other.blocks.size = store.blocks.size + 1
  grown : ground ≤ store.blocks.size
  others : other = { store with statements := other.statements, blocks := other.blocks }
  modules : ∀ (id : Nat) (item : Module), store.modules[id]? = some item → item.body < ground
  walks : store.WalksOver ground

variable {ground block : Nat} {extra refs : List StatementRef} {store other : Store}

/-- The number of an older body is the same beside. -/
theorem shifted_older {id : Nat} (older : id < ground) : shifted ground id = id := if_pos older

/-- The number of a newer body is the next one beside. -/
theorem shifted_newer {id : Nat} (newer : ground ≤ id) : shifted ground id = id + 1 :=
  if_neg (Nat.not_lt.mpr newer)

/-- The body that is one more is not the one that a body is beside. -/
theorem shifted_apart (ground id : Nat) : shifted ground id ≠ ground := by
  unfold shifted
  split <;> omega

/-- A statement keeps its shape. -/
theorem shifted_shape (ground : Nat) (statement : Statement) :
    (statement.shifted ground).shape = statement.shape := by
  cases statement <;> rfl

/-- A value whose bodies are older is the same beside. -/
theorem value_shifted {value : Value} (older : ∀ id, Ref.block id ∈ value.mentions → id < ground) :
    value.shifted ground = value := by
  unfold Value.shifted
  split
  · rename_i id
    rw [shifted_older (older id (List.mem_singleton_self _))]
  · rfl

/-- A statement whose bodies are older is the same beside. -/
theorem statement_shifted {statement : Statement}
    (older : ∀ id, Ref.block id ∈ statement.mentions → id < ground) :
    statement.shifted ground = statement := by
  cases statement with
  | function name args body =>
    rw [Statement.shifted, shifted_older (older body (List.mem_singleton_self _))]
  | conditional condition thenBody elseBody =>
    simp only [Statement.mentions, List.mem_append] at older
    rw [Statement.shifted, value_shifted fun id inside => older id (.inl (.inr inside)),
      value_shifted fun id inside => older id (.inr inside)]
  | _ => rfl

/-- A sound store stands beside itself with a new body. -/
theorem beside_opened (sound : store.Sound) :
    store.Beside store.blocks.size [] { store with blocks := store.blocks.push [] } where
  statements := by
    apply Array.ext_getElem?
    intro id
    rw [Array.getElem?_map]
    cases stored : store.statements[id]? with
    | none => rfl
    | some statement =>
      rw [Option.map_some, statement_shifted fun block inside =>
        sound.statements id statement stored _ inside]
  more := by simp
  blocks id := by
    by_cases older : id < store.blocks.size
    · rw [shifted_older older, Array.getElem?_push, if_neg (by omega)]
    · rw [shifted_newer (Nat.not_lt.mp older), Array.getElem?_eq_none (Nat.not_lt.mp older),
        Array.getElem?_eq_none (by simp; omega)]
  size := by simp
  grown := Nat.le_refl _
  others := rfl
  modules id item stored := sound.modules id item stored
  walks id walk come := by
    have held := sound.walks id walk come
    cases walk with
    | block => exact held
    | rest | cell => trivial

/-- Statements may be put into the body that is one more. -/
theorem beside_appended (beside : store.Beside ground extra other) (refs : List StatementRef) :
    store.Beside ground (extra ++ refs) (other.appended ground refs) where
  statements := beside.statements
  more := Store.appended_block beside.more refs
  blocks id := by
    rw [Store.appended, Array.getElem?_modify, if_neg (Ne.symm (shifted_apart ground id)),
      beside.blocks]
  size := Array.size_modify.trans beside.size
  grown := beside.grown
  others := by
    rw [Store.appended]
    exact congrArg (fun store : Store =>
      { store with blocks := other.blocks.modify ground (· ++ refs) }) beside.others
  modules := beside.modules
  walks := beside.walks

/-! ## Steps on both stores -/

/-- On related stores two steps fail with the same fault, or they succeed with outcomes that are
alike. Either way they leave related stores. -/
def Build.InStep {α β : Type} (related : Store → Store → Prop) (step : Build α) (other : Build β)
    (alike : α → β → Prop) : Prop :=
  ∀ before before', related before before' →
    (∃ fault after after', step.Fails before fault after ∧ other.Fails before' fault after' ∧
      related after after') ∨
    ∃ value value' after after', step.Yields before value after ∧
      other.Yields before' value' after' ∧ alike value value' ∧ related after after'

section Steps

variable {α β γ δ : Type} {related : Store → Store → Prop} {alike : α → β → Prop}
  {last : γ → δ → Prop}

/-- Values that are given as they are. -/
theorem in_step_pure {value : α} {value' : β} (same : alike value value') :
    Build.InStep related (pure value) (pure value') alike :=
  fun before before' beside => .inr ⟨value, value', before, before', rfl, rfl, same, beside⟩

/-- The same fault. -/
theorem in_step_throw (fault : Fault) :
    Build.InStep related (throw fault : Build α) (throw fault : Build β) alike :=
  fun before before' beside => .inl ⟨fault, before, before', rfl, rfl, beside⟩

/-- Outcomes that are alike are also alike in a weaker way. -/
theorem in_step_weaken {step : Build α} {step' : Build β} {weaker : α → β → Prop}
    (known : Build.InStep related step step' alike)
    (weaken : ∀ value value', alike value value' → weaker value value') :
    Build.InStep related step step' weaker := by
  intro before before' beside
  rcases known before before' beside with
    failed | ⟨value, value', after, after', yielded, yielded', same, still⟩
  · exact .inl failed
  · exact .inr ⟨value, value', after, after', yielded, yielded', weaken value value' same, still⟩

/-- Chains of steps that stay in step. -/
theorem in_step_bind {step : Build α} {step' : Build β} {next : α → Build γ}
    {next' : β → Build δ} (first : Build.InStep related step step' alike)
    (behind : ∀ value value', alike value value' →
      Build.InStep related (next value) (next' value') last) :
    Build.InStep related (step >>= next) (step' >>= next') last := by
  intro before before' beside
  rcases first before before' beside with
    ⟨fault, after, after', failed, failed', still⟩ |
    ⟨value, value', middle, middle', yielded, yielded', same, still⟩
  · exact .inl ⟨fault, after, after', Build.bind_fails next failed, Build.bind_fails next' failed',
      still⟩
  · rcases behind value value' same middle middle' still with
      ⟨fault, after, after', failed, failed', again⟩ |
      ⟨outcome, outcome', after, after', done, done', agreed, again⟩
    · exact .inl ⟨fault, after, after', Build.bind_fails_behind yielded failed,
        Build.bind_fails_behind yielded' failed', again⟩
    · exact .inr ⟨outcome, outcome', after, after', Build.bind_yields yielded done,
        Build.bind_yields yielded' done', agreed, again⟩

end Steps

/-- A new body is newer in both stores. -/
theorem new_block_in_step : Build.InStep (Store.Beside ground extra) Build.newBlock Build.newBlock
    fun id id' => ground ≤ id ∧ id' = id + 1 := by
  intro before before' beside
  refine .inr ⟨_, _, _, _, Build.new_block_yields before, Build.new_block_yields before',
    ⟨beside.grown, beside.size⟩, ?_⟩
  constructor
  · exact beside.statements
  · exact push_held beside.more []
  · intro id
    have grown := beside.grown
    rw [Array.getElem?_push, Array.getElem?_push, beside.size, ← beside.blocks]
    by_cases last : id = before.blocks.size
    · rw [if_pos last, if_pos (by rw [last, shifted_newer grown])]
    · have other : shifted ground id ≠ before.blocks.size + 1 := by
        unfold shifted
        split <;> omega
      rw [if_neg last, if_neg other]
  · simp [beside.size]
  · have grown := beside.grown
    rw [Array.size_push]
    omega
  · rw [beside.others]
  · exact beside.modules
  · exact beside.walks

/-- A new statement has the same number in both stores. -/
theorem new_statement_in_step (ground : Nat) (extra : List StatementRef) (statement : Statement) :
    Build.InStep (Store.Beside ground extra) (Build.newStatement statement)
      (Build.newStatement (statement.shifted ground)) Eq := by
  intro before before' beside
  have size : before'.statements.size = before.statements.size := by simp [beside.statements]
  refine .inr ⟨_, _, _, _, Build.new_statement_yields statement before,
    Build.new_statement_yields _ before', ?_, ?_⟩
  · rw [shifted_shape, size]
  constructor
  · simp [beside.statements]
  · exact beside.more
  · exact beside.blocks
  · exact beside.size
  · exact beside.grown
  · rw [beside.others]
  · exact beside.modules
  · exact beside.walks

/-- A newer body is fed with the same from older bodies. What is fed comes from older bodies, which
are the same in both stores, so the same statements are taken and the same fault comes out; the body
that is fed is the newer one in each. -/
theorem feed_in_step {feed : Feed} (beyond : feed.Over ground) (newer : ground ≤ block) :
    Build.InStep (Store.Beside ground extra) (feed.act block) (feed.act (block + 1)) Eq := by
  intro before before' beside
  have walks : before'.walks = before.walks := by rw [beside.others]
  have walksOver : before'.WalksOver ground := by
    intro id walk come
    rw [walks] at come
    exact beside.walks id walk come
  have older : before.Older ground before' :=
    ⟨by rw [beside.others], fun id inside => by rw [← beside.blocks, shifted_older inside]⟩
  have intake : before'.intake feed = before.intake feed :=
    intake_alike older beside.walks beyond fun id _ => by rw [walks]
  have outcome : before'.feeding feed = before.feeding feed := by
    cases feed with
    | one value => rfl
    | all values => simp only [Store.feeding, intake]
  have run : (feed.act block).run.run before = (before.feeding feed, before.fed block feed) :=
    feed_run (clear_of_over beside.walks beyond newer)
  have run' : (feed.act (block + 1)).run.run before' =
      (before.feeding feed, before'.fed (block + 1) feed) := by
    rw [← outcome]
    exact feed_run (clear_of_over walksOver beyond (by omega))
  have still : (before.fed block feed).Beside ground extra (before'.fed (block + 1) feed) := by
    constructor
    · rw [fed_others before', fed_others before]
      exact beside.statements
    · rw [fed_blocks, if_neg (by omega)]
      exact beside.more
    · intro id
      rw [fed_blocks, fed_blocks, intake, beside.blocks]
      by_cases own : block = id
      · rw [if_pos own, if_pos (by rw [← own, shifted_newer newer])]
      · have other : block + 1 ≠ shifted ground id := by
          unfold shifted
          split <;> omega
        rw [if_neg own, if_neg other]
    · rw [fed_size, fed_size, beside.size]
    · rw [fed_size]
      exact beside.grown
    · have same : (before'.fed (block + 1) feed).walks = (before.fed block feed).walks := by
        apply Array.ext_getElem?
        intro id
        rw [fed_walks, fed_walks, intake, walks]
      rw [fed_others before', fed_others before, same, beside.others]
    · rw [fed_others before]
      exact beside.modules
    · exact fed_walks_over beside.walks block feed
  cases settled : before.feeding feed with
  | error fault =>
    rw [settled] at run run'
    exact .inl ⟨fault, _, _, run, run', still⟩
  | ok done =>
    rw [settled] at run run'
    exact .inr ⟨done, done, _, _, run, run', rfl, still⟩

/-! ## The same outlines -/

section Outlines

variable (beside : store.Beside ground extra other)

include beside

/-- A body has the same statements in both stores. -/
theorem block_beside (id : Nat) : other.block (shifted ground id) = store.block id := by
  rw [Store.block, Store.block, beside.blocks]

/-- The body of a module has the same statements in both stores. -/
theorem module_beside {id : Nat} {item : Module} (stored : store.modules[id]? = some item) :
    other.block item.body = store.block item.body := by
  rw [← block_beside beside, shifted_older (beside.modules id item stored)]

/-- Objects are named the same in both stores. -/
theorem name_beside : other.name = store.name := by
  have same (bound : Nat) : ∀ outer, other.nameOf bound outer = store.nameOf bound outer := by
    induction bound with
    | zero =>
      intro outer
      funext ref
      cases ref <;> rfl
    | succ bound inductionHypothesis =>
      intro outer
      funext ref
      cases ref with
      | cell id =>
        have cells : other.cell id = store.cell id := by rw [beside.others]; rfl
        simp only [Store.nameOf, cells, inductionHypothesis]
      | module id =>
        have modules : other.modules = store.modules := by rw [beside.others]
        simp only [Store.nameOf, modules]
        cases stored : store.modules[id]? with
        | none => rfl
        | some item => simp only [module_beside beside stored]
      | package id =>
        have packages : other.packages = store.packages := by rw [beside.others]
        simp only [Store.nameOf, packages]
      | template id =>
        have templates : other.templates = store.templates := by rw [beside.others]
        simp only [Store.nameOf, templates]
      | _ => rfl
  funext ref
  have cells : other.cells = store.cells := by rw [beside.others]
  rw [Store.name, Store.name, same, cells]

/-- Outlines make the same of an object as an operand in both stores. -/
theorem source_beside (outline : StatementRef → Except Fault Outline) :
    other.sourceWith outline = store.sourceWith outline := by
  funext ref
  cases ref with
  | module id =>
    have modules : other.modules = store.modules := by rw [beside.others]
    simp only [Store.sourceWith, modules]
    cases stored : store.modules[id]? with
    | none => rfl
    | some item => simp only [module_beside beside stored]
  | _ => rfl

/-- Outlines make the same of a value as the first body of a conditional in both stores. -/
theorem body_beside (outline : StatementRef → Except Fault Outline) (body : Value) :
    other.bodyWith outline (body.shifted ground) = store.bodyWith outline body := by
  unfold Value.shifted
  split
  · simp only [Store.bodyWith, block_beside beside]
  · unfold Store.bodyWith
    split
    · rename_i id none
      exact absurd rfl (none id)
    all_goals rfl

/-- Outlines make the same of a value as the second body of a conditional in both stores. -/
theorem else_beside (outline : StatementRef → Except Fault Outline) (body : Value) :
    other.elseWith outline (body.shifted ground) = store.elseWith outline body := by
  unfold Value.shifted
  split
  · simp only [Store.elseWith, block_beside beside]
  · unfold Store.elseWith
    split
    · rename_i id none
      exact absurd rfl (none id)
    · rfl

/-- Statements have the same outlines in both stores. The induction is on the bound; the cases are
the statements. -/
theorem outline_beside : other.outline = store.outline := by
  have same (bound : Nat) : other.outlineOf bound = store.outlineOf bound := by
    induction bound with
    | zero => rfl
    | succ bound inductionHypothesis =>
      funext ref
      rw [Store.outlineOf, Store.outlineOf, inductionHypothesis, name_beside beside,
        source_beside beside, beside.statements, Array.getElem?_map]
      cases store.statements[ref.id]? with
      | none => rfl
      | some statement =>
        cases statement with
        | function name args body =>
          simp only [Option.map_some, Statement.shifted, block_beside beside]
        | conditional condition thenBody elseBody =>
          simp only [Option.map_some, Statement.shifted, body_beside beside, else_beside beside]
        | assignment | result | raw => rfl
  have size : other.statements.size = store.statements.size := by simp [beside.statements]
  funext ref
  rw [Store.outline, Store.outline, size, same]

end Outlines

end Stencil.Code
