import Stencil.Proofs.Code.Reaching

/-!
# Storing new objects

Steps that build from what they are given store new objects and leave those that were
there, except that they may walk on iterators (`Store.Adds`). The new objects mention
new ones, and of the old ones only what the steps were given (`Store.Stems`). Both are
said of a store that was there at first, the ground, and of a later one, so they are
invariants of the steps in between: of storing objects (`new_block_stores`,
`new_statement_stores`, `new_cell_stores`) and of feeding a new body (`feed_stores`).
-/

namespace Stencil.Code

/-- An object that is in a store and was not in an earlier one. -/
def Ref.New (before after : Store) (ref : Ref) : Prop := ref.Held after ∧ ¬ref.Held before

/-- A statement, body or list with a number that is not given out yet. -/
def Ref.Beyond (ground : Store) : Ref → Prop
  | .statement ref => ground.statements.size ≤ ref.id
  | .block id => ground.blocks.size ≤ id
  | .cell id => ground.cells.size ≤ id
  | _ => False

/-- An object is new, or it is one of those that are given. -/
def Ref.From (given : Ref → Prop) (ground : Store) (ref : Ref) : Prop :=
  ref.Beyond ground ∨ given ref

/-- A value mentions what is new or given. -/
def Value.From (given : Ref → Prop) (ground : Store) (value : Value) : Prop :=
  ∀ ref ∈ value.mentions, ref.From given ground

namespace Store

/-- All that was stored is as it was, apart from iterators that were spent: they have an end of what
they had left. -/
structure Adds (spent : Nat → Prop) (ground store : Store) : Prop where
  statements : ∀ (id : Nat) (statement : Statement), ground.statements[id]? = some statement →
    store.statements[id]? = some statement
  blocks : ∀ (id : Nat) (body : List StatementRef), ground.blocks[id]? = some body →
    store.blocks[id]? = some body
  cells : ∀ (id : Nat) (items : List Value), ground.cells[id]? = some items →
    store.cells[id]? = some items
  walks : ∀ (id : Nat) (walk : Walk), store.walks[id]? = some walk → walk.Held ground ∧
    ∃ old, ground.walks[id]? = some old ∧ ground.remaining walk <:+ ground.remaining old
  still : ∀ id, ¬spent id → store.walks[id]? = ground.walks[id]?
  count : store.walks.size = ground.walks.size
  others : store = { ground with
    statements := store.statements
    blocks := store.blocks
    cells := store.cells
    walks := store.walks }

/-- What was stored since mentions what is new or given. The bodies of functions are new. -/
structure Stems (given : Ref → Prop) (ground store : Store) : Prop where
  statements : ∀ (id : Nat) (statement : Statement), ground.statements.size ≤ id →
    store.statements[id]? = some statement → ∀ ref ∈ statement.mentions, ref.From given ground
  bodies : ∀ (id : Nat) (statement : Statement) (body : Nat), ground.statements.size ≤ id →
    store.statements[id]? = some statement → statement.body? = some body →
    ground.blocks.size ≤ body
  blocks : ∀ (id : Nat) (body : List StatementRef), ground.blocks.size ≤ id →
    store.blocks[id]? = some body → ∀ ref ∈ body, (Ref.statement ref).From given ground
  cells : ∀ (id : Nat) (items : List Value), ground.cells.size ≤ id →
    store.cells[id]? = some items → ∀ item ∈ items, item.From given ground

/-- The invariant of steps that store new objects. -/
def storing (spent : Nat → Prop) (given : Ref → Prop) (ground : Store) : Frame Store :=
  .keeping fun store => ground.Adds spent store ∧ ground.Stems given store

end Store

variable {ground store : Store} {spent : Nat → Prop} {given : Ref → Prop}

/-! ## What was there -/

/-- Nothing has happened yet. -/
theorem storing_start (sound : ground.Sound) : (Store.storing spent given ground).holds ground := by
  have inside {α : Type} {items : Array α} {id : Nat} {item : α} (beyond : items.size ≤ id)
      (held : items[id]? = some item) : False := by
    have below := (Array.getElem?_eq_some_iff.mp held).1
    omega
  constructor
  · exact {
      statements := fun _ _ stored => stored
      blocks := fun _ _ held => held
      cells := fun _ _ held => held
      walks := fun id walk come => ⟨sound.walks id walk come, walk, come, List.suffix_rfl⟩
      still := fun _ _ => rfl
      count := rfl
      others := rfl }
  · exact {
      statements := fun _ _ beyond stored => (inside beyond stored).elim
      bodies := fun _ _ _ beyond stored => (inside beyond stored).elim
      blocks := fun _ _ beyond held => (inside beyond held).elim
      cells := fun _ _ beyond held => (inside beyond held).elim }

/-- An array that has an item wherever another has one has no fewer places. -/
theorem size_of_there {α : Type} {items others : Array α}
    (there : ∀ (id : Nat) (item : α), items[id]? = some item → ∃ other, others[id]? = some other) :
    items.size ≤ others.size := by
  refine Nat.le_of_not_lt fun fewer => ?_
  obtain ⟨other, held⟩ := there _ _ (Array.getElem?_eq_getElem fewer)
  exact absurd (Array.getElem?_eq_some_iff.mp held).1 (Nat.lt_irrefl _)

/-- An array that keeps its items has no fewer places. -/
theorem size_of_kept {α : Type} {items others : Array α}
    (kept : ∀ (id : Nat) (item : α), items[id]? = some item → others[id]? = some item) :
    items.size ≤ others.size :=
  size_of_there fun id item held => ⟨item, kept id item held⟩

section Kept

variable (adds : ground.Adds spent store)

include adds

/-- A body that was there has the statements that it had. -/
theorem adds_block {id : Nat} (old : id < ground.blocks.size) :
    store.block id = ground.block id := by
  have held := Array.getElem?_eq_getElem old
  rw [Store.block, Store.block, adds.blocks id _ held, held]

/-- A growing list that was there has the items that it had. -/
theorem adds_cell {id : Nat} (old : id < ground.cells.size) : store.cell id = ground.cell id := by
  have held := Array.getElem?_eq_getElem old
  rw [Store.cell, Store.cell, adds.cells id _ held, held]

/-- What an iterator over older objects has still to give does not depend on newer ones. -/
theorem adds_remaining {walk : Walk} (held : walk.Held ground) :
    store.remaining walk = ground.remaining walk := by
  cases walk with
  | rest items => rfl
  | block id index => simp only [Store.remaining, adds_block adds held]
  | cell id index => simp only [Store.remaining, adds_cell adds held]

/-- An iterator has an end of what it had left. -/
theorem adds_left (id : Nat) : store.left id <:+ ground.left id := by
  rw [Store.left]
  cases come : store.walks[id]? with
  | none => exact List.nil_suffix
  | some walk =>
    obtain ⟨held, old, there, part⟩ := adds.walks id walk come
    rw [Option.getD_some, adds_remaining adds held, Store.left, there]
    exact part

end Kept

/-! ## Steps that store -/

/-- A new body is stored. -/
theorem new_block_stores :
    (Store.storing spent given ground).Covers Build.newBlock fun id => ground.blocks.size ≤ id := by
  refine Frame.covers_of_run fun store ⟨adds, stems⟩ =>
    ⟨_, _, rfl, ⟨?_, ?_⟩, size_of_kept adds.blocks⟩
  · exact { adds with
      blocks := fun id body held => push_held (adds.blocks id body held) []
      others := congrArg (fun item : Store => { item with blocks := store.blocks.push [] })
        adds.others }
  · refine { stems with blocks := fun id body beyond held => ?_ }
    rcases push_cases held with old | rfl
    · exact stems.blocks id body beyond old
    · exact List.forall_mem_nil _

/-- A new statement is stored, if it mentions what is new or given and has a new body. -/
theorem new_statement_stores {statement : Statement}
    (mentioned : ∀ ref ∈ statement.mentions, ref.From given ground)
    (bodied : ∀ body, statement.body? = some body → ground.blocks.size ≤ body) :
    (Store.storing spent given ground).Covers (Build.newStatement statement)
      fun ref => (Ref.statement ref).Beyond ground := by
  refine Frame.covers_of_run fun store ⟨adds, stems⟩ =>
    ⟨_, _, rfl, ⟨?_, ?_⟩, size_of_kept adds.statements⟩
  · exact { adds with
      statements := fun id other stored => push_held (adds.statements id other stored) statement
      others := congrArg
        (fun item : Store => { item with statements := store.statements.push statement })
        adds.others }
  · refine { stems with statements := fun id other beyond stored => ?_, bodies := ?_ }
    · rcases push_cases stored with old | rfl
      · exact stems.statements id other beyond old
      · exact mentioned
    · intro id other body beyond stored has
      rcases push_cases stored with old | rfl
      · exact stems.bodies id other body beyond old has
      · exact bodied body has

/-- A new growing list is stored, if its items mention what is new or given. -/
theorem new_cell_stores {items : List Value} (mentioned : ∀ item ∈ items, item.From given ground) :
    (Store.storing spent given ground).Covers (Build.newCell items)
      fun ref => ref.Beyond ground := by
  refine Frame.covers_of_run fun store ⟨adds, stems⟩ =>
    ⟨_, _, rfl, ⟨?_, ?_⟩, size_of_kept adds.cells⟩
  · exact { adds with
      cells := fun id others held => push_held (adds.cells id others held) items
      others := congrArg (fun item : Store => { item with cells := store.cells.push items })
        adds.others }
  · refine { stems with cells := fun id others beyond held => ?_ }
    rcases push_cases held with old | rfl
    · exact stems.cells id others beyond old
    · exact mentioned

/-! ## Feeding new bodies -/

/-- A statement that is taken is among the values. -/
theorem mem_taken {values : List Value} {ref : StatementRef} (member : ref ∈ taken values) :
    ref.value ∈ values := by
  induction values with
  | nil => cases member
  | cons value rest inductionHypothesis =>
    rw [taken] at member
    split at member
    · rename_i first statement
      obtain rfl := statement_eq statement
      rcases List.mem_cons.mp member with rfl | behind
      · exact List.mem_cons_self
      · exact .tail _ (inductionHypothesis behind)
    · cases member

/-- An iterator that was walked on has an end of what it had left. -/
theorem walked_part (store : Store) (items : List Value) (walk : Walk) :
    store.remaining (walk.walked items) <:+ store.remaining walk := by
  have next (walk : Walk) : store.remaining walk.advance <:+ store.remaining walk := by
    rw [remaining_advance]
    exact List.tail_suffix _
  induction items generalizing walk with
  | nil => exact List.nil_suffix
  | cons item rest inductionHypothesis =>
    rw [Walk.walked]
    split
    · exact (inductionHypothesis walk.advance).trans (next walk)
    · exact next walk

/-- A body that is extended is fed with what the value supplies. -/
theorem intake_supplied {values : Value} {supply : Build.Supply}
    (supplied : Build.supply values = .ok supply) (store : Store) :
    store.intake (.all values) = store.supplied supply := by
  simp only [Store.intake, supplied]
  cases supply <;> rfl

/-- The iterator that is walked through is the one that the value supplies. -/
theorem walk_supplied {values : Value} {id : Nat} (walks : (Feed.all values).walk? = some id) :
    Build.supply values = .ok (.walk id) := by
  rw [Feed.walk?] at walks
  split at walks
  · rename_i other supplied
    cases walks
    exact supplied
  · cases walks

/-- Feeding starts no iterator. -/
theorem fed_count (store : Store) (block : Nat) (feed : Feed) :
    (store.fed block feed).walks.size = store.walks.size := by
  unfold Store.fed
  cases feed.walk? with
  | none => rfl
  | some id => exact Array.size_modify

/-- What a feed mentions is new or given; an iterator that it walks through may be spent. -/
def Feed.From (spent : Nat → Prop) (given : Ref → Prop) (ground : Store) : Feed → Prop
  | .one value => value.From given ground
  | .all values => (∀ ref ∈ values.mentions, given ref) ∧
      ∀ id, Build.supply values = .ok (.walk id) → spent id

/-- The iterator that a feed walks through may be spent. -/
theorem feed_spends {feed : Feed} (mentioned : feed.From spent given ground) {id : Nat}
    (walks : feed.walk? = some id) : spent id := by
  cases feed with
  | one value => cases walks
  | all values => exact mentioned.2 id (walk_supplied walks)

section Feeding

variable (whole : ground.Whole given) (known : ∀ ref, given ref → ref.Held ground)

include whole known

/-- What is given gives what is given. -/
theorem intake_given (adds : ground.Adds spent store) {values : Value}
    (mentioned : ∀ ref ∈ values.mentions, given ref) :
    ∀ item ∈ store.intake (.all values), ∀ ref ∈ item.mentions, given ref := by
  intro item member ref inside
  cases supplied : Build.supply values with
  | error fault => simp [Store.intake, supplied] at member
  | ok supply =>
    have among := supply_from supplied
    rw [intake_supplied supplied] at member
    cases supply with
    | items items => exact mentioned ref (among item member inside)
    | cell id =>
      have own := mentioned _ among
      rw [Store.supplied, adds_cell adds (known _ own)] at member
      exact whole _ own ref (mem_mentions_all.mpr ⟨item, member, inside⟩)
    | block id =>
      have own := mentioned _ among
      have old : (Walk.block id 0).Held ground := known _ own
      rw [Store.supplied, adds_remaining adds old] at member
      obtain ⟨statement, held, rfl⟩ := List.mem_map.mp member
      cases List.mem_singleton.mp inside
      exact whole _ own _ (List.mem_map_of_mem held)
    | walk id =>
      obtain ⟨walked, listed⟩ := among
      have left : item ∈ ground.left id := (adds_left adds id).subset member
      exact whole _ (mentioned _ listed) ref (mem_mentions_all.mpr ⟨item, left, inside⟩)

/-- The statements that a new body takes are new or given. -/
theorem intake_from (adds : ground.Adds spent store) {feed : Feed}
    (mentioned : feed.From spent given ground) :
    ∀ ref ∈ taken (store.intake feed), (Ref.statement ref).From given ground := by
  intro ref member
  have among := mem_taken member
  cases feed with
  | one value =>
    cases List.mem_singleton.mp among
    exact mentioned _ (List.mem_singleton.mpr rfl)
  | all values =>
    exact .inr (intake_given whole known adds mentioned.1 _ among _ (List.mem_singleton.mpr rfl))

/-- A new body is fed. The body is new, and what it takes comes from the values that are given; the
one iterator that may move is one that is given to be spent. -/
theorem feed_stores {block : Nat} (new : ground.blocks.size ≤ block) {feed : Feed}
    (mentioned : feed.From spent given ground) :
    (Store.storing spent given ground).Covers (feed.act block) fun _ => True := by
  intro store ⟨adds, stems⟩
  refine ⟨?_, fun _ _ => trivial⟩
  rcases feed_outcome store block feed with is | ⟨_, is⟩
  · rw [is, fed_others]
    constructor
    · exact { adds with
        blocks := fun id body held => by
          have old := (Array.getElem?_eq_some_iff.mp held).1
          rw [fed_blocks, if_neg (by omega)]
          exact adds.blocks id body held
        walks := fun id walk come => by
          rw [fed_walks] at come
          split at come
          · obtain ⟨before, there, rfl⟩ := Option.map_eq_some_iff.mp come
            obtain ⟨held, old, first, part⟩ := adds.walks id before there
            exact ⟨walked_held _ held, old, first, (walked_part ground _ before).trans part⟩
          · exact adds.walks id walk come
        still := fun id kept => by
          have other : feed.walk? ≠ some id := fun walks => kept (feed_spends mentioned walks)
          rw [fed_walks, if_neg other]
          exact adds.still id kept
        count := (fed_count store block feed).trans adds.count
        others := congrArg (fun item : Store => { item with
          blocks := (store.fed block feed).blocks
          walks := (store.fed block feed).walks }) adds.others }
    · refine { stems with blocks := fun id body beyond held => ?_ }
      rw [fed_blocks] at held
      split at held
      · obtain ⟨before, there, rfl⟩ := Option.map_eq_some_iff.mp held
        exact List.forall_mem_append.mpr ⟨stems.blocks id before beyond there,
          intake_from whole known adds mentioned⟩
      · exact stems.blocks id body beyond held
  · rw [is]
    exact ⟨adds, stems⟩

end Feeding

end Stencil.Code
