import Stencil.Proofs.Code.Holding

/-!
# Building steps keep what is held

Every building operation keeps a store sound and loses no object of it, whether or
not it succeeds: what it stores mentions what it was given, what it takes out of
bodies, lists and iterators, and what it has made. An operation that yields a value
yields one that is held.
-/

namespace Stencil.Code

variable {store before after : Store}

/-! ## Feeding -/

/-- A value mentions what the value under its declared kinds mentions. -/
theorem plain_mentions (value : Value) : value.plain.mentions = value.mentions := by
  induction value using Value.plain.induct with
  | case1 kind inner inductionHypothesis =>
    rw [Value.plain, Value.mentions]
    exact inductionHypothesis
  | case2 value other =>
    unfold Value.plain
    split
    · rename_i kind inner
      exact absurd rfl (other kind inner)
    · rfl

/-- What the keys of a dictionary mention, its entries do. -/
theorem keys_mentions {entries : List (Value × Value)} {key : Value} {ref : Ref}
    (member : key ∈ entries.map Prod.fst) (mentioned : ref ∈ key.mentions) :
    ref ∈ Value.mentionsEntries entries := by
  induction entries with
  | nil => cases member
  | cons entry rest inductionHypothesis =>
    rw [Value.mentionsEntries, List.append_assoc, List.mem_append, List.mem_append]
    rcases List.mem_cons.mp member with rfl | inside
    · exact .inl mentioned
    · exact .inr (.inr (inductionHypothesis inside))

/-- What is walked through comes from a value: the value mentions it. -/
def Build.Supply.From (value : Value) : Build.Supply → Prop
  | .items given => ∀ item ∈ given, item.mentions ⊆ value.mentions
  | .walk id => ∃ walked, .iterator walked id ∈ value.mentions
  | .block id => .block id ∈ value.mentions
  | .cell id => .cell id ∈ value.mentions

/-- What a value supplies comes from it. -/
theorem supply_from {value : Value} {supply : Build.Supply}
    (supplied : Build.supply value = .ok supply) : supply.From value := by
  have same := plain_mentions value
  unfold Build.supply at supplied
  split at supplied
  · rename_i items plain
    cases supplied
    rw [plain, Value.mentions] at same
    intro item member ref mentioned
    rw [← same]
    exact mem_mentions_all.mpr ⟨item, member, mentioned⟩
  · rename_i items plain
    cases supplied
    rw [plain, Value.mentions] at same
    intro item member ref mentioned
    rw [← same]
    exact mem_mentions_all.mpr ⟨item, member, mentioned⟩
  · cases supplied
    intro item member
    obtain ⟨c, _, rfl⟩ := List.mem_map.mp member
    exact List.nil_subset _
  · cases supplied
    intro item member
    obtain ⟨byte, _, rfl⟩ := List.mem_map.mp member
    exact List.nil_subset _
  · rename_i entries plain
    cases supplied
    rw [plain, Value.mentions] at same
    intro item member ref mentioned
    rw [← same]
    exact keys_mentions member mentioned
  · rename_i walked id plain
    cases supplied
    rw [plain, Value.mentions] at same
    exact ⟨walked, same ▸ List.mem_singleton.mpr rfl⟩
  · rename_i id plain
    cases supplied
    rw [plain, Value.mentions] at same
    exact (same ▸ List.mem_singleton.mpr rfl : Ref.block id ∈ value.mentions)
  · rename_i id plain
    cases supplied
    rw [plain, Value.mentions] at same
    exact (same ▸ List.mem_singleton.mpr rfl : Ref.cell id ∈ value.mentions)
  · cases supplied

/-- What is walked through is in a store. -/
def Build.Supply.Held (store : Store) : Build.Supply → Prop
  | .items given => ∀ item ∈ given, item.Held store
  | .walk id => id < store.walks.size
  | .block id => id < store.blocks.size
  | .cell id => id < store.cells.size

/-- A value that is held supplies what is held. -/
theorem supply_held {value : Value} {supply : Build.Supply} (held : value.Held store)
    (supplied : Build.supply value = .ok supply) : supply.Held store := by
  have given := supply_from supplied
  cases supply with
  | items items => exact fun item member ref mentioned => held ref (given item member mentioned)
  | walk id =>
    obtain ⟨walked, mentioned⟩ := given
    exact held _ mentioned
  | block id => exact held _ given
  | cell id => exact held _ given

/-- What a feed mentions is in a store. -/
def Feed.Held (store : Store) : Feed → Prop
  | .one value => value.Held store
  | .all values => values.Held store

section Feeding

variable (sound : store.Sound)

include sound

/-- The statements of a body are held. -/
theorem block_held (id : Nat) : ∀ ref ∈ store.block id, (Ref.statement ref).Held store := by
  intro ref member
  cases held : store.blocks[id]? with
  | none => simp [Store.block, held] at member
  | some body =>
    rw [Store.block, held] at member
    exact sound.blocks id body held ref member

/-- The items of a growing list are held. -/
theorem cell_held (id : Nat) : ∀ item ∈ store.cell id, item.Held store := by
  intro item member
  cases held : store.cells[id]? with
  | none => simp [Store.cell, held] at member
  | some items =>
    rw [Store.cell, held] at member
    exact sound.cells id items held item member

/-- What an iterator walks through is held. -/
theorem walk_held (id : Nat) : (store.walks[id]?.getD (.rest [])).Held store := by
  cases come : store.walks[id]? with
  | none => exact List.forall_mem_nil _
  | some walk => exact sound.walks id walk come

/-- What an iterator has still to give is held. -/
theorem remaining_held {walk : Walk} (held : walk.Held store) :
    ∀ item ∈ store.remaining walk, item.Held store := by
  intro item member
  cases walk with
  | rest items => exact held item member
  | block id index =>
    obtain ⟨ref, inside, rfl⟩ := List.mem_map.mp member
    exact object_held.mpr (block_held sound id ref (List.mem_of_mem_drop inside))
  | cell id index => exact cell_held sound id item (List.mem_of_mem_drop member)

/-- The values that a body is fed with are held. -/
theorem intake_held {feed : Feed} (held : feed.Held store) :
    ∀ item ∈ store.intake feed, item.Held store := by
  cases feed with
  | one value => exact List.forall_mem_singleton.mpr held
  | all values =>
    cases supplied : Build.supply values with
    | error fault => simp [Store.intake, supplied]
    | ok supply =>
      have given := supply_held held supplied
      simp only [Store.intake, supplied]
      cases supply with
      | items items => exact given
      | cell id => exact cell_held sound id
      | block id => exact remaining_held sound given
      | walk id => exact remaining_held sound (walk_held sound id)

/-- Statements that are held are put into a body. -/
theorem appended_renewed (block : Nat) {refs : List StatementRef}
    (held : ∀ ref ∈ refs, (Ref.statement ref).Held store) :
    store.Renewed (store.appended block refs) := by
  have wider : store.Wider (store.appended block refs) :=
    { wider_refl store with blocks := by simp [Store.appended] }
  refine { renewed_refl _ store with wider, blocks := fun id body stored => ?_ }
  rcases modify_cases stored with old | ⟨old, there, rfl⟩
  · exact .inl old
  · refine .inr (List.forall_mem_append.mpr ⟨fun ref member => ?_, fun ref member => ?_⟩)
    · exact held_wider (sound.blocks id old there ref member) wider
    · exact held_wider (held ref member) wider

end Feeding

/-- Statements among values that are held are held. -/
theorem taken_held {values : List Value} (held : ∀ value ∈ values, value.Held store) :
    ∀ ref ∈ taken values, (Ref.statement ref).Held store := by
  induction values with
  | nil => exact List.forall_mem_nil _
  | cons value rest inductionHypothesis =>
    rw [List.forall_mem_cons] at held
    rw [taken]
    split
    · rename_i ref statement
      obtain rfl := statement_eq statement
      exact List.forall_mem_cons.mpr ⟨object_held.mp held.1, inductionHypothesis held.2⟩
    · exact List.forall_mem_nil _

/-- What is behind the next item is held. -/
theorem advance_held {walk : Walk} (held : walk.Held store) : walk.advance.Held store := by
  cases walk with
  | rest items => exact fun item member => held item (List.mem_of_mem_tail member)
  | block id index => exact held
  | cell id index => exact held

/-- What is behind items that were taken is held. -/
theorem walked_held (items : List Value) {walk : Walk} (held : walk.Held store) :
    (walk.walked items).Held store := by
  induction items generalizing walk with
  | nil => exact List.forall_mem_nil _
  | cons item rest inductionHypothesis =>
    rw [Walk.walked]
    split
    · exact inductionHypothesis (advance_held held)
    · exact advance_held held

/-- An iterator that comes further walks through what is held. -/
theorem walking_renewed (sound : store.Sound) (id : Nat) (change : Walk → Walk)
    (kept : ∀ walk, walk.Held store → (change walk).Held store) :
    store.Renewed (store.walking id change) := by
  have wider : store.Wider (store.walking id change) :=
    { wider_refl store with walks := by simp [Store.walking] }
  refine { renewed_refl _ store with wider, walks := fun other walk come => ?_ }
  rcases modify_cases come with old | ⟨old, there, rfl⟩
  · exact .inl old
  · exact .inr (walk_wider (kept old (sound.walks other old there)) wider)

/-- A body is fed with what is held. -/
theorem feed_secures (sound : store.Sound) (block : Nat) (feed : Feed) (held : feed.Held store) :
    (feed.act block).Secures store fun _ _ => True := by
  have eaten := appended_renewed sound block (taken_held (intake_held sound held))
  have middle := sound_renewed sound eaten
  have fed : (store.fed block feed).Sound ∧ store.Wider (store.fed block feed) := by
    unfold Store.fed
    cases feed.walk? with
    | none => exact ⟨middle, eaten.wider⟩
    | some id =>
      have come := walking_renewed middle id _ fun walk => walked_held (store.intake feed)
      exact ⟨sound_renewed middle come, wider_trans eaten.wider come.wider⟩
  rcases feed_outcome store block feed with is | ⟨_, is⟩
  · refine ⟨?_, ?_, fun _ _ _ => trivial⟩
    · rw [is]
      exact fed.1
    · rw [is]
      exact fed.2
  · refine ⟨?_, ?_, fun _ _ _ => trivial⟩
    · rwa [is]
    · rw [is]
      exact wider_refl store

/-- A value is put at the end of a body. -/
theorem push_secures (sound : store.Sound) (block : Nat) {value : Value} (held : value.Held store) :
    (Build.push block value).Secures store fun _ _ => True :=
  feed_secures sound block (.one value) held

/-- A body is extended by what a value gives. -/
theorem extend_secures (sound : store.Sound) (block : Nat) {values : Value}
    (held : values.Held store) : (Build.extend block values).Secures store fun _ _ => True :=
  feed_secures sound block (.all values) held

/-! ## Lists and iterators -/

section Lists

variable (sound : store.Sound)

include sound

/-- Values that are held are put at the end of a growing list. -/
theorem gathered_secures (cell : Nat) {items : List Value}
    (held : ∀ item ∈ items, item.Held store) :
    (modify fun store => { store with cells := store.cells.modify cell (· ++ items) } :
      Build Unit).Secures store fun _ _ => True := by
  have wider : store.Wider { store with cells := store.cells.modify cell (· ++ items) } :=
    { wider_refl store with cells := by simp }
  refine secures_modify sound { renewed_refl _ store with
    wider, cells := fun id others stored => ?_ }
  rcases modify_cases stored with old | ⟨old, there, rfl⟩
  · exact .inl old
  · refine .inr (List.forall_mem_append.mpr ⟨fun item member => ?_, fun item member => ?_⟩)
    · exact value_wider (sound.cells id old there item member) wider
    · exact value_wider (held item member) wider

/-- An iterator is put somewhere. -/
theorem set_walk_secures (id : Nat) {walk : Walk} (held : walk.Held store) :
    (Build.setWalk id walk).Secures store fun _ _ => True := by
  apply secures_modify sound
  exact walking_renewed sound id (fun _ => walk) fun _ _ => held

/-- A growing list is extended by what a value gives. -/
theorem extend_cell_secures (cell : Nat) {values : Value} (held : values.Held store) :
    (Build.extendCell cell values).Secures store fun _ _ => True := by
  unfold Build.extendCell
  apply secures_behind (Build.get_yields store)
  cases supplied : Build.supply values with
  | error fault => exact secures_throw fault sound
  | ok supply =>
    have given := supply_held held supplied
    apply secures_behind (Build.lift_yields rfl store)
    cases supply with
    | items items => exact gathered_secures sound cell given
    | cell id => exact gathered_secures sound cell (cell_held sound id)
    | block id => exact gathered_secures sound cell (remaining_held sound given)
    | walk id =>
      apply secures_behind (show (Build.walkAt id).Yields store _ store from rfl)
      have items := remaining_held sound (walk_held sound id)
      have gathered {others : List Value} (held : ∀ item ∈ others, item.Held store) :
          (do
            modify fun store => { store with cells := store.cells.modify cell (· ++ others) }
            Build.setWalk id (.rest []) : Build Unit).Secures store fun _ _ => True := by
        apply secures_bind (gathered_secures sound cell held)
        intro _ middle sound _ _
        exact set_walk_secures sound id (List.forall_mem_nil _)
      dsimp only
      split
      · rename_i source index first rest come given
        by_cases endless : source = cell
        · rw [if_pos endless]
          exact secures_throw .endless sound
        · rw [if_neg endless]
          exact gathered items
      · exact gathered items

/-- A new iterator is held. -/
theorem started_secures (walked : Walked) {walk : Walk} (held : walk.Held store) :
    (do
      let id := (← get).walks.size
      modify fun store => { store with walks := store.walks.push walk }
      return .object (.iterator walked id) : Build Value).Secures store
        fun result after => result.Held after := by
  have wider : store.Wider { store with walks := store.walks.push walk } :=
    { wider_refl store with walks := by simp }
  have new : (Ref.iterator walked store.walks.size).Held
      { store with walks := store.walks.push walk } := by simp [Ref.Held]
  refine secures_of_renewed (show Build.Yields _ store _ _ from rfl) sound
    { renewed_refl _ store with wider, walks := fun id other come => ?_ } (object_held.mpr new)
  rcases push_cases come with old | rfl
  · exact .inl old
  · exact .inr (walk_wider held wider)

/-- An iterator over a value is held. -/
theorem iterate_secures {value : Value} (held : value.Held store) :
    (Build.iterate value).Secures store fun result after => result.Held after := by
  unfold Build.iterate
  cases supplied : Build.supply value with
  | error fault => exact secures_throw fault sound
  | ok supply =>
    have given := supply_held held supplied
    apply secures_behind (Build.lift_yields rfl store)
    cases supply with
    | items items => exact started_secures sound _ given
    | walk id => exact secures_pure sound held
    | block id => exact started_secures sound _ given
    | cell id => exact started_secures sound _ given

/-- What an iterator gives next is held. -/
theorem next_secures (id : Nat) :
    (Build.next? id).Secures store fun item? after => ∀ item ∈ item?, item.Held after := by
  unfold Build.next?
  apply secures_behind (show (Build.walkAt id).Yields store _ store from rfl)
  apply secures_behind (Build.get_yields store)
  have come := walk_held sound id
  have items := remaining_held sound come
  split
  · have ended : (Walk.rest []).Held store := List.forall_mem_nil _
    apply secures_bind (set_walk_secures sound id ended)
    intro _ middle sound _ _
    exact secures_pure sound (fun item none => by cases none)
  · rename_i item rest given
    rw [given] at items
    apply secures_bind (set_walk_secures sound id (advance_held come))
    intro _ middle sound wider _
    apply secures_pure sound
    rintro other is
    cases is
    exact value_wider (items item List.mem_cons_self) wider

end Lists

/-! ## Statements and what takes them -/

/-- Looking up a statement. -/
theorem statement_at_yields (ref : StatementRef) (store : Store) :
    (Build.statementAt ref).Yields store (store.statements[ref.id]?.getD (.raw "")) store := rfl

/-- A statement that is looked up and is not the one for missing statements is stored. -/
theorem statement_stored {id : Nat} {statement : Statement}
    (found : store.statements[id]?.getD (.raw "") = statement) (other : statement ≠ .raw "") :
    store.statements[id]? = some statement := by
  cases stored : store.statements[id]? with
  | none =>
    rw [stored] at found
    exact absurd found.symm other
  | some held =>
    rw [stored] at found
    exact congrArg some found

/-- Whether an object takes statements is looked up. -/
theorem body_of_yields (ref : Ref) (store : Store) :
    ∃ found, (Build.bodyOf? ref).Yields store found store := by
  cases ref with
  | block id => exact ⟨some id, rfl⟩
  | module id => exact ⟨some _, rfl⟩
  | package id => exact ⟨some _, rfl⟩
  | template id => exact ⟨none, rfl⟩
  | iterator walked id => exact ⟨none, rfl⟩
  | cell id => exact ⟨none, rfl⟩
  | statement ref =>
    cases found : store.statements[ref.id]?.getD (.raw "") with
    | function name args body =>
      refine ⟨some body, Build.bind_yields (statement_at_yields ref store) ?_⟩
      rw [found]
      rfl
    | assignment target value | result expression | raw line | conditional condition yes no =>
      refine ⟨none, Build.bind_yields (statement_at_yields ref store) ?_⟩
      rw [found]
      rfl

section Statements

variable (sound : store.Sound)

include sound

/-- A statement is replaced by one of its shape that keeps its body. -/
theorem set_statement_secures (ref : StatementRef) {old statement : Statement}
    (stored : store.statements[ref.id]? = some old) (shape : statement.shape = old.shape)
    (body : statement.body? = old.body?)
    (mentioned : ∀ other ∈ statement.mentions, other.Held store) :
    (Build.setStatement ref statement).Secures store fun _ _ => True := by
  have wider : store.Wider
      { store with statements := store.statements.modify ref.id fun _ => statement } := by
    refine { wider_refl store with statements := fun id other held => ?_ }
    rw [Array.getElem?_modify]
    by_cases here : ref.id = id
    · subst here
      rw [if_pos rfl, stored]
      rw [stored] at held
      cases held
      exact ⟨statement, rfl, shape, body⟩
    · rw [if_neg here]
      exact ⟨other, held, rfl, rfl⟩
  refine secures_modify sound { renewed_refl _ store with
    wider, statements := fun id other held => ?_ }
  rcases modify_cases held with same | ⟨_, _, rfl⟩
  · exact .inl same
  · exact .inr fun other member => held_wider (mentioned other member) wider

/-- A value is put onto whatever takes statements. -/
theorem push_onto_secures {target value : Value} (given : target.Held store)
    (held : value.Held store) :
    (Build.pushOnto target value).Secures store fun result after => result.Held after := by
  unfold Build.pushOnto
  split
  · rename_i ref
    obtain ⟨found, body⟩ := body_of_yields ref store
    apply secures_behind body
    cases found with
    | none => exact secures_throw _ sound
    | some block =>
      apply secures_bind (push_secures sound block held)
      intro _ middle sound wider _
      exact secures_pure sound (value_wider given wider)
  · exact secures_throw _ sound

/-- Whatever takes statements, or is a growing list, is extended. -/
theorem extend_onto_secures {target values : Value} (given : target.Held store)
    (held : values.Held store) :
    (Build.extendOnto target values).Secures store fun result after => result.Held after := by
  unfold Build.extendOnto
  split
  · rename_i id
    apply secures_bind (extend_cell_secures sound id held)
    intro _ middle sound _ _
    exact secures_pure sound (held_of_none rfl)
  · rename_i ref _
    obtain ⟨found, body⟩ := body_of_yields ref store
    apply secures_behind body
    cases found with
    | none => exact secures_throw _ sound
    | some block =>
      apply secures_bind (extend_secures sound block held)
      intro _ middle sound wider _
      exact secures_pure sound (value_wider given wider)
  · have supplied : (liftM (Build.supply values) : Build Build.Supply).Secures store
        fun _ _ => True := secures_lift sound fun _ _ => trivial
    apply secures_bind supplied
    intro _ middle sound _ _
    exact secures_pure sound (held_of_none rfl)
  · exact secures_throw _ sound

/-- A parameter is added to a function. -/
theorem add_arg_secures {target : Value} (given : target.Held store) (arg : String) :
    (Build.addArg target arg).Secures store fun result after => result.Held after := by
  unfold Build.addArg
  split
  · rename_i ref
    apply secures_behind (statement_at_yields ref store)
    split
    · rename_i name args body found
      have stored := statement_stored found (by simp)
      have mentioned := sound.statements ref.id _ stored
      have replaced : (Build.setStatement ref (.function name (args ++ [arg]) body)).Secures store
          fun _ _ => True := set_statement_secures sound ref stored rfl rfl mentioned
      apply secures_bind replaced
      intro _ middle sound wider _
      exact secures_pure sound (value_wider given wider)
    · exact secures_throw _ sound
  · exact secures_throw _ sound

/-- A body of a conditional is replaced by what a step makes of it, if the step does no harm. -/
theorem with_body_secures (branch : Build.Branch) {target : Value} (given : target.Held store)
    {step : Value → Build Value} (steps : ∀ body, body.Held store →
      (step body).Secures store fun result after => result.Held after) :
    (Build.withBody branch target step).Secures store fun result after => result.Held after := by
  unfold Build.withBody
  split
  · rename_i ref
    apply secures_behind (statement_at_yields ref store)
    split
    · rename_i condition yes no found
      have mentioned := sound.statements ref.id _ (statement_stored found (by simp))
      refine secures_bind (steps _ ?_) fun body middle sound wider held => ?_
      · rintro other inside
        apply mentioned
        cases branch <;> simp [Statement.mentions, inside]
      · apply secures_behind (statement_at_yields ref middle)
        split
        · rename_i condition yes no found
          have stored := statement_stored found (by simp)
          have mentioned := sound.statements ref.id _ stored
          simp only [Statement.mentions, List.mem_append] at mentioned
          refine secures_bind (set_statement_secures sound ref stored (by cases branch <;> rfl)
            (by cases branch <;> rfl) ?_) fun _ last sound further _ => ?_
          · intro other inside
            cases branch with
            | thenBranch =>
              simp only [Statement.mentions, List.mem_append] at inside
              rcases inside with (first | new) | other
              · exact mentioned _ (.inl (.inl first))
              · exact held _ new
              · exact mentioned _ (.inr other)
            | elseBranch =>
              simp only [Statement.mentions, List.mem_append] at inside
              rcases inside with (first | other) | new
              · exact mentioned _ (.inl (.inl first))
              · exact mentioned _ (.inl (.inr other))
              · exact held _ new
          · exact secures_pure sound (value_wider given (wider_trans wider further))
        · exact secures_throw _ sound
    · exact secures_throw _ sound
  · exact secures_throw _ sound

end Statements

/-! ## Modules and packages -/

/-- A module's file is put somewhere. -/
theorem move_module_secures (sound : store.Sound) (directory : Path) (id : Nat) :
    (Build.moveModule directory id).Secures store fun _ _ => True := by
  refine secures_modify sound { renewed_refl _ store with
    wider := { wider_refl store with modules := by simp }
    modules := fun other item stored => ?_ }
  rcases modify_cases stored with same | ⟨old, there, rfl⟩
  · exact .inl ⟨item, same, rfl⟩
  · exact .inl ⟨old, there, rfl⟩

/-- A package is changed except for its root module. -/
theorem set_package_secures (sound : store.Sound) (id : Nat) {change : Package → Package}
    (kept : ∀ item, (change item).root = item.root) :
    (modify fun store => { store with packages := store.packages.modify id change } :
      Build Unit).Secures store fun _ _ => True := by
  refine secures_modify sound { renewed_refl _ store with
    wider := { wider_refl store with packages := by simp }
    packages := fun other item stored => ?_ }
  rcases modify_cases stored with same | ⟨old, there, rfl⟩
  · exact .inl ⟨item, same, rfl⟩
  · exact .inl ⟨old, there, kept old⟩

/-- What has files is put below a directory. The induction is on the bound for packages below each
other. -/
theorem move_secures (sound : store.Sound) (directory : Path) (fuel : Nat) (ref : Ref) :
    (Build.move directory fuel ref).Secures store fun _ _ => True := by
  induction fuel generalizing store ref with
  | zero =>
    cases ref with
    | module id => exact move_module_secures sound directory id
    | _ => exact secures_throw _ sound
  | succ fuel inductionHypothesis =>
    cases ref with
    | module id => exact move_module_secures sound directory id
    | package id =>
      rw [Build.move]
      apply secures_behind (Build.get_yields store)
      split
      · exact secures_pure sound trivial
      · rename_i item stored
        refine secures_bind (set_package_secures sound id fun _ => rfl) ?_
        intro _ first sound _ _
        apply secures_bind (move_module_secures sound directory item.root)
        intro _ second sound _ _
        have each (refs : List Ref) {before : Store} (sound : before.Sound) :
            (refs.forM (Build.move directory fuel)).Secures before fun _ _ => True :=
          secures_each (fun ref _ after sound _ => inductionHypothesis sound ref) sound
        apply secures_bind (each item.modules sound)
        intro _ third sound _ _
        exact each item.packages sound
    | _ => exact secures_throw _ sound

/-- What has files is attached to a package. -/
theorem attach_secures (sound : store.Sound) (sort : Build.Attachment) {target : Value}
    (given : target.Held store) (child : Value) :
    (Build.attach sort target child).Secures store fun result after => result.Held after := by
  unfold Build.attach
  split
  · rename_i id
    apply secures_behind (Build.get_yields store)
    split
    · exact secures_throw _ sound
    · rename_i item stored
      split
      · rename_i ref
        apply secures_behind (Build.get_yields store)
        apply secures_bind (move_secures sound item.path _ ref)
        intro _ middle sound wider _
        refine secures_bind (set_package_secures sound id fun _ => by cases sort <;> rfl) ?_
        intro _ last sound further _
        exact secures_pure sound (value_wider given (wider_trans wider further))
      · exact secures_throw _ sound
  · exact secures_throw _ sound

end Stencil.Code
