import Stencil.Code.Cast
import Stencil.Proofs.Framing
import Stencil.Proofs.Code.Refusal
import Stencil.Proofs.Code.Upkeep

/-!
# Reserved iterators

Some iterators are reserved: nothing that is stored leads to them, neither a
growing list nor what another iterator has still to give. Then no step that
takes values apart comes to them, unless it is given one. What such a step
does to a store is a frame (`Store.skipping`): new iterators are started and old
ones are walked on, but not the reserved ones, and all else stays as it is.
-/

namespace Stencil.Code

variable {reserved : Nat → Prop} {store before middle after : Store} {value : Value}

/-- A value mentions no reserved iterator. -/
def Value.Avoids (reserved : Nat → Prop) (value : Value) : Prop :=
  ∀ walked id, .iterator walked id ∈ value.mentions → ¬reserved id

namespace Store

/-- What an iterator has still to give. -/
def left (store : Store) (id : Nat) : List Value :=
  store.remaining (store.walks[id]?.getD (.rest []))

/-- The reserved iterators are there, and nothing stored leads to them. -/
structure Reserves (reserved : Nat → Prop) (store : Store) : Prop where
  inside : ∀ id, reserved id → id < store.walks.size
  walks : ∀ id, ∀ item ∈ store.left id, item.Avoids reserved
  cells : ∀ id, ∀ item ∈ store.cell id, item.Avoids reserved

/-- Iterators are started and walked on, but not the reserved ones. -/
structure Skips (reserved : Nat → Prop) (before after : Store) : Prop where
  others : after = { before with walks := after.walks }
  size : before.walks.size ≤ after.walks.size
  shrinks : ∀ id < before.walks.size, after.left id <:+ before.left id
  still : ∀ id, reserved id → after.walks[id]? = before.walks[id]?
  reserves : after.Reserves reserved

/-- What is skipped twice is skipped. -/
theorem skips_trans (first : before.Skips reserved middle) (second : middle.Skips reserved after) :
    before.Skips reserved after where
  others := by rw [second.others, first.others]
  size := Nat.le_trans first.size second.size
  shrinks id inside :=
    (second.shrinks id (Nat.lt_of_lt_of_le inside first.size)).trans (first.shrinks id inside)
  still id own := (second.still id own).trans (first.still id own)
  reserves := second.reserves

/-- The frame of the steps that take values apart. -/
def skipping (reserved : Nat → Prop) : Frame Store where
  holds := Reserves reserved
  leads := Skips reserved
  refl _ holds := ⟨rfl, Nat.le_refl _, fun _ _ => List.suffix_rfl, fun _ _ => rfl, holds⟩
  trans _ _ _ := skips_trans
  ends _ _ leads := leads.reserves

/-- Growing lists and bodies stay as they are, so iterators that did not move have as much to
give. -/
theorem skips_remaining (skips : before.Skips reserved after) (walk : Walk) :
    after.remaining walk = before.remaining walk := by
  rw [skips.others]
  cases walk <;> rfl

/-- A reserved iterator has as much to give as before. -/
theorem skips_left (skips : before.Skips reserved after) {id : Nat} (own : reserved id) :
    after.left id = before.left id := by
  rw [left, left, skips.still id own, skips_remaining skips]

/-- Nothing is taken where a store has at most a new iterator. -/
structure Intact (before after : Store) : Prop where
  others : after = { before with walks := after.walks }
  size : before.walks.size ≤ after.walks.size
  old : ∀ id < before.walks.size, after.walks[id]? = before.walks[id]?

/-- Old iterators have as much to give as before. -/
theorem intact_left (intact : before.Intact after) {id : Nat}
    (inside : id < before.walks.size) : after.left id = before.left id := by
  have same (walk : Walk) : after.remaining walk = before.remaining walk := by
    rw [intact.others]
    cases walk <;> rfl
  rw [left, left, intact.old id inside, same]

/-- A new iterator leaves the old ones as they are. -/
theorem pushed_intact (store : Store) (walk : Walk) :
    store.Intact { store with walks := store.walks.push walk } where
  others := rfl
  size := by simp
  old id inside := by
    rw [Array.getElem?_push, if_neg (by omega)]

/-- A new iterator has all to give that it walks through. -/
theorem pushed_left (store : Store) (walk : Walk) :
    ({ store with walks := store.walks.push walk } : Store).left store.walks.size =
      store.remaining walk := by
  rw [left, Array.getElem?_push, if_pos rfl]
  cases walk <;> rfl

end Store

/-! ## Values -/

/-- A value that mentions less avoids as much. -/
theorem avoids_of_subset {part : Value} (avoids : value.Avoids reserved)
    (subset : part.mentions ⊆ value.mentions) : part.Avoids reserved :=
  fun walked id mentioned => avoids walked id (subset mentioned)

/-- A value that mentions nothing avoids everything. -/
theorem avoids_of_none (none : value.mentions = []) : value.Avoids reserved := by
  intro walked id mentioned
  rw [none] at mentioned
  cases mentioned

/-- A value of a plain kind with items that avoid the reserved iterators. -/
theorem avoids_of_all {items : List Value} (same : value.mentions = Value.mentionsAll items)
    (avoids : ∀ item ∈ items, item.Avoids reserved) : value.Avoids reserved := by
  intro walked id mentioned
  rw [same] at mentioned
  obtain ⟨item, member, inside⟩ := mem_mentions_all.mp mentioned
  exact avoids item member walked id inside

/-- Dictionaries whose keys and values avoid the reserved iterators. -/
theorem entries_avoid {entries : List (Value × Value)}
    (avoid : ∀ entry ∈ entries, entry.1.Avoids reserved ∧ entry.2.Avoids reserved) :
    (Value.dict entries).Avoids reserved := by
  intro walked id mentioned
  rw [Value.mentions] at mentioned
  induction entries with
  | nil => cases mentioned
  | cons entry rest inductionHypothesis =>
    obtain ⟨key, held⟩ := avoid entry List.mem_cons_self
    rw [Value.mentionsEntries, List.mem_append, List.mem_append] at mentioned
    rcases mentioned with (inKey | inValue) | later
    · exact key walked id inKey
    · exact held walked id inValue
    · exact inductionHypothesis (fun other member => avoid other (.tail _ member)) later

/-- What the entries of a dictionary mention, the dictionary does. -/
theorem avoids_entries {entries : List (Value × Value)}
    (avoids : (Value.dict entries).Avoids reserved) :
    ∀ entry ∈ entries, entry.1.Avoids reserved ∧ entry.2.Avoids reserved := by
  induction entries with
  | nil => simp
  | cons entry rest inductionHypothesis =>
    have parts : (Value.dict (entry :: rest)).mentions =
        entry.1.mentions ++ entry.2.mentions ++ (Value.dict rest).mentions := rfl
    intro other member
    rcases List.mem_cons.mp member with rfl | later
    · constructor
      · exact avoids_of_subset avoids (by rw [parts]; intro ref inside; simp [inside])
      · exact avoids_of_subset avoids (by rw [parts]; intro ref inside; simp [inside])
    · have behind : (Value.dict rest).Avoids reserved :=
        avoids_of_subset avoids (by rw [parts]; intro ref inside; simp [inside])
      exact inductionHypothesis behind other later

/-- Binding a key puts the key and the value into a dictionary, and nothing else. -/
theorem mem_insert_entry {key bound : Value} {entries : List (Value × Value)}
    {entry : Value × Value} (member : entry ∈ Value.insertEntry key bound entries) :
    (entry.1 = key ∨ ∃ old ∈ entries, entry.1 = old.1) ∧
      (entry.2 = bound ∨ ∃ old ∈ entries, entry.2 = old.2) := by
  induction entries with
  | nil =>
    rw [Value.insertEntry, List.mem_singleton] at member
    subst member
    exact ⟨.inl rfl, .inl rfl⟩
  | cons head rest inductionHypothesis =>
    rw [Value.insertEntry] at member
    split at member
    · rcases List.mem_cons.mp member with rfl | later
      · exact ⟨.inr ⟨head, List.mem_cons_self, rfl⟩, .inl rfl⟩
      · exact ⟨.inr ⟨entry, .tail _ later, rfl⟩, .inr ⟨entry, .tail _ later, rfl⟩⟩
    · rcases List.mem_cons.mp member with rfl | later
      · exact ⟨.inr ⟨_, List.mem_cons_self, rfl⟩, .inr ⟨_, List.mem_cons_self, rfl⟩⟩
      · obtain ⟨left, right⟩ := inductionHypothesis later
        refine ⟨left.imp_right ?_, right.imp_right ?_⟩
        · exact fun ⟨old, inside, is⟩ => ⟨old, .tail _ inside, is⟩
        · exact fun ⟨old, inside, is⟩ => ⟨old, .tail _ inside, is⟩

/-- The statements of a body are no iterators. -/
theorem block_avoids (store : Store) (id index : Nat) :
    ∀ item ∈ store.remaining (.block id index), item.Avoids reserved := by
  intro item member walked other mentioned
  obtain ⟨ref, _, rfl⟩ := List.mem_map.mp member
  cases List.mem_singleton.mp mentioned

/-! ## Taking from iterators -/

/-- The place of an iterator behind the item that it gives next. -/
def Store.onward (store : Store) (id : Nat) : Walk → Walk :=
  fun walk => if store.left id = [] then .rest [] else walk.advance

/-- Walking on leaves an end of what was left. -/
theorem onward_part (store : Store) (id : Nat) (walk : Walk) :
    store.remaining (store.onward id walk) <:+ store.remaining walk := by
  rw [Store.onward]
  split
  · exact List.nil_suffix
  · rw [remaining_advance]
    exact List.tail_suffix _

/-- Asking an iterator gives the first item that is left, and moves the iterator behind it. -/
theorem next_run (id : Nat) (store : Store) :
    (Build.next? id).run.run store =
      (.ok (store.left id).head?, store.walking id (store.onward id)) := by
  have looked : (Build.walkAt id).Yields store (store.walks[id]?.getD (.rest [])) store := rfl
  rw [Build.next?, Build.bind_run looked, Build.bind_run (Build.get_yields store), ← Store.left]
  cases given : store.left id with
  | nil =>
    have change : store.onward id = fun _ => .rest [] := by
      funext walk
      rw [Store.onward, if_pos given]
    rw [change]
    rfl
  | cons item rest =>
    have change : store.walks.modify id (fun _ => (store.walks[id]?.getD (.rest [])).advance) =
        store.walks.modify id (store.onward id) := by
      apply Array.ext_getElem?
      intro index
      rw [Array.getElem?_modify, Array.getElem?_modify]
      by_cases here : id = index
      · subst here
        cases there : store.walks[id]? with
        | none => simp
        | some walk => simp [Store.onward, given]
      · rw [if_neg here, if_neg here]
    rw [Store.walking, ← change]
    rfl

/-- The items that are left after asking an iterator. -/
theorem left_walking (store : Store) (id other : Nat) :
    (store.walking id (store.onward id)).left other =
      if other = id then (store.left id).tail else store.left other := by
  have same (walk : Walk) : (store.walking id (store.onward id)).remaining walk =
      store.remaining walk := by
    cases walk <;> rfl
  rw [Store.left, same, Store.walking, Array.getElem?_modify]
  by_cases here : other = id
  · subst here
    rw [if_pos rfl, if_pos rfl]
    cases there : store.walks[other]? with
    | none =>
      have ended : store.left other = [] := by rw [Store.left, there]; rfl
      rw [ended]
      rfl
    | some walk =>
      have given : store.left other = store.remaining walk := by rw [Store.left, there]; rfl
      rw [Option.map_some, Option.getD_some, Store.onward]
      split
      · rename_i ended
        rw [ended]
        rfl
      · rw [remaining_advance, given]
  · rw [if_neg (Ne.symm here), if_neg here]
    rfl

/-- An iterator that is walked on has an end of what it had left. -/
theorem walking_left (id : Nat) (change : Walk → Walk)
    (part : ∀ walk, store.walks[id]? = some walk →
      store.remaining (change walk) <:+ store.remaining walk) (other : Nat) :
    (store.walking id change).left other <:+ store.left other := by
  have same (walk : Walk) : (store.walking id change).remaining walk = store.remaining walk := by
    cases walk <;> rfl
  rw [Store.left, same, Store.walking, Array.getElem?_modify, Store.left]
  split
  · rename_i here
    subst here
    cases there : store.walks[id]? with
    | none => exact List.suffix_rfl
    | some walk => exact part walk there
  · exact List.suffix_rfl

/-- An iterator that is not reserved is walked on. -/
theorem walking_skips (reserves : store.Reserves reserved) {id : Nat} (free : ¬reserved id)
    (change : Walk → Walk)
    (part : ∀ walk, store.walks[id]? = some walk →
      store.remaining (change walk) <:+ store.remaining walk) :
    store.Skips reserved (store.walking id change) where
  others := rfl
  size := by simp [Store.walking]
  shrinks other _ := walking_left id change part other
  still other own := by
    have apart : id ≠ other := fun same => free (same ▸ own)
    rw [Store.walking, Array.getElem?_modify, if_neg apart]
  reserves := {
    inside := fun other own => by simpa [Store.walking] using reserves.inside other own
    walks := fun other item member =>
      reserves.walks other item ((walking_left id change part other).subset member)
    cells := reserves.cells }

/-! ## Steps that take values apart -/

/-- An iterator that is not reserved is asked. -/
theorem next_skips {id : Nat} (free : ¬reserved id) :
    (Store.skipping reserved).Covers (Build.next? id)
      fun item? => ∀ item ∈ item?, item.Avoids reserved := by
  refine Frame.covers_of_run fun store reserves => ⟨_, _, next_run id store, ?_, ?_⟩
  · exact walking_skips reserves free _ fun walk _ => onward_part store id walk
  · intro item first
    exact reserves.walks id item (List.mem_of_mem_head? first)

/-- What a value that avoids the reserved iterators supplies. -/
def Build.Supply.Avoids (reserved : Nat → Prop) : Build.Supply → Prop
  | .items given => ∀ item ∈ given, item.Avoids reserved
  | .walk id => ¬reserved id
  | _ => True

/-- What a value supplies avoids what the value avoids. -/
theorem supply_avoids {supply : Build.Supply} (avoids : value.Avoids reserved)
    (supplied : Build.supply value = .ok supply) : supply.Avoids reserved := by
  have given := supply_from supplied
  cases supply with
  | items items => exact fun item member => avoids_of_subset avoids (given item member)
  | walk id =>
    obtain ⟨walked, mentioned⟩ := given
    exact avoids walked id mentioned
  | block id => trivial
  | cell id => trivial

/-- What walking through a supply gives. -/
def Store.supplied (store : Store) : Build.Supply → List Value
  | .items items => items
  | .cell id => store.cell id
  | .block id => store.remaining (.block id 0)
  | .walk id => store.left id

/-- An iterator that is walked through is used up. -/
def Store.exhausted (store : Store) : Build.Supply → Store
  | .walk id => store.walking id fun _ => .rest []
  | _ => store

/-- Walking through a value gives all that it supplies. -/
theorem items_run {supply : Build.Supply} (supplied : Build.supply value = .ok supply)
    (store : Store) :
    (itemsOf value).run.run store = (.ok (store.supplied supply), store.exhausted supply) := by
  unfold itemsOf
  refine (Build.bind_run (Build.get_yields store) _).trans ?_
  refine (Build.bind_run (Build.lift_yields supplied store) _).trans ?_
  cases supply <;> rfl

/-- Walking through a value gives what avoids the reserved iterators, if the value does. -/
theorem items_skips (avoids : value.Avoids reserved) :
    (Store.skipping reserved).Covers (itemsOf value)
      fun items => ∀ item ∈ items, item.Avoids reserved := by
  cases supplied : Build.supply value with
  | error fault =>
    unfold itemsOf
    refine Frame.covers_bind Frame.covers_get fun store reserves => ?_
    rw [supplied]
    exact Frame.covers_ended fault _
  | ok supply =>
    have given := supply_avoids avoids supplied
    refine Frame.covers_of_run fun store reserves => ⟨_, _, items_run supplied store, ?_⟩
    have same := (Store.skipping reserved).refl store reserves
    cases supply with
    | items items => exact ⟨same, given⟩
    | cell id => exact ⟨same, reserves.cells id⟩
    | block id => exact ⟨same, block_avoids store id 0⟩
    | walk id =>
      refine ⟨walking_skips reserves given _ fun walk there => ?_, reserves.walks id⟩
      exact List.nil_suffix

/-- The pairs of a dictionary are taken apart one by one. -/
theorem pairs_skip {pairs : List Value} (avoid : ∀ pair ∈ pairs, pair.Avoids reserved)
    {entries : List (Value × Value)}
    (had : ∀ entry ∈ entries, entry.1.Avoids reserved ∧ entry.2.Avoids reserved) (index : Nat) :
    (Store.skipping reserved).Covers (addPairs entries index pairs)
      fun entries => ∀ entry ∈ entries, entry.1.Avoids reserved ∧ entry.2.Avoids reserved := by
  induction pairs generalizing entries index with
  | nil => exact Frame.covers_pure had
  | cons pair rest inductionHypothesis =>
    rw [addPairs]
    have parts := items_skips (avoid pair List.mem_cons_self)
    refine Frame.covers_bind (Frame.covers_catch parts fun fault => ?_) fun items given => ?_
    · split <;> exact Frame.covers_throw _
    split
    · rename_i key bound
      have onward : (Store.skipping reserved).Covers
          (addPairs (Value.insertEntry key bound entries) (index + 1) rest)
          fun entries => ∀ entry ∈ entries, entry.1.Avoids reserved ∧ entry.2.Avoids reserved := by
        refine inductionHypothesis (fun other member => avoid other (.tail _ member)) ?_ (index + 1)
        intro entry member
        obtain ⟨left, right⟩ := mem_insert_entry member
        constructor
        · rcases left with is | ⟨old, inside, is⟩
          · rw [is]
            exact given key (by simp)
          · rw [is]
            exact (had old inside).1
        · rcases right with is | ⟨old, inside, is⟩
          · rw [is]
            exact given bound (by simp)
          · rw [is]
            exact (had old inside).2
      split
      · exact Frame.covers_ended _ _
      · exact onward
    · exact Frame.covers_throw _

/-- A value is read as a dictionary. -/
theorem entries_skip (avoids : value.Avoids reserved) :
    (Store.skipping reserved).Covers (entriesOf value)
      fun entries => ∀ entry ∈ entries, entry.1.Avoids reserved ∧ entry.2.Avoids reserved := by
  unfold entriesOf
  split
  · rename_i entries plain
    have same := plain_mentions value
    rw [plain] at same
    refine Frame.covers_pure (avoids_entries (avoids_of_subset avoids ?_))
    rw [same]
    exact List.Subset.refl _
  · refine Frame.covers_bind (items_skips avoids) fun items given => ?_
    exact pairs_skip given (by simp) 0

/-- A value is read as a byte string. -/
theorem bytes_skip (avoids : value.Avoids reserved) :
    (Store.skipping reserved).Covers (bytesOf value) fun _ => True := by
  unfold bytesOf
  split
  · exact Frame.covers_pure trivial
  · exact Frame.covers_throw _
  · exact Frame.covers_lift fun _ _ => trivial
  · exact Frame.covers_lift fun _ _ => trivial
  · refine Frame.covers_then (Frame.covers_catch ?_ fun fault => ?_) fun items => ?_
    · exact Frame.covers_forget (items_skips avoids)
    · split <;> exact Frame.covers_throw _
    · have each : ∀ item ∈ items, (Store.skipping reserved).Covers
          (liftM (byteOf item) : Build UInt8) fun _ => True :=
        fun item _ => Frame.covers_lift fun _ _ => trivial
      exact Frame.covers_forget (Frame.covers_each each)

/-- A new iterator is not reserved. -/
theorem started_skips (walked : Walked) (walk : Walk)
    (given : ∀ store : Store, store.Reserves reserved →
      ∀ item ∈ store.remaining walk, item.Avoids reserved) :
    (Store.skipping reserved).Covers (do
      let id := (← get).walks.size
      modify fun store => { store with walks := store.walks.push walk }
      return .object (.iterator walked id) : Build Value) fun value => value.Avoids reserved := by
  refine Frame.covers_of_run fun store reserves =>
    ⟨_, { store with walks := store.walks.push walk }, rfl, ?_, ?_⟩
  · have intact := Store.pushed_intact store walk
    refine ⟨rfl, intact.size, ?_, fun id own => intact.old id (reserves.inside id own), ?_, ?_,
      reserves.cells⟩
    · intro id inside
      simp only [Store.intact_left intact inside, List.suffix_rfl]
    · exact fun id own => Nat.lt_of_lt_of_le (reserves.inside id own) intact.size
    · intro id item member
      rcases Nat.lt_or_ge id store.walks.size with inside | beyond
      · rw [Store.intact_left intact inside] at member
        exact reserves.walks id item member
      · by_cases new : id = store.walks.size
        · subst new
          rw [Store.pushed_left] at member
          exact given store reserves item member
        · rw [Store.left, Array.getElem?_eq_none (by simp; omega)] at member
          cases member
  · intro kind id mentioned own
    have inside := reserves.inside id own
    cases List.mem_singleton.mp mentioned
    omega

/-- An iterator over a value is not reserved unless the value is. -/
theorem iterate_skips (avoids : value.Avoids reserved) :
    (Store.skipping reserved).Covers (Build.iterate value) fun value => value.Avoids reserved := by
  unfold Build.iterate
  refine Frame.covers_bind (Frame.covers_lift fun supply => supply_avoids avoids) ?_
  intro supply given
  cases supply with
  | items items => exact started_skips _ _ fun store reserves => given
  | walk id => exact Frame.covers_pure avoids
  | block id => exact started_skips _ _ fun store reserves => block_avoids store id 0
  | cell id => exact started_skips _ _ fun store reserves => reserves.cells id

end Stencil.Code
