import Stencil.Proofs.Code.Operations
import Stencil.Proofs.Code.Reserving

/-!
# Extending turn by turn

A body is extended in turns: an iterator over what is given is asked for its next
item, which is pushed, until it has none (`Build.turn`, `Build.loop`). An iterator
over a body looks at what is there when it is asked. So the turns come to an end
where the items come from elsewhere, and the body has taken what was there at the
beginning (`turns_end`). Where they come from the body itself every turn leaves one
more item to come, and there is no last turn (`turns_go_on`).

That is what `Build.extend` says without turns: it takes all where the loop ends,
and it is refused as endless exactly where the loop goes on (`extension_ends_iff`).
A body's own list of statements is walked through as the body is; it has no
reference of its own.
-/

namespace Stencil.Code

namespace Build

/-- One turn: the next item is pushed. It says whether there was one. This is the loop as it is run,
one item at a time, with the iterator asked again after every push. -/
def turn (block id : Nat) : Build Bool := do
  match ← next? id with
  | some item =>
    push block item
    return true
  | none => return false

/-- So many turns, or fewer if the iterator comes to its end. It says whether they go on. -/
def turns (block id : Nat) : Nat → Build Bool
  | 0 => return true
  | count + 1 => do
    if ← turn block id then turns block id count else return false

/-- So many turns with an iterator over a value. -/
def loop (block : Nat) (values : Value) (count : Nat) : Build Bool := do
  match ← supply (← iterate values) with
  | .walk id => turns block id count
  | _ => return false

end Build

namespace Store

/-- There is one more iterator. -/
def started (store : Store) (walk : Walk) : Store := { store with walks := store.walks.push walk }

/-- The iterator that a loop asks, which is a new one unless an iterator is given, and the store
with it. -/
def begun (store : Store) : Build.Supply → Store × Nat
  | .walk id => (store, id)
  | .items items => (store.started (.rest items), store.walks.size)
  | .block id => (store.started (.block id 0), store.walks.size)
  | .cell id => (store.started (.cell id 0), store.walks.size)

/-- An iterator walks through no body of that number. -/
def Apart (store : Store) (block id : Nat) : Prop :=
  ∀ index, store.walks[id]? ≠ some (.block block index)

/-- A value gives statements one after another. -/
def Gives (store : Store) (values : Value) (refs : List StatementRef) : Prop :=
  (∃ supply, Build.supply values = .ok supply) ∧
    store.intake (.all values) = refs.map StatementRef.value

/-- The store behind a turn that takes a statement. -/
def turned (store : Store) (block id : Nat) (ref : StatementRef) : Store :=
  (store.walking id (store.onward id)).appended block [ref]

end Store

variable {store : Store} {block id : Nat} {values : Value} {ref : StatementRef}
  {refs body : List StatementRef} {supply : Build.Supply}

/-! ## One turn -/

/-- An iterator that has nothing left ends the loop, and is at its end from then on. -/
theorem turn_ends (spent : store.left id = []) :
    (Build.turn block id).Yields store false (store.walking id fun _ => .rest []) := by
  have asked : (Build.next? id).Yields store none (store.walking id fun _ => .rest []) := by
    have run := next_run id store
    have onward : store.onward id = fun _ => .rest [] := by
      funext walk
      rw [Store.onward, if_pos spent]
    rwa [spent, onward] at run
  exact Build.bind_yields asked (Build.pure_yields _ _)

/-- The next item is taken if it is a statement. -/
theorem turn_takes {rest : List Value} (given : store.left id = ref.value :: rest) :
    (Build.turn block id).Yields store true (store.turned block id ref) := by
  have asked : (Build.next? id).Yields store (some ref.value)
      (store.walking id (store.onward id)) := by
    have run := next_run id store
    rwa [given] at run
  have pushed := Build.push_yields block ref (store.walking id (store.onward id))
  exact Build.bind_yields asked (Build.bind_yields pushed (Build.pure_yields _ _))

/-- An iterator that walks through no body of that number gives the same when the body has grown. -/
theorem left_appended (apart : store.Apart block id) (refs : List StatementRef) :
    (store.appended block refs).left id = store.left id := by
  have same : (store.appended block refs).walks[id]? = store.walks[id]? := rfl
  rw [Store.left, Store.left, same]
  cases there : store.walks[id]? with
  | none => rfl
  | some walk =>
    cases walk with
    | rest items => rfl
    | cell source index => rfl
    | block source index =>
      have other : block ≠ source := fun own => apart index (own ▸ there)
      simp [Store.remaining, Store.block, Store.appended, Array.getElem?_modify, other]

/-- An iterator that is asked walks through the same body, or is at its end. -/
theorem apart_walking (apart : store.Apart block id) :
    (store.walking id (store.onward id)).Apart block id := by
  intro index come
  rw [Store.walking, Array.getElem?_modify, if_pos rfl] at come
  obtain ⟨walk, there, is⟩ := Option.map_eq_some_iff.mp come
  rw [Store.onward] at is
  split at is
  · cases is
  · cases walk with
    | rest items => cases is
    | cell source index => cases is
    | block source index =>
      cases is
      exact apart _ there

/-- A turn of an iterator that walks through no body of that number leaves what was behind the item
that was taken. -/
theorem left_turned (apart : store.Apart block id) (ref : StatementRef) :
    (store.turned block id ref).left id = (store.left id).tail := by
  rw [Store.turned, left_appended (apart_walking apart), left_walking, if_pos rfl]

/-! ## Turns that end -/

/-- The loop takes the statements that an iterator gives, one in each turn, and ends with the turn
behind the last, unless the iterator walks through the body itself and has something left. The
induction is on the statements. -/
theorem turns_end (apart : refs = [] ∨ store.Apart block id)
    (given : store.left id = refs.map StatementRef.value) :
    (Build.turns block id (refs.length + 1)).Yields store false
      ((store.appended block refs).walking id fun _ => .rest []) := by
  induction refs generalizing store with
  | nil =>
    rw [Store.appended_nil]
    exact Build.bind_yields (turn_ends given) (Build.pure_yields _ _)
  | cons ref rest inductionHypothesis =>
    have elsewhere := apart.resolve_left (List.cons_ne_nil _ _)
    have still : (store.turned block id ref).Apart block id := apart_walking elsewhere
    have later := inductionHypothesis (.inr still) (by rw [left_turned elsewhere, given]; rfl)
    have same : ((store.turned block id ref).appended block rest).walking id (fun _ => .rest []) =
        (store.appended block (ref :: rest)).walking id fun _ => .rest [] := by
      rw [Store.turned, Store.appended_appended, Store.walking_appended, Store.walking_walking]
      rfl
    rw [same] at later
    exact Build.bind_yields (turn_takes given) later

/-! ## Turns that go on -/

/-- An iterator over a body that has something left goes on for any number of turns, and the body
has grown by a statement in each. The induction is on the number; what is left stays as long as it
was, since every turn puts behind the body what it takes in front of the iterator. -/
theorem turns_go_on {index : Nat} (own : store.walks[id]? = some (.block block index))
    (held : store.blocks[block]? = some body) (inside : index < body.length) (count : Nat) :
    ∃ after more, (Build.turns block id count).Yields store true after ∧
      after.blocks[block]? = some (body ++ more) ∧ more.length = count := by
  induction count generalizing store index body with
  | zero => exact ⟨store, [], Build.pure_yields _ _, by rw [held, List.append_nil], rfl⟩
  | succ count inductionHypothesis =>
    have given : store.left id = body[index].value ::
        (body.drop (index + 1)).map StatementRef.value := by
      rw [Store.left, own, Option.getD_some, Store.remaining, Store.block, held, Option.getD_some,
        List.drop_eq_getElem_cons inside]
      rfl
    have further : (store.turned block id body[index]).walks[id]? =
        some (.block block (index + 1)) := by
      have some : store.left id ≠ [] := by simp [given]
      simp [Store.turned, Store.appended, Store.walking, Array.getElem?_modify, own, Store.onward,
        some, Walk.advance]
    have grown : (store.turned block id body[index]).blocks[block]? =
        some (body ++ [body[index]]) := by
      simp [Store.turned, Store.appended, Store.walking, Array.getElem?_modify, held]
    obtain ⟨after, more, later, longer, counted⟩ :=
      inductionHypothesis further grown (by simpa using inside)
    refine ⟨after, body[index] :: more, Build.bind_yields (turn_takes given) later, ?_, ?_⟩
    · rw [longer, List.append_assoc]
      rfl
    · rw [List.length_cons, counted]

/-! ## The loop -/

/-- A loop is the turns of its iterator. -/
theorem loop_run (supplied : Build.supply values = .ok supply) (count : Nat) :
    (Build.loop block values count).run.run store =
      (Build.turns block (store.begun supply).2 count).run.run (store.begun supply).1 := by
  rw [Build.loop, Build.iterate, supplied]
  cases supply with
  | walk id =>
    have again : (liftM (Build.supply values) : Build Build.Supply).Yields store (.walk id) store :=
      Build.lift_yields supplied store
    exact Build.bind_run again _
  | items items => rfl
  | block id => rfl
  | cell id => rfl

/-- The iterator of a loop gives what the body is fed with. -/
theorem begun_left (supplied : Build.supply values = .ok supply) :
    (store.begun supply).1.left (store.begun supply).2 = store.intake (.all values) := by
  simp only [Store.intake, supplied]
  cases supply with
  | walk id => rfl
  | items items => exact Store.pushed_left store (.rest items)
  | block id => exact Store.pushed_left store (.block id 0)
  | cell id => exact Store.pushed_left store (.cell id 0)

/-- The iterator of a loop walks through the body itself if the body is fed with what it has. -/
theorem begun_apart (supplied : Build.supply values = .ok supply) :
    (store.begun supply).1.Apart block (store.begun supply).2 ↔
      store.Clear block (.all values) := by
  cases supply <;> simp [Store.begun, Store.started, Store.Apart, Store.Clear, supplied]

/-- The store that a loop leaves, of which its own iterator may be forgotten. -/
def Store.Ended (after ended : Store) : Prop := ended = after ∨ ended = after.started (.rest [])

/-- A loop that ends leaves what the body is fed with in it, and its iterator at the end. -/
theorem loop_ended (supplied : Build.supply values = .ok supply)
    (given : store.intake (.all values) = refs.map StatementRef.value) :
    (store.fed block (.all values)).Ended
      (((store.begun supply).1.appended block refs).walking (store.begun supply).2
        fun _ => .rest []) := by
  have eaten : Walk.walked (refs.map StatementRef.value) = fun _ => .rest [] :=
    funext (walked_all refs)
  have new (walk : Walk) :
      ((store.started walk).appended block refs).walking store.walks.size (fun _ => .rest []) =
        (store.appended block refs).started (.rest []) := by
    have last := push_modify store.walks walk fun _ => .rest []
    rw [Store.walking, Store.started]
    exact congrArg (fun walks => { store.appended block refs with walks := walks }) last
  simp only [Store.fed, Feed.walk?, given, taken_all, supplied]
  cases supply with
  | walk id => exact .inl (by rw [eaten]; rfl)
  | items items => exact .inr (new _)
  | block id => exact .inr (new _)
  | cell id => exact .inr (new _)

/-- A body that is given nothing takes nothing, also from itself. -/
theorem extend_nothing (supplied : Build.supply values = .ok supply)
    (given : store.intake (.all values) = []) :
    (Build.extend block values).Yields store () (store.fed block (.all values)) := by
  rw [Build.Yields, extend_run supplied]
  cases supply with
  | items items =>
    simp only [Store.intake, supplied] at given
    simp only [Build.takeFrom, Store.fed, Feed.walk?, Store.intake, supplied, given]
    exact push_all_run block [] store
  | cell id =>
    simp only [Store.intake, supplied] at given
    simp only [Build.takeFrom, Store.fed, Feed.walk?, Store.intake, supplied, given]
    exact push_all_run block [] store
  | block id =>
    simp only [Store.intake, supplied] at given
    simp only [Build.takeFrom, Store.fed, Feed.walk?, Store.intake, supplied, given]
    rw [if_neg fun own => own.2 rfl]
    exact push_all_run block [] store
  | walk id =>
    simp only [Store.intake, supplied] at given
    simp only [Build.takeFrom, Store.fed, Feed.walk?, Store.intake, supplied, given]
    cases store.walks[id]?.getD (.rest []) <;> exact push_walked_run block id [] store

/-- A body takes statements that are given, unless they are its own and there are some. -/
theorem extend_given (gives : store.Gives values refs)
    (apart : refs = [] ∨ store.Clear block (.all values)) :
    (Build.extend block values).Yields store () (store.fed block (.all values)) := by
  obtain ⟨⟨supply, supplied⟩, given⟩ := gives
  rcases apart with rfl | clear
  · exact extend_nothing supplied given
  · have outcome : store.feeding (.all values) = .ok () := by
      simp only [Store.feeding, supplied, given, accepted_all]
    rw [Build.Yields, ← outcome]
    exact feed_run clear

/-- A body that is given statements of its own refuses them. -/
theorem extend_own (supplied : Build.supply values = .ok supply)
    (given : store.intake (.all values) ≠ []) (own : ¬store.Clear block (.all values)) :
    (Build.extend block values).Fails store .endless store := by
  rw [Build.Fails, extend_run supplied]
  cases supply with
  | items items =>
    simp only [Store.Clear, supplied, not_true_eq_false] at own
  | cell id =>
    simp only [Store.Clear, supplied, not_true_eq_false] at own
  | block id =>
    simp only [Store.Clear, supplied, ne_eq, Decidable.not_not] at own
    simp only [Store.intake, supplied] at given
    rw [Build.takeFrom, if_pos ⟨own, given⟩]
    rfl
  | walk id =>
    simp only [Store.Clear, supplied, ne_eq, Classical.not_forall, Classical.not_not] at own
    simp only [Store.intake, supplied] at given
    obtain ⟨index, come⟩ := own
    rw [come, Option.getD_some] at given
    obtain ⟨first, rest, items⟩ := List.exists_cons_of_ne_nil given
    rw [Build.takeFrom, come, Option.getD_some, items]
    dsimp only
    rw [if_pos rfl]
    rfl

/-! ## Which loops end -/

/-- A loop over statements ends behind the last of them if they are not the body's own, or if there
are none. -/
theorem loop_ends (supplied : Build.supply values = .ok supply)
    (given : store.intake (.all values) = refs.map StatementRef.value)
    (apart : refs = [] ∨ store.Clear block (.all values)) :
    ∃ ended, (Build.loop block values (refs.length + 1)).Yields store false ended ∧
      (store.fed block (.all values)).Ended ended := by
  have elsewhere := apart.imp_right (begun_apart supplied).mpr
  have run := turns_end elsewhere ((begun_left supplied).trans given)
  exact ⟨_, (loop_run supplied _).trans run, loop_ended supplied given⟩

/-- A loop over statements of the body itself goes on for any number of turns. -/
theorem loop_goes_on (supplied : Build.supply values = .ok supply)
    (given : store.intake (.all values) ≠ []) (own : ¬store.Clear block (.all values))
    (held : store.blocks[block]? = some body) (count : Nat) :
    ∃ after more, (Build.loop block values count).Yields store true after ∧
      after.blocks[block]? = some (body ++ more) ∧ more.length = count := by
  have same : (store.begun supply).1.blocks = store.blocks := by cases supply <;> rfl
  rw [← begun_apart supplied] at own
  obtain ⟨index, come⟩ := Classical.not_forall.mp own
  replace come := Classical.not_not.mp come
  have inside : index < body.length := by
    rw [← begun_left supplied, Store.left, come, Option.getD_some, Store.remaining, Store.block,
      same, held, Option.getD_some] at given
    exact Nat.lt_of_not_le fun past => given (by rw [List.drop_eq_nil_of_le past]; rfl)
  obtain ⟨after, more, run, grown⟩ := turns_go_on come (same ▸ held) inside count
  exact ⟨after, more, (loop_run supplied count).trans run, grown⟩

/-- A loop over statements of the body itself has no last turn, since it has not ended after any
number of turns. -/
theorem loop_not_ended (supplied : Build.supply values = .ok supply)
    (given : store.intake (.all values) ≠ []) (own : ¬store.Clear block (.all values))
    (held : store.blocks[block]? = some body) :
    ¬∃ count ended, (Build.loop block values count).Yields store false ended := by
  rintro ⟨count, ended, last⟩
  obtain ⟨after, _, further, _⟩ := loop_goes_on supplied given own held count
  cases last.symm.trans further

/-- What comes of extending an object that has a body by something that gives statements. On the one
side the loop has a last turn, and then what the body holds and what else is there are said in full;
on the other it has so many turns as one likes. -/
structure Ref.Extended (store : Store) (target : Ref) (block : Nat) (body : List StatementRef)
    (values : Value) (refs : List StatementRef) : Prop where
  found : (Build.bodyOf? target).Yields store (some block) store
  held : store.blocks[block]? = some body
  /-- The loop has a last turn unless the statements are the body's own. -/
  ends : (∃ count ended, (Build.loop block values count).Yields store false ended) ↔
    refs = [] ∨ store.Clear block (.all values)
  /-- If it has, the object is given back, and its body has what was given at the beginning behind
  what it had; the loop leaves the same. -/
  taken : refs = [] ∨ store.Clear block (.all values) →
    ∃ after ended, (Build.extendOnto (.object target) values).Yields store (.object target) after ∧
      after.blocks[block]? = some (body ++ refs) ∧ store.Took after block (.all values) refs [] ∧
      (Build.loop block values (refs.length + 1)).Yields store false ended ∧ after.Ended ended
  /-- If it has none, every turn adds a statement to the body. -/
  endless : refs ≠ [] → ¬store.Clear block (.all values) →
    (Build.extendOnto (.object target) values).Fails store .endless store ∧
    ∀ count, ∃ after more, (Build.loop block values count).Yields store true after ∧
      after.blocks[block]? = some (body ++ more) ∧ more.length = count

/-- After any run, every object that takes statements is extended by what gives statements, unless
these are those of its own body and there are some: then extending it never ends.

Proof: a turn pushes the next item. If the items are not the body's own, each turn leaves one item
less, and the loop ends (`loop_ends`). If they are, each turn also puts one behind those that are to
come, so there is always a next one, after any number of turns (`loop_goes_on`). -/
theorem extension_ends_iff (run : Leads .empty store) {target : Ref} (held : target.Held store)
    (takes : target.TakesStatements) (gives : store.Gives values refs) :
    ∃ block body, target.Extended store block body values refs := by
  obtain ⟨sound, _⟩ := run_secures run empty_sound
  have notCell : ∀ id, target ≠ .cell id := by
    rintro id rfl
    exact takes
  obtain ⟨block, body, found, open'⟩ := body_of_held sound held takes
  obtain ⟨⟨supply, supplied⟩, given⟩ := gives
  have some : refs ≠ [] → store.intake (.all values) ≠ [] := by
    intro some none
    rw [none] at given
    exact some (List.map_eq_nil_iff.mp given.symm)
  refine ⟨block, body, found, open', ⟨?_, ?_⟩, ?_, ?_⟩
  · intro ended
    by_cases apart : refs = [] ∨ store.Clear block (.all values)
    · exact apart
    · obtain ⟨nonempty, own⟩ := not_or.mp apart
      exact absurd ended (loop_not_ended supplied (some nonempty) own open')
  · intro apart
    obtain ⟨ended, last, _⟩ := loop_ends supplied given apart
    exact ⟨_, ended, last⟩
  · intro apart
    have taken := extend_given ⟨⟨supply, supplied⟩, given⟩ apart
    have took : store.Took (store.fed block (.all values)) block (.all values) refs [] :=
      fed_all given
    obtain ⟨ended, last, same⟩ := loop_ends supplied given apart
    refine ⟨_, ended, ?_, ?_, took, last, same⟩
    · rw [Build.Yields, extend_onto_eq notCell found]
      exact Build.bind_yields taken (Build.pure_yields _ _)
    · rw [took.body, open']
      rfl
  · intro nonempty own
    constructor
    · rw [Build.Fails, extend_onto_eq notCell found]
      exact Build.bind_fails _ (extend_own supplied (some nonempty) own)
    · exact loop_goes_on supplied (some nonempty) own open'

/-- A function with a line is extended by a list of that line, and by its own body. -/
theorem function_extended : ∃ store, Leads .empty store ∧ store.blocks[0]? = some [⟨.raw, 0⟩] ∧
    (∃ after, (Build.extendOnto (.object (.statement ⟨.function, 1⟩))
        (.list [.object (.statement ⟨.raw, 0⟩)])).Yields store
          (.object (.statement ⟨.function, 1⟩)) after ∧
      after.blocks[0]? = some [⟨.raw, 0⟩, ⟨.raw, 0⟩]) ∧
    (Build.extendOnto (.object (.statement ⟨.function, 1⟩)) (.object (.block 0))).Fails store
      .endless store := by
  have made : Leads .empty _ :=
    .act (.act .none (.raw "first()") (List.forall_mem_nil _)) (.function "f" [])
      (List.forall_mem_nil _)
  have run : Leads .empty _ :=
    .act made (.push (.object (.statement ⟨.function, 1⟩)) (.object (.statement ⟨.raw, 0⟩)))
      (List.forall_mem_cons.mpr ⟨object_held.mpr ⟨_, rfl, rfl⟩,
        List.forall_mem_singleton.mpr (object_held.mpr ⟨_, rfl, rfl⟩)⟩)
  refine ⟨_, run, rfl, ?_, ?_⟩
  · obtain ⟨block, body, found, held, _, taken, _⟩ :=
      @extension_ends_iff _ (.list [.object (.statement ⟨.raw, 0⟩)]) [⟨.raw, 0⟩] run
        (.statement ⟨.function, 1⟩) ⟨_, rfl, rfl⟩ rfl ⟨⟨_, rfl⟩, rfl⟩
    cases found
    cases held
    obtain ⟨after, _, extended, grown, _⟩ := taken (.inr trivial)
    exact ⟨after, extended, grown⟩
  · obtain ⟨block, body, found, _, _, _, endless⟩ :=
      @extension_ends_iff _ (.object (.block 0)) [⟨.raw, 0⟩] run (.statement ⟨.function, 1⟩)
        ⟨_, rfl, rfl⟩ rfl ⟨⟨_, rfl⟩, rfl⟩
    cases found
    exact (endless (List.cons_ne_nil _ _) fun clear => clear rfl).1

/-- The loop that extends a body of one line by itself has no last turn. -/
theorem own_body_endless : ∃ store, Leads .empty store ∧
    (Ref.block 0).Held store ∧ store.blocks[0]? = some [⟨.raw, 0⟩] ∧
    store.Gives (.object (.block 0)) [⟨.raw, 0⟩] ∧
    ¬∃ count ended, (Build.loop 0 (.object (.block 0)) count).Yields store false ended := by
  have made : Leads .empty _ :=
    .act (.act .none (.raw "first()") (List.forall_mem_nil _)) (.block (Value.read (.list [])))
      (List.forall_mem_singleton.mpr (held_of_none rfl))
  have run : Leads .empty _ :=
    .act made (.push (.object (.block 0)) (.object (.statement ⟨.raw, 0⟩)))
      (List.forall_mem_cons.mpr ⟨object_held.mpr Nat.zero_lt_one,
        List.forall_mem_singleton.mpr (object_held.mpr ⟨_, rfl, rfl⟩)⟩)
  refine ⟨_, run, Nat.zero_lt_one, rfl, ⟨⟨_, rfl⟩, rfl⟩, ?_⟩
  exact loop_not_ended rfl (List.cons_ne_nil _ _) (fun clear => clear rfl) rfl

end Stencil.Code
