import Stencil.Proofs.Code.Feeding

/-!
# Feeding a body with what it refuses

A body that is fed with statements takes them all (`feed_taken`). If there is a value
among them that is no statement, it takes the statements in front of the first such
value and refuses that one (`feed_refused`). Nothing else changes, except that an
iterator which is walked through is at its end then, or behind the refused value
(`Store.Took`).

A feed that gives a value that is no statement does not come from the body itself,
which has statements only (`clear_of_refused`).

The values may also be made one by one while they are asked for, as long as making
them leaves what is there (`Made`). Then a body takes those in front of the first
that is no statement as well, and what was there is as it was (`made_refused`).
-/

namespace Stencil.Code

/-- A body has taken statements from a feed and nothing else has changed, except that the iterator
that the feed walks through has other values left. -/
structure Store.Took (before after : Store) (block : Nat) (feed : Feed)
    (front : List StatementRef) (left : List Value) : Prop where
  body : after.blocks[block]? = before.blocks[block]?.map (· ++ front)
  bodies : ∀ id, id ≠ block → after.blocks[id]? = before.blocks[id]?
  iterators : ∀ id, feed.walk? ≠ some id → after.walks[id]? = before.walks[id]?
  walked : ∀ id, feed.walk? = some id → after.remaining (after.walks[id]?.getD (.rest [])) = left
  others : after = { before with blocks := after.blocks, walks := after.walks }

variable {store : Store} {block : Nat} {feed : Feed} {front : List StatementRef} {bad : Value}
  {rest : List Value} {walk : Walk}

/-- What an iterator over a body gives is a statement. -/
theorem given_statement {id index : Nat} {value : Value}
    (given : value ∈ store.remaining (.block id index)) : value.statement? ≠ none := by
  obtain ⟨ref, _, rfl⟩ := List.mem_map.mp given
  exact Option.some_ne_none ref

/-- An iterator gives behind its next item what it gave behind it before. -/
theorem remaining_advance (store : Store) (walk : Walk) :
    store.remaining walk.advance = (store.remaining walk).tail := by
  cases walk with
  | rest items => rfl
  | block id index => simp [Store.remaining, Walk.advance]
  | cell id index => simp [Store.remaining, Walk.advance]

/-- What a feed gives is what the iterator that it walks through gives. -/
theorem intake_walk {id : Nat} (walks : feed.walk? = some id) :
    store.intake feed = store.remaining (store.walks[id]?.getD (.rest [])) := by
  cases feed with
  | one value => cases walks
  | all values =>
    rw [Feed.walk?] at walks
    split at walks
    · rename_i supplied
      cases walks
      simp only [Store.intake, supplied]
    · cases walks

/-- What feeding a body changes. -/
theorem fed_took {left : List Value} (eaten : taken (store.intake feed) = front)
    (walked : ∀ id, feed.walk? = some id →
      (store.fed block feed).remaining ((store.fed block feed).walks[id]?.getD (.rest [])) = left) :
    store.Took (store.fed block feed) block feed front left := by
  constructor
  · rw [fed_blocks, if_pos rfl, eaten]
  · intro id other
    rw [fed_blocks, if_neg (Ne.symm other)]
  · intro id other
    rw [fed_walks, if_neg other]
  · exact walked
  · exact fed_others store block feed

/-- All statements and bodies but the one that took something are as they were. -/
theorem took_keeps {before after : Store} {left : List Value}
    (took : before.Took after block feed front left) : before.Keeps block after where
  statements id statement stored := by
    rw [took.others]
    exact stored
  blocks id body other held := (took.bodies id other).trans held
  grows := by
    refine Nat.le_of_not_lt fun fewer => ?_
    have held := Array.getElem?_eq_getElem fewer
    have gone : after.blocks[after.blocks.size]? = none := Array.getElem?_eq_none (Nat.le_refl _)
    by_cases here : after.blocks.size = block
    · rw [here, took.body, ← here, held] at gone
      cases gone
    · rw [took.bodies _ here, held] at gone
      cases gone

/-! ## Statements only -/

/-- Statements are taken. -/
theorem taken_all (refs : List StatementRef) : taken (refs.map StatementRef.value) = refs := by
  induction refs with
  | nil => rfl
  | cons ref rest inductionHypothesis =>
    rw [List.map_cons, taken, inductionHypothesis]
    rfl

/-- Among statements none is refused. -/
theorem accepted_all (refs : List StatementRef) :
    accepted (refs.map StatementRef.value) = .ok () := by
  induction refs with
  | nil => rfl
  | cons ref rest inductionHypothesis =>
    rw [List.map_cons, accepted, inductionHypothesis]
    rfl

/-- An iterator is at its end. -/
theorem walked_all (refs : List StatementRef) (walk : Walk) :
    walk.walked (refs.map StatementRef.value) = .rest [] := by
  induction refs generalizing walk with
  | nil => rfl
  | cons ref rest inductionHypothesis =>
    rw [List.map_cons, Walk.walked, ← inductionHypothesis walk.advance]
    rfl

/-- What feeding a body with statements changes. -/
theorem fed_all {values : Value} {refs : List StatementRef}
    (gives : store.intake (.all values) = refs.map StatementRef.value) :
    store.Took (store.fed block (.all values)) block (.all values) refs [] := by
  refine fed_took (gives ▸ taken_all refs) fun id walks => ?_
  rw [fed_walks, if_pos walks, gives]
  cases store.walks[id]? with
  | none => rfl
  | some walk =>
    rw [Option.map_some, walked_all]
    rfl

/-- A body takes the statements that a value gives, if they are not its own. -/
theorem feed_taken {values : Value} {supply : Build.Supply} {refs : List StatementRef}
    (supplied : Build.supply values = .ok supply) (clear : store.Clear block (.all values))
    (gives : store.intake (.all values) = refs.map StatementRef.value) :
    ∃ after, (Build.extend block values).Yields store () after ∧
      store.Took after block (.all values) refs [] := by
  have run := feed_run clear
  have outcome : store.feeding (.all values) = .ok () := by
    simp only [Store.feeding, supplied, gives, accepted_all]
  rw [outcome] at run
  exact ⟨store.fed block (.all values), run, fed_all gives⟩

/-- Values that are all accepted are statements. -/
theorem accepted_ok {values : List Value} (all : accepted values = .ok ()) :
    ∃ refs : List StatementRef, values = refs.map StatementRef.value := by
  induction values with
  | nil => exact ⟨[], rfl⟩
  | cons value rest inductionHypothesis =>
    rw [accepted] at all
    split at all
    · rename_i ref statement
      obtain ⟨refs, rfl⟩ := inductionHypothesis all
      exact ⟨ref :: refs, by rw [List.map_cons, statement_eq statement]⟩
    · cases all

/-- A body that has been extended has taken what the value gives, and that was statements. -/
theorem extend_took {values : Value} {after : Store}
    (done : (Build.extend block values).Yields store () after) :
    ∃ supply refs, Build.supply values = .ok supply ∧
      store.intake (.all values) = refs.map StatementRef.value ∧
      store.Took after block (.all values) refs [] := by
  rw [Build.Yields] at done
  rcases feed_outcome store block (.all values) with fed | ⟨_, endless⟩
  · obtain ⟨accept, rfl⟩ := Prod.mk.inj (fed.symm.trans done)
    cases supplied : Build.supply values with
    | error fault => simp [Store.feeding, supplied] at accept
    | ok supply =>
      simp only [Store.feeding, supplied] at accept
      obtain ⟨refs, gives⟩ := accepted_ok accept
      exact ⟨supply, refs, rfl, gives, fed_all gives⟩
  · cases endless.symm.trans done

/-- A statement has been put at the end of a body. -/
theorem push_took {value : Value} {after : Store}
    (done : (Build.push block value).Yields store () after) :
    ∃ ref : StatementRef, value = ref.value ∧ after = store.appended block [ref] := by
  cases statement : value.statement? with
  | none => exact absurd done (Build.not_yields_of_fails (push_refused statement block store) _ _)
  | some ref =>
    obtain rfl := statement_eq statement
    cases (Build.push_yields block ref store).symm.trans done
    exact ⟨ref, rfl, rfl⟩

/-! ## A value that is none -/

/-- A value among those that a feed gives. -/
theorem value_given (gives : store.intake feed = front.map StatementRef.value ++ bad :: rest) :
    bad ∈ store.intake feed := by
  rw [gives]
  exact List.mem_append_right _ List.mem_cons_self

section Refused

variable (refused : bad.statement? = none)

include refused

/-- The statements in front of a refused value are taken. -/
theorem taken_front (front : List StatementRef) (rest : List Value) :
    taken (front.map StatementRef.value ++ bad :: rest) = front := by
  induction front with
  | nil =>
    rw [List.map_nil, List.nil_append, taken, refused]
  | cons ref front inductionHypothesis =>
    rw [List.map_cons, List.cons_append, taken, inductionHypothesis]
    rfl

/-- The first value that is no statement is refused. -/
theorem accepted_front (front : List StatementRef) (rest : List Value) :
    accepted (front.map StatementRef.value ++ bad :: rest) = .error (.notStatement bad.kind) := by
  induction front with
  | nil =>
    rw [List.map_nil, List.nil_append, accepted, refused]
  | cons ref front inductionHypothesis =>
    rw [List.map_cons, List.cons_append, accepted, inductionHypothesis]
    rfl

/-- An iterator is behind the refused value. -/
theorem remaining_walked
    (gives : store.remaining walk = front.map StatementRef.value ++ bad :: rest) :
    store.remaining (walk.walked (front.map StatementRef.value ++ bad :: rest)) = rest := by
  induction front generalizing walk with
  | nil =>
    rw [List.map_nil, List.nil_append] at gives ⊢
    rw [Walk.walked, refused]
    exact (remaining_advance store walk).trans (congrArg List.tail gives)
  | cons ref front inductionHypothesis =>
    rw [List.map_cons, List.cons_append] at gives ⊢
    rw [Walk.walked]
    apply inductionHypothesis
    exact (remaining_advance store walk).trans (congrArg List.tail gives)

variable (gives : store.intake feed = front.map StatementRef.value ++ bad :: rest)

include gives

/-- What gives a value that is no statement is not the body itself. -/
theorem clear_of_refused (block : Nat) : store.Clear block feed := by
  have given := value_given gives
  cases feed with
  | one value => trivial
  | all values =>
    cases supplied : Build.supply values with
    | error fault => simp only [Store.Clear, supplied]
    | ok supply =>
      cases supply with
      | items items => simp only [Store.Clear, supplied]
      | cell id => simp only [Store.Clear, supplied]
      | block id =>
        simp only [Store.intake, supplied] at given
        exact absurd refused (given_statement given)
      | walk id =>
        have walks : (Feed.all values).walk? = some id := by simp only [Feed.walk?, supplied]
        simp only [Store.Clear, supplied]
        intro index come
        rw [intake_walk walks, come] at given
        exact absurd refused (given_statement given)

/-- An iterator that gave a refused value has left what comes behind it. -/
theorem fed_walked {id : Nat} (walks : feed.walk? = some id) :
    (store.fed block feed).remaining ((store.fed block feed).walks[id]?.getD (.rest [])) =
      rest := by
  have given := value_given gives
  rw [intake_walk walks] at given
  have come := (intake_walk walks).symm.trans gives
  rw [fed_walks, if_pos walks, gives]
  cases stored : store.walks[id]? with
  | none =>
    rw [stored] at given
    cases given
  | some walk =>
    rw [stored] at given come
    -- The iterator is over no body, and nothing but bodies and iterators has changed.
    have beyond : walk.Over 0 := by
      cases walk with
      | rest items => trivial
      | block source index => exact absurd refused (given_statement given)
      | cell source index => trivial
    have older : Store.Older 0 store (store.fed block feed) :=
      ⟨by rw [fed_others store block feed], fun id none => absurd none (Nat.not_lt_zero id)⟩
    exact (remaining_alike older (walked_over _ beyond)).trans (remaining_walked refused come)

/-- A body refuses the first value that is no statement, and has taken the statements in front of
it. The outcome is that of the values up to the first that is refused, and an iterator they come
from stands behind that one. -/
theorem feed_refused (block : Nat) :
    ∃ after, (feed.act block).Fails store (.notStatement bad.kind) after ∧
      store.Took after block feed front rest := by
  have run := feed_run (clear_of_refused refused gives block)
  have outcome : store.feeding feed = .error (.notStatement bad.kind) := by
    rw [← accepted_front refused front rest, ← gives]
    cases feed with
    | one value => rfl
    | all values =>
      cases supplied : Build.supply values with
      | ok supply => simp only [Store.feeding, supplied]
      | error fault => simp [Store.intake, supplied] at gives
  rw [outcome] at run
  refine ⟨store.fed block feed, run, fed_took (gives ▸ taken_front refused front rest) ?_⟩
  intro id walks
  exact fed_walked refused gives walks

end Refused

/-! ## Values that are made when they are asked for -/

/-- Put values at the end of a body, each of which is made when it is its turn. -/
def Build.pushMade (block : Nat) : List (Build Value) → Build Unit
  | [] => pure ()
  | make :: makes => do
    push block (← make)
    pushMade block makes

/-- Values that are there already are put at the end of a body one by one. -/
theorem push_made_pure (block : Nat) (items : List Value) :
    Build.pushMade block (items.map pure) = Build.pushAll block items := by
  induction items with
  | nil => rfl
  | cons item rest inductionHypothesis =>
    rw [List.map_cons, Build.pushMade, pure_bind, inductionHypothesis, Build.pushAll]

/-- All that is stored stays as it is, except that one body may grow; there may be more. What makes
values for a body may store objects of its own, and this is all that is asked of it. -/
structure Store.Spares (block : Nat) (before after : Store) : Prop
    extends Store.Keeps block before after where
  modules : ∀ (id : Nat) (item : Module), before.modules[id]? = some item →
    after.modules[id]? = some item
  packages : ∀ (id : Nat) (item : Package), before.packages[id]? = some item →
    after.packages[id]? = some item
  templates : ∀ (id : Nat) (item : Template.Template), before.templates[id]? = some item →
    after.templates[id]? = some item
  walks : ∀ (id : Nat) (walk : Walk), before.walks[id]? = some walk →
    after.walks[id]? = some walk
  cells : ∀ (id : Nat) (items : List Value), before.cells[id]? = some items →
    after.cells[id]? = some items

/-- Statements are made and put at the end of a body, up to a value that is none. Making a value
leaves what is there, the body included. -/
inductive Made (block : Nat) : Store → List (Build Value) → List StatementRef → Value → Store →
    Prop where
  | refused {before after : Store} {make : Build Value} {makes : List (Build Value)} {bad : Value}
    (made : make.Yields before bad after) (spared : before.Spares block after)
    (same : after.blocks[block]? = before.blocks[block]?) (none : bad.statement? = .none) :
    Made block before (make :: makes) [] bad after
  | taken {before middle after : Store} {make : Build Value} {makes : List (Build Value)}
    {ref : StatementRef} {front : List StatementRef} {bad : Value}
    (made : make.Yields before ref.value middle) (spared : before.Spares block middle)
    (same : middle.blocks[block]? = before.blocks[block]?)
    (behind : Made block (middle.appended block [ref]) makes front bad after) :
    Made block before (make :: makes) (ref :: front) bad after

/-- What is spared twice is spared. -/
theorem spares_trans {before middle after : Store} (first : before.Spares block middle)
    (second : middle.Spares block after) : before.Spares block after where
  statements id item stored := second.statements id item (first.statements id item stored)
  blocks id body other held := second.blocks id body other (first.blocks id body other held)
  grows := Nat.le_trans first.grows second.grows
  modules id item stored := second.modules id item (first.modules id item stored)
  packages id item stored := second.packages id item (first.packages id item stored)
  templates id item stored := second.templates id item (first.templates id item stored)
  walks id walk come := second.walks id walk (first.walks id walk come)
  cells id items held := second.cells id items (first.cells id items held)

/-- What stays as it is is spared. -/
theorem spares_refl (block : Nat) (store : Store) : store.Spares block store :=
  ⟨(Store.extends_refl block store).toKeeps, fun _ _ stored => stored, fun _ _ stored => stored,
    fun _ _ stored => stored, fun _ _ come => come, fun _ _ held => held⟩

/-- Making a statement spares what is there. -/
theorem new_statement_spares (block : Nat) (statement : Statement) (store : Store) :
    store.Spares block { store with statements := store.statements.push statement } where
  toKeeps := (Build.new_statement_extends block statement store).toKeeps
  modules _ _ stored := stored
  packages _ _ stored := stored
  templates _ _ stored := stored
  walks _ _ come := come
  cells _ _ held := held

/-- A body that takes statements spares the rest. -/
theorem appended_spares (block : Nat) (refs : List StatementRef) (store : Store) :
    store.Spares block (store.appended block refs) where
  toKeeps := (Build.appended_extends block refs store).toKeeps
  modules _ _ stored := stored
  packages _ _ stored := stored
  templates _ _ stored := stored
  walks _ _ come := come
  cells _ _ held := held

/-- A body refuses the first value that is made and is no statement, and has taken the statements
that were made before it. The induction is on what is made. -/
theorem made_refused {before after : Store} {makes : List (Build Value)}
    (made : Made block before makes front bad after) :
    (Build.pushMade block makes).Fails before (.notStatement bad.kind) after ∧
      after.blocks[block]? = before.blocks[block]?.map (· ++ front) ∧
      before.Spares block after := by
  induction made with
  | refused made spared same none =>
    refine ⟨?_, ?_, spared⟩
    · exact Build.bind_fails_behind made (Build.bind_fails _ (push_refused none block _))
    · rw [same]
      simp
  | @taken before middle after make makes ref front bad made spared same behind
      inductionHypothesis =>
    obtain ⟨failed, grown, others⟩ := inductionHypothesis
    refine ⟨?_, ?_, spares_trans (spares_trans spared (appended_spares block [ref] middle)) others⟩
    · have pushed := Build.push_yields block ref middle
      exact Build.bind_fails_behind made (Build.bind_fails_behind pushed failed)
    · rw [grown, Store.appended, Array.getElem?_modify, if_pos rfl, same]
      cases before.blocks[block]? <;> simp

end Stencil.Code
