import Stencil.Proofs.Code.Building

/-!
# What a body is fed with

A body takes one value by `push` and the items of a value by `extend`. Either
way it takes the statements in front of the first value that is none, and an
iterator that is walked through has come as far as the body has taken items of
it; that value is what the fault is about. So what feeding does is said in one
equation (`feed_run`), except that a body is not extended by itself.

What a feed gives depends on its own iterator and on the bodies it takes from, and
on nothing else in the store (`intake_alike`).
-/

namespace Stencil.Code

/-- What a body is fed with: a value, or the items of a value. -/
inductive Feed where
  | one (value : Value)
  | all (values : Value)

/-- The building step that feeds a body. -/
def Feed.act (block : Nat) : Feed → Build Unit
  | .one value => Build.push block value
  | .all values => Build.extend block values

/-- The iterator that is walked through. -/
def Feed.walk? : Feed → Option Nat
  | .one _ => none
  | .all values => match Build.supply values with
    | .ok (.walk id) => some id
    | _ => none

/-- The statements in front of the first value that is none. -/
def taken : List Value → List StatementRef
  | [] => []
  | value :: rest => match value.statement? with
    | some ref => ref :: taken rest
    | none => []

/-- What comes of putting values into a body: the first that is no statement is refused. -/
def accepted : List Value → Except Fault Unit
  | [] => .ok ()
  | value :: rest => match value.statement? with
    | some _ => accepted rest
    | none => .error (.notStatement value.kind)

/-- How far an iterator has come when a body has taken its items: to the end, or behind the first
item that is no statement. -/
def Walk.walked : List Value → Walk → Walk
  | [], _ => .rest []
  | value :: others, walk => match value.statement? with
    | some _ => walked others walk.advance
    | none => walk.advance

namespace Store

/-- An iterator comes as far as something takes it. -/
def walking (store : Store) (id : Nat) (change : Walk → Walk) : Store :=
  { store with walks := store.walks.modify id change }

/-- The values that a body is fed with. -/
def intake (store : Store) : Feed → List Value
  | .one value => [value]
  | .all values => match Build.supply values with
    | .ok (.items items) => items
    | .ok (.cell id) => store.cell id
    | .ok (.block id) => store.remaining (.block id 0)
    | .ok (.walk id) => store.remaining (store.walks[id]?.getD (.rest []))
    | .error _ => []

/-- What comes of feeding a body. -/
def feeding (store : Store) : Feed → Except Fault Unit
  | .one value => accepted [value]
  | .all values => match Build.supply values with
    | .ok _ => accepted (store.intake (.all values))
    | .error fault => .error fault

/-- What a body has taken is in it, and an iterator has come as far. -/
def fed (store : Store) (block : Nat) (feed : Feed) : Store :=
  let eaten := store.appended block (taken (store.intake feed))
  match feed.walk? with
  | some id => eaten.walking id (Walk.walked (store.intake feed))
  | none => eaten

/-- A feed does not take from the body that is fed. Items that are given one by one are clear of any
body; a body is not clear of itself, and neither is an iterator over it, whatever it has left. -/
def Clear (store : Store) (block : Nat) : Feed → Prop
  | .one _ => True
  | .all values => match Build.supply values with
    | .ok (.block id) => id ≠ block
    | .ok (.walk id) => ∀ index, store.walks[id]? ≠ some (.block block index)
    | _ => True

/-- Taking a statement into a body and walking on can change places. -/
theorem walking_appended (store : Store) (block id : Nat) (refs : List StatementRef)
    (change : Walk → Walk) :
    (store.walking id change).appended block refs = (store.appended block refs).walking id change :=
  rfl

/-- Walking on twice. -/
theorem walking_walking (store : Store) (id : Nat) (first second : Walk → Walk) :
    (store.walking id first).walking id second = store.walking id (second ∘ first) := by
  have same : (store.walks.modify id first).modify id second =
      store.walks.modify id (second ∘ first) := by
    apply Array.ext_getElem?
    intro index
    simp only [Array.getElem?_modify]
    split
    · cases store.walks[index]? <;> rfl
    · rfl
  rw [walking, walking, walking, same]

end Store

variable {store other : Store} {block ground : Nat} {feed : Feed}

/-- A value that is no statement is refused. -/
theorem push_refused {value : Value} (refused : value.statement? = none) (block : Nat)
    (store : Store) : (Build.push block value).Fails store (.notStatement value.kind) store := by
  unfold Build.push
  split
  · cases refused
  · rfl

/-- Values are pushed up to the first that is no statement, which is refused. -/
theorem push_all_run (block : Nat) (values : List Value) (store : Store) :
    (Build.pushAll block values).run.run store =
      (accepted values, store.appended block (taken values)) := by
  induction values generalizing store with
  | nil =>
    rw [taken, Store.appended_nil]
    rfl
  | cons value rest inductionHypothesis =>
    rw [Build.pushAll, taken, accepted]
    cases statement : value.statement? with
    | some ref =>
      obtain rfl := statement_eq statement
      rw [Build.bind_run (Build.push_yields block ref store), inductionHypothesis,
        Store.appended_appended]
      rfl
    | none =>
      rw [Build.bind_fails _ (push_refused statement block store), Store.appended_nil]

/-- A value is pushed if it is a statement. -/
theorem push_run (block : Nat) (value : Value) (store : Store) :
    (Build.push block value).run.run store =
      (accepted [value], store.appended block (taken [value])) := by
  have alone : Build.pushAll block [value] = Build.push block value := by
    rw [Build.pushAll, Build.pushAll]
    exact bind_pure_unit
  rw [← alone, push_all_run]

/-- The items of an iterator are pushed up to the first that is no statement, and the iterator comes
as far. The induction is on the items: the iterator is put one item further before each is pushed,
so it has passed the one that is refused. -/
theorem push_walked_run (block id : Nat) (values : List Value) (store : Store) :
    (Build.pushWalked block id values).run.run store =
      (accepted values,
        (store.appended block (taken values)).walking id (Walk.walked values)) := by
  induction values generalizing store with
  | nil =>
    rw [taken, Store.appended_nil]
    rfl
  | cons value rest inductionHypothesis =>
    have advanced : (do Build.setWalk id (← Build.walkAt id).advance : Build Unit).Yields store ()
        (store.walking id Walk.advance) := by
      have same : store.walks.modify id (fun _ => (store.walks[id]?.getD (.rest [])).advance) =
          store.walks.modify id Walk.advance := by
        apply Array.ext_getElem?
        intro index
        simp only [Array.getElem?_modify]
        split
        · rename_i here
          rw [here]
          cases store.walks[index]? <;> rfl
        · rfl
      rw [Store.walking, ← same]
      rfl
    have unfolded : Build.pushWalked block id (value :: rest) = (do
        (do Build.setWalk id (← Build.walkAt id).advance : Build Unit)
        Build.push block value
        Build.pushWalked block id rest) := by
      rw [Build.pushWalked, bind_assoc]
    rw [unfolded, taken, accepted, Build.bind_run advanced]
    cases statement : value.statement? with
    | some ref =>
      obtain rfl := statement_eq statement
      rw [Build.bind_run (Build.push_yields block ref _), inductionHypothesis,
        Store.appended_appended, Store.walking_appended, Store.walking_walking]
      rfl
    | none =>
      have last : Walk.walked (value :: rest) = Walk.advance := by
        funext walk
        rw [Walk.walked, statement]
      rw [Build.bind_fails _ (push_refused statement block _), Store.appended_nil, last]

/-- The step that puts what a value supplies at the end of a body, where the store is known. -/
def Build.takeFrom (store : Store) (block : Nat) : Build.Supply → Build Unit
  | .items items => pushAll block items
  | .cell id => pushAll block (store.cell id)
  | .block id => do
    if id = block ∧ store.remaining (.block id 0) ≠ [] then throw .endless
    pushAll block (store.remaining (.block id 0))
  | .walk id => do
    match store.walks[id]?.getD (.rest []),
      store.remaining (store.walks[id]?.getD (.rest [])) with
    | .block source _, _ :: _ => if source = block then throw .endless
    | _, _ => pure ()
    pushWalked block id (store.remaining (store.walks[id]?.getD (.rest [])))

/-- A body is extended by what a value supplies. -/
theorem extend_run {values : Value} {supply : Build.Supply}
    (supplied : Build.supply values = .ok supply) (block : Nat) (store : Store) :
    (Build.extend block values).run.run store =
      (Build.takeFrom store block supply).run.run store := by
  rw [Build.extend, supplied]
  cases supply <;> rfl

/-- A body either takes what it is fed with, or it would be extended by itself and takes nothing.
The cases are those of what the values supply: items and growing lists are pushed one by one, and
only a body or an iterator can be a way back to the body that is fed. -/
theorem feed_outcome (store : Store) (block : Nat) (feed : Feed) :
    (feed.act block).run.run store = (store.feeding feed, store.fed block feed) ∨
      ¬store.Clear block feed ∧ (feed.act block).run.run store = (.error .endless, store) := by
  cases feed with
  | one value => exact .inl (push_run block value store)
  | all values =>
    cases supplied : Build.supply values with
    | error fault =>
      left
      simp only [Store.feeding, Store.fed, Store.intake, Feed.walk?, supplied, taken,
        Store.appended_nil]
      rw [Feed.act, Build.extend, supplied]
      rfl
    | ok supply =>
      rw [Feed.act, extend_run supplied]
      cases supply with
      | items items =>
        left
        rw [Build.takeFrom]
        simpa only [Store.feeding, Store.fed, Store.intake, Feed.walk?, supplied] using
          push_all_run block items store
      | cell id =>
        left
        rw [Build.takeFrom]
        simpa only [Store.feeding, Store.fed, Store.intake, Feed.walk?, supplied] using
          push_all_run block (store.cell id) store
      | block id =>
        by_cases endless : id = block ∧ store.remaining (.block id 0) ≠ []
        · right
          refine ⟨fun clear => ?_, ?_⟩
          · simp only [Store.Clear, supplied] at clear
            exact clear endless.1
          · rw [Build.takeFrom, if_pos endless]
            rfl
        · left
          rw [Build.takeFrom, if_neg endless]
          simpa only [Store.feeding, Store.fed, Store.intake, Feed.walk?, supplied] using
            push_all_run block (store.remaining (.block id 0)) store
      | walk id =>
        have eaten := push_walked_run block id
          (store.remaining (store.walks[id]?.getD (.rest []))) store
        rw [Build.takeFrom]
        split
        · rename_i walk items source index first rest come given
          by_cases endless : source = block
          · right
            refine ⟨fun clear => ?_, ?_⟩
            · simp only [Store.Clear, supplied] at clear
              refine clear index ?_
              cases stored : store.walks[id]? with
              | none => simp [stored] at come
              | some held => simp_all
            · rw [if_pos endless]
              rfl
          · left
            rw [if_neg endless]
            simpa only [Store.feeding, Store.fed, Store.intake, Feed.walk?, supplied] using eaten
        · left
          simpa only [Store.feeding, Store.fed, Store.intake, Feed.walk?, supplied] using eaten

/-- A body takes what it is fed with, if that is not its own statements. -/
theorem feed_run (clear : store.Clear block feed) :
    (feed.act block).run.run store = (store.feeding feed, store.fed block feed) := by
  rcases feed_outcome store block feed with fed | ⟨endless, _⟩
  · exact fed
  · exact absurd clear endless

/-- What is put onto an object is put into its body, and the object is given back. -/
theorem push_onto_eq {ref : Ref} {block : Nat}
    (body : (Build.bodyOf? ref).Yields store (some block) store) (value : Value) :
    (Build.pushOnto (.object ref) value).run.run store =
      (do Build.push block value; return .object ref : Build Value).run.run store := by
  rw [Build.pushOnto, Build.bind_run body]

/-- What an object is extended by its body is extended by, and the object is given back, unless it
is a growing list. -/
theorem extend_onto_eq {ref : Ref} {block : Nat} (notCell : ∀ id, ref ≠ .cell id)
    (body : (Build.bodyOf? ref).Yields store (some block) store) (values : Value) :
    (Build.extendOnto (.object ref) values).run.run store =
      (do Build.extend block values; return .object ref : Build Value).run.run store := by
  have unfolded : Build.extendOnto (.object ref) values = (do
      (← Build.bodyOf? ref).elim (throw (.noAttribute (Value.object ref).kind "extend"))
        fun block => do
          Build.extend block values
          return Value.object ref) := by
    cases ref with
    | cell id => exact absurd rfl (notCell id)
    | _ => exact bind_congr fun found => by cases found <;> rfl
  rw [unfolded, Build.bind_run body]
  rfl

/-! ## The same feed in two stores -/

/-- An iterator walks through no body that is numbered from a ground on. -/
def Walk.Over (ground : Nat) : Walk → Prop
  | .block id _ => id < ground
  | _ => True

/-- A feed takes from no body that is numbered from a ground on. -/
def Feed.Over (ground : Nat) : Feed → Prop
  | .one _ => True
  | .all values => match Build.supply values with
    | .ok (.block id) => id < ground
    | _ => True

/-- No iterator walks through a body that is numbered from a ground on. -/
def Store.WalksOver (store : Store) (ground : Nat) : Prop :=
  ∀ (id : Nat) (walk : Walk), store.walks[id]? = some walk → walk.Over ground

/-- Two stores have the same growing lists and the same bodies below a ground. -/
structure Store.Older (ground : Nat) (store other : Store) : Prop where
  cells : other.cells = store.cells
  blocks : ∀ id < ground, other.blocks[id]? = store.blocks[id]?

/-- A fed body has what it has taken behind what it had; other bodies are as they were. -/
theorem fed_blocks (store : Store) (block : Nat) (feed : Feed) (id : Nat) :
    (store.fed block feed).blocks[id]? =
      if block = id then store.blocks[id]?.map (· ++ taken (store.intake feed))
      else store.blocks[id]? := by
  rw [← Array.getElem?_modify]
  unfold Store.fed
  cases feed.walk? <;> rfl

/-- Feeding makes no bodies. -/
theorem fed_size (store : Store) (block : Nat) (feed : Feed) :
    (store.fed block feed).blocks.size = store.blocks.size := by
  unfold Store.fed
  cases feed.walk? <;> exact Array.size_modify

/-- The iterator that a body takes from has come as far; others are where they were. -/
theorem fed_walks (store : Store) (block : Nat) (feed : Feed) (id : Nat) :
    (store.fed block feed).walks[id]? =
      if feed.walk? = some id then store.walks[id]?.map (Walk.walked (store.intake feed))
      else store.walks[id]? := by
  unfold Store.fed
  cases feed.walk? with
  | none => simp [Store.appended]
  | some walk => simp [Store.walking, Store.appended, Array.getElem?_modify]

/-- Feeding changes bodies and iterators only. -/
theorem fed_others (store : Store) (block : Nat) (feed : Feed) :
    store.fed block feed = { store with
      blocks := (store.fed block feed).blocks, walks := (store.fed block feed).walks } := by
  unfold Store.fed
  cases feed.walk? <;> rfl

/-- What takes from older bodies only does not take from a newer one. -/
theorem clear_of_over (walks : store.WalksOver ground) (beyond : feed.Over ground)
    (newer : ground ≤ block) : store.Clear block feed := by
  cases feed with
  | one value => trivial
  | all values =>
    cases supplied : Build.supply values with
    | error fault => simp [Store.Clear, supplied]
    | ok supply =>
      cases supply with
      | block id =>
        simp only [Feed.Over, supplied] at beyond
        simp only [Store.Clear, supplied]
        omega
      | walk id =>
        simp only [Store.Clear, supplied]
        intro index own
        have older : block < ground := walks id _ own
        omega
      | _ => simp [Store.Clear, supplied]

/-- Walking on stays over the same bodies. -/
theorem walked_over (items : List Value) {walk : Walk} (beyond : walk.Over ground) :
    (walk.walked items).Over ground := by
  induction items generalizing walk with
  | nil => trivial
  | cons value rest inductionHypothesis =>
    have next : walk.advance.Over ground := by cases walk <;> exact beyond
    rw [Walk.walked]
    split
    · exact inductionHypothesis next
    · exact next

/-- Feeding leaves iterators over the same bodies. -/
theorem fed_walks_over (walks : store.WalksOver ground) (block : Nat) (feed : Feed) :
    (store.fed block feed).WalksOver ground := by
  intro id walk come
  rw [fed_walks] at come
  split at come
  · obtain ⟨before, stored, rfl⟩ := Option.map_eq_some_iff.mp come
    exact walked_over _ (walks id before stored)
  · exact walks id walk come

/-- What an iterator has still to give is the same where it has come as far. -/
theorem remaining_alike (older : store.Older ground other) {walk : Walk}
    (beyond : walk.Over ground) : other.remaining walk = store.remaining walk := by
  cases walk with
  | rest items => rfl
  | block id index => simp only [Store.remaining, Store.block, older.blocks id beyond]
  | cell id index => simp only [Store.remaining, Store.cell, older.cells]

/-- A feed gives the same values in both stores if its iterator has come as far. -/
theorem intake_alike (older : store.Older ground other) (walks : store.WalksOver ground)
    (beyond : feed.Over ground)
    (come : ∀ id, feed.walk? = some id → other.walks[id]? = store.walks[id]?) :
    other.intake feed = store.intake feed := by
  cases feed with
  | one value => rfl
  | all values =>
    cases supplied : Build.supply values with
    | error fault => simp only [Store.intake, supplied]
    | ok supply =>
      cases supply with
      | items items => simp only [Store.intake, supplied]
      | cell id => simp only [Store.intake, supplied, Store.cell, older.cells]
      | block id =>
        simp only [Feed.Over, supplied] at beyond
        simp only [Store.intake, supplied]
        exact remaining_alike older beyond
      | walk id =>
        have same : other.walks[id]? = store.walks[id]? := come id (by simp [Feed.walk?, supplied])
        simp only [Store.intake, supplied, same]
        cases stored : store.walks[id]? with
        | none => rfl
        | some walk => exact remaining_alike older (walks id walk stored)

end Stencil.Code
