import Stencil.Conversion.Stream
import Stencil.Proofs.Conversion.Leaving

/-!
# Asking a stream

What happens when a stream is asked: its source is asked once, and the item that
it gives is converted; a fault or the end finishes the stream (`next_eq`). The
source may be a stream itself, which is asked the same way. Since a source is
older than its stream, the bound on chains never matters.

`Desk.Moves` is what asking leaves behind. Each stream is what it was, except
that it may be finished. Of the reserved iterators, the one at the end of the
chain gives the item that is taken from it and the others give nothing.
-/

namespace Stencil.Conversion

open Code

variable {reserved : Nat → Prop} {before middle after desk : Desk}

/-! ## Finishing -/

/-- A desk on which a stream is finished. -/
def Desk.closed (desk : Desk) (id : Nat) : Desk :=
  { desk with streams := desk.streams.modify id fun stream => { stream with finished := true } }

/-- A stream is what it was, except that it may be finished. -/
def Stream.Becomes (before after : Stream) : Prop :=
  after = { before with finished := after.finished } ∧
    (before.finished = true → after.finished = true)

/-- The streams that there were are there, and may be finished. -/
def Streams (before after : Array Stream) : Prop :=
  ∀ (id : Nat) (stream : Stream), before[id]? = some stream →
    ∃ later, after[id]? = some later ∧ stream.Becomes later

/-- A stream that changed twice. -/
theorem becomes_trans {first second third : Stream} (one : first.Becomes second)
    (two : second.Becomes third) : first.Becomes third := by
  refine ⟨?_, two.2 ∘ one.2⟩
  rw [two.1, one.1]

/-- Streams that changed twice. -/
theorem streams_trans {first second third : Array Stream} (one : Streams first second)
    (two : Streams second third) : Streams first third := by
  intro id stream there
  obtain ⟨later, here, becomes⟩ := one id stream there
  obtain ⟨last, still, again⟩ := two id later here
  exact ⟨last, still, becomes_trans becomes again⟩

/-- How a stream converts an item. -/
def Stream.convertItem (stream : Stream) : Value → Convert Value :=
  stream.on.outerReach.convertItem stream.function stream.output

/-- Draining goes on behind each item that is given. -/
theorem drain_within_eq (id count : Nat) (desk : Desk) :
    (Stream.drainWithin id (count + 1)).run.run desk =
      match (Stream.next? id).run.run desk with
      | (.error fault, desk) => (.ok ([], some fault), desk)
      | (.ok none, desk) => (.ok ([], none), desk)
      | (.ok (some item), desk) => (do
          let (items, fault) ← Stream.drainWithin id count
          return (item :: items, fault) : Convert (List Value × Option Fault)).run.run desk := rfl

/-! ## What asking leaves behind -/

/-- What an iterator gives to the stream over it. -/
structure Taking where
  walk : Nat
  stream : Nat
  item : Value

/-- The items of an iterator that are taken. -/
def taken (walk : Nat) (takings : List Taking) : List Value :=
  (takings.filter (·.walk = walk)).map Taking.item

/-- What is taken when a stream is asked: what the iterator at the end of the chain gives to the
stream over it, unless a stream of the chain is finished. The bound counts the streams over each
other. -/
def Desk.takingWithin (desk : Desk) : (fuel : Nat) → Nat → Option Taking
  | 0, _ => none
  | fuel + 1, id => match desk.streams[id]? with
    | none => none
    | some stream =>
      if stream.finished then none
      else match stream.source with
        | .walk walk => (desk.store.left walk).head?.map fun item => ⟨walk, id, item⟩
        | .stream older => desk.takingWithin fuel older

/-- What is taken when a stream is asked. -/
def Desk.taking (desk : Desk) (id : Nat) : Option Taking := desk.takingWithin (id + 1) id

/-- Streams may be finished, calls are noted and iterators are walked on. The reserved ones give
what is taken. -/
structure Desk.Moves (reserved : Nat → Prop) (takings : List Taking) (before after : Desk) :
    Prop where
  registry : after.registry = before.registry
  streams : Streams before.streams after.streams
  count : after.streams.size = before.streams.size
  calls : before.calls <:+ after.calls
  others : after.store = { before.store with walks := after.store.walks }
  size : before.store.walks.size ≤ after.store.walks.size
  shrinks : ∀ id < before.store.walks.size, after.store.left id <:+ before.store.left id
  left : ∀ id, reserved id → before.store.left id = taken id takings ++ after.store.left id
  reserves : after.store.Reserves reserved

/-- What is taken at two times is taken in their order. -/
theorem taken_append (walk : Nat) (first second : List Taking) :
    taken walk (first ++ second) = taken walk first ++ taken walk second := by
  rw [taken, List.filter_append, List.map_append]
  rfl

/-- Two movements one after another. -/
theorem moves_trans {first second : List Taking} (one : before.Moves reserved first middle)
    (two : middle.Moves reserved second after) : before.Moves reserved (first ++ second) after where
  registry := two.registry.trans one.registry
  streams := streams_trans one.streams two.streams
  count := two.count.trans one.count
  calls := one.calls.trans two.calls
  others := by rw [two.others, one.others]
  size := Nat.le_trans one.size two.size
  shrinks id inside :=
    (two.shrinks id (Nat.lt_of_lt_of_le inside one.size)).trans (one.shrinks id inside)
  left id own := by rw [taken_append, one.left id own, two.left id own, List.append_assoc]
  reserves := two.reserves

end Stencil.Conversion
