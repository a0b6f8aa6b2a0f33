import Stencil.Conversion.Dispatch

/-!
# Streams

Items converted one by one, each when it is asked for. Opening a stream takes
nothing from its source; with an input tag given, the rule is looked up at once
and a missing one is a fault at once. A fault, of the source or of a
conversion, finishes the stream but not the source: from then on the stream
gives nothing and takes nothing.

A stream can be the source of other streams, and several can share a source.
A source is always older than its stream, which bounds the chain.
-/

namespace Stencil.Conversion

open Code

namespace Stream

/-- Add a stream. -/
def add (stream : Stream) : Convert Nat := do
  let id := (← get).streams.size
  modify fun desk => { desk with streams := desk.streams.push stream }
  return id

/-- Open a stream over a source that is made last, after the rule was looked up. -/
def openOver (on : Instance) (source : Convert Source) (output : Tag) (input : Option Tag) :
    Convert Nat := do
  let function ← on.outerReach.fixed? output input
  add ⟨on, output, function, ← source, false⟩

/-- Open a stream over what walking through a value gives. -/
def openValue (on : Instance) (value : Value) (output : Tag) (input : Option Tag) : Convert Nat :=
  openOver on (do return .walk (← iteratorOf value).1) output input

/-- Open a stream over what another stream gives. -/
def openStream (on : Instance) (stream : Nat) (output : Tag) (input : Option Tag) : Convert Nat :=
  openOver on (pure (.stream stream)) output input

/-- Finish a stream. -/
def finish (id : Nat) : Convert Unit :=
  modify fun desk =>
    { desk with streams := desk.streams.modify id fun stream => { stream with finished := true } }

/-- The next item of a stream, if there is one. The bound counts the streams over each other. -/
def nextWithin : (fuel : Nat) → Nat → Convert (Option Value)
  | 0, _ => throw .tooDeep
  | fuel + 1, id => do
    match (← get).streams[id]? with
    | none => return none
    | some stream =>
      if stream.finished then return none
      let step : Convert (Option Value) := do
        let item ← match stream.source with
          | .walk walk => Convert.building (Build.next? walk)
          | .stream source => nextWithin fuel source
        match item with
        | some item =>
          return some (← stream.on.outerReach.convertItem stream.function stream.output item)
        | none =>
          finish id
          return none
      tryCatch step fun fault => do
        finish id
        throw fault

/-- The next item of a stream, if there is one. -/
def next? (id : Nat) : Convert (Option Value) := do
  nextWithin ((← get).streams.size + 1) id

/-- The next item of a stream, which has to be there. -/
def next (id : Nat) : Convert Value := do
  match ← next? id with
  | some value => return value
  | none => throw .exhausted

/-- How many items the iterators can still give. No stream gives more. -/
def bound (desk : Desk) : Nat :=
  (desk.store.walks.toList.flatMap desk.store.remaining).length

/-- All further items of a stream, at most `count`, and the fault that ended it. -/
def drainWithin (id : Nat) : (count : Nat) → Convert (List Value × Option Fault)
  | 0 => return ([], none)
  | count + 1 => fun desk =>
    match next? id desk with
    | (.error fault, desk) => (.ok ([], some fault), desk)
    | (.ok none, desk) => (.ok ([], none), desk)
    | (.ok (some item), desk) =>
      ((do
        let (items, fault) ← drainWithin id count
        return (item :: items, fault) : Convert (List Value × Option Fault)) desk)

/-- All further items of a stream, and the fault that ended it. -/
def drain (id : Nat) : Convert (List Value × Option Fault) := do
  drainWithin id (bound (← get) + 1)

end Stream

end Stencil.Conversion
