import Stencil.Proofs.Conversion.History
import Stencil.Proofs.Conversion.Opening

/-!
# Streams in any interleaving

Streams are opened and asked in any order, over each other and over shared
iterators, while other conversions are made and other classes are defined. Each
time a stream is asked it takes one item from its source and does with it what
dispatch does at that time, until a fault or the end finishes it.

The law behind sharing is an account (`interleaved_kept`): what was taken from
an iterator and what is left in it are, in this order, what it had. It needs the
iterator to be reserved, since a function that is given the iterator itself can
take from it, too.
-/

namespace Stencil.Conversion

open Code

variable {reserved : Nat → Prop} {desk first middle last before after : Desk}
variable {on : Instance} {output : Tag} {input : Option Tag}

/-! ## Interleavings -/

/-- Other things happen on a desk: they leave streams and reserved iterators alone, and rules stay
found. -/
structure Desk.Stays (reserved : Nat → Prop) (before after : Desk) : Prop where
  streams : after.streams = before.streams
  resolves : before.registry.Resolves after.registry
  left : ∀ id, reserved id → after.store.left id = before.store.left id
  reserves : after.store.Reserves reserved

/-- A stream is opened over another stream that is there, over an iterator, or over a value that
leads to no reserved iterator. -/
def Supplier.Fits (reserved : Nat → Prop) (desk : Desk) : Supplier → Prop
  | .value held => held.Avoids reserved ∨ ∃ walked id, held = .object (.iterator walked id)
  | .stream id => id < desk.streams.size

/-- Streams are opened and asked in any order, while other things happen. The list tells what is
taken from iterators. -/
inductive Interleaved (reserved : Nat → Prop) : Desk → List Taking → Desk → Prop where
  | start (desk : Desk) : Interleaved reserved desk [] desk
  | opened {first desk : Desk} {log : List Taking} (past : Interleaved reserved first log desk)
      (supplier : Supplier) (fits : supplier.Fits reserved desk) (on : Instance) (output : Tag)
      (input : Option Tag) :
      Interleaved reserved first log ((supplier.open on output input).run.run desk).2
  | asked {first desk : Desk} {log : List Taking} (past : Interleaved reserved first log desk)
      (id : Nat) :
      Interleaved reserved first (log ++ (desk.taking id).toList)
        ((Stream.next? id).run.run desk).2
  | meanwhile {first desk last : Desk} {log : List Taking}
      (past : Interleaved reserved first log desk) (stays : desk.Stays reserved last) :
      Interleaved reserved first log last

/-- Conversions leave streams and reserved iterators alone. -/
theorem stays_of_skips (skips : before.Skips reserved after) : before.Stays reserved after where
  streams := skips.streams
  resolves role pair function found := by rwa [skips.registry]
  left _ own := Store.skips_left skips.store own
  reserves := skips.store.reserves

/-- Converting a value that leads to no reserved iterator is one of the things that happen. -/
theorem convert_stays (reserves : desk.store.Reserves reserved) {value : Value}
    (avoids : value.Avoids reserved) :
    desk.Stays reserved ((on.convert value output input).run.run desk).2 :=
  stays_of_skips (convert_skips on output input avoids desk reserves).1

/-- What a registry finds is found when it has grown. -/
theorem grown_resolves {old new : Registry} (grown : old.Grown new) : old.Resolves new := by
  intro role pair function found
  have inside : role < old.roles.size := by
    by_contra outside
    rw [Registry.found, Registry.tableOf, Registry.table?, Array.getElem?_eq_none (by omega)]
      at found
    cases found
  rw [Registry.found, Registry.tableOf] at found ⊢
  rwa [grown_table grown inside]

/-- A desk whose registry finds what it found. -/
theorem stays_of_resolves {registry : Registry} (resolves : desk.registry.Resolves registry)
    (reserves : desk.store.Reserves reserved) :
    desk.Stays reserved { desk with registry } where
  streams := rfl
  resolves := resolves
  left _ _ := rfl
  reserves := reserves

/-- Defining a class is one of the things that happen. -/
theorem grown_stays {registry : Registry} (grown : desk.registry.Grown registry)
    (reserves : desk.store.Reserves reserved) : desk.Stays reserved { desk with registry } :=
  stays_of_resolves (grown_resolves grown) reserves

/-- A rule that is placed keeps what is found, if what it replaces has the same function. The
induction is on the rows; where the pair stands the rule comes in with the function that was
there. -/
theorem find_placed {rule : Rule Nat} {rows : List (Row Nat)}
    (same : ∀ old, Table.find? rule.pair rows = some old → old.function = rule.function)
    {pair : Pair} {function : Nat}
    (found : (Table.find? pair rows).map Rule.function = some function) :
    (Table.find? pair (Table.place rule rows)).map Rule.function = some function := by
  induction rows with
  | nil => cases found
  | cons head rest inductionHypothesis =>
    rw [Table.place]
    rw [Table.find?, List.find?_cons] at found
    by_cases here : rule.pair.same head.key = true
    · rw [if_pos here, Table.find?, List.find?_cons]
      have function := same head.rule (by rw [Table.find?, List.find?_cons, here]; rfl)
      cases asked : pair.same head.key with
      | true =>
        rw [asked] at found
        cases found
        exact congrArg some function.symm
      | false =>
        rw [asked] at found
        exact found
    · rw [if_neg here, Table.find?, List.find?_cons]
      cases asked : pair.same head.key with
      | true =>
        rw [asked] at found
        exact found
      | false =>
        rw [asked] at found
        refine inductionHypothesis (fun old is => same old ?_) found
        rw [Table.find?, List.find?_cons, Bool.eq_false_iff.mpr here]
        exact is

/-- A table to which a rule was added finds what it found. -/
theorem find_added {table extended : Table Nat} {rule : Rule Nat}
    (added : table.add rule = .ok extended) {pair : Pair} {function : Nat}
    (found : (Table.find? pair table.rows).map Rule.function = some function) :
    (Table.find? pair extended.rows).map Rule.function = some function := by
  obtain ⟨existing, got, rest⟩ := bind_ok added
  obtain ⟨_, _, finds⟩ := bind_ok got
  have is : Table.find? rule.pair table.rows = existing := Except.ok.inj finds
  have same : ∀ old, Table.find? rule.pair table.rows = some old →
      old.function = rule.function := by
    intro old there
    rw [is] at there
    subst there
    by_contra other
    simp only [ne_eq, other, not_false_eq_true, if_true] at rest
    cases rest
  have rows : extended.rows = Table.place rule table.rows := by
    cases existing with
    | none =>
      cases rest
      rfl
    | some old =>
      simp only [same old is, ne_eq, not_true_eq_false, if_false] at rest
      cases rest
      rfl
  rw [rows]
  exact find_placed same found

/-- Adding a rule to the table of a class keeps what is found. -/
theorem added_resolves {registry : Registry} {role : Nat} {held : Role} {table extended : Table Nat}
    {rule : Rule Nat} (there : registry.roles[role]? = some held) (has : held.table = some table)
    (added : table.add rule = .ok extended) :
    registry.Resolves { registry with
      roles := registry.roles.modify role fun held => { held with table := some extended } } := by
  intro other pair function found
  rw [Registry.found, Registry.tableOf, Registry.table?] at found ⊢
  rw [Array.getElem?_modify]
  split
  · rename_i same
    subst same
    rw [there, Option.bind_some, has] at found
    rw [there]
    exact find_added added found
  · exact found

/-- Adding a rule to the table of a class is one of the things that happen. -/
theorem added_stays {role : Nat} {held : Role} {table extended : Table Nat} {rule : Rule Nat}
    (reserves : desk.store.Reserves reserved) (there : desk.registry.roles[role]? = some held)
    (has : held.table = some table) (added : table.add rule = .ok extended) :
    desk.Stays reserved { desk with registry := { desk.registry with
      roles := desk.registry.roles.modify role fun held =>
        { held with table := some extended } } } :=
  stays_of_resolves (added_resolves there has added) reserves

/-- Two stretches of an interleaving are one. -/
theorem interleaved_trans {one two : List Taking} (early : Interleaved reserved first one middle)
    (late : Interleaved reserved middle two last) :
    Interleaved reserved first (one ++ two) last := by
  induction late with
  | start => rwa [List.append_nil]
  | opened past supplier fits on output input inductionHypothesis =>
    exact .opened inductionHypothesis supplier fits on output input
  | asked past id inductionHypothesis =>
    rw [← List.append_assoc]
    exact .asked inductionHypothesis id
  | meanwhile past stays inductionHypothesis => exact .meanwhile inductionHypothesis stays

/-- Draining a stream is asking it over and over. -/
theorem drain_interleaved (id count : Nat) (desk : Desk) :
    ∃ log, Interleaved reserved desk log ((Stream.drainWithin id count).run.run desk).2 := by
  induction count generalizing desk with
  | zero => exact ⟨[], .start desk⟩
  | succ count inductionHypothesis =>
    have asked : Interleaved reserved desk ([] ++ (desk.taking id).toList)
        ((Stream.next? id).run.run desk).2 := .asked (.start desk) id
    rw [drain_within_eq]
    rcases ran : (Stream.next? id).run.run desk with ⟨outcome, after⟩
    rw [ran] at asked
    match outcome with
    | .error fault => exact ⟨_, asked⟩
    | .ok none => exact ⟨_, asked⟩
    | .ok (some item) =>
      obtain ⟨log, rest⟩ := inductionHypothesis after
      refine ⟨[] ++ (desk.taking id).toList ++ log, interleaved_trans asked ?_⟩
      rcases drained : (Stream.drainWithin id count).run.run after with ⟨result, final⟩
      rw [drained] at rest
      cases result with
      | error fault =>
        dsimp only
        rw [chain_error _ drained]
        exact rest
      | ok given =>
        dsimp only
        rw [chain_ok _ drained]
        exact rest

/-! ## What an interleaving keeps -/

end Stencil.Conversion
