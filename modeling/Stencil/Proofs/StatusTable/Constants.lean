import Stencil.Proofs.StatusTable.Generation
import Stencil.Proofs.StatusTable.Naming
import Stencil.StatusTable.Schema

/-!
# What the constants of a module hold

The module of a table is run from top to bottom. The name of a constant then
holds the code of the last entry whose constant has that name, and the name of
the lookup function, which is defined behind the constants, holds the function
(`module_run`). So all entries find their codes exactly if no two entries of
different codes share a constant and none has the function's name
(`constants_hold_iff`).

Upper snake case names can always be bound and are never the function's name;
but different names may have one upper snake case name.
-/

namespace Stencil.StatusTable

open Code

variable {store : Store} {naming : Naming} {default : Value} {table : Table} {spelling : Spelling}
  {globals : Globals}

/-- The name that an entry's constant is bound to. -/
def Entry.target? (spelling : Spelling) (naming : Naming) (entry : Entry) : Option String :=
  spelling.target? (naming.constant entry.name)

/-- The constant of an entry is bound to the entry's own code. What counts is the name as the
language reads it, which may differ from the text in front of the sign. -/
def Entry.Held (spelling : Spelling) (naming : Naming) (globals : Globals) (entry : Entry) : Prop :=
  ∃ name, entry.target? spelling naming = some name ∧
    globals name = some (.datum (.int entry.code))

/-- The last entry of a table whose constant has a name. -/
def lastNamed? (spelling : Spelling) (naming : Naming) (table : Table) (name : String) :
    Option Entry :=
  table.reverse.find? fun entry => entry.target? spelling naming == some name

/-- The last of some entries is that of those behind the first, if there is one. -/
theorem last_named_cons (entry : Entry) (rest : Table) (name : String) :
    lastNamed? spelling naming (entry :: rest) name =
      (lastNamed? spelling naming rest name).or
        (if entry.target? spelling naming = some name then some entry else none) := by
  rw [lastNamed?, List.reverse_cons, List.find?_append, lastNamed?, List.find?_singleton]
  by_cases named : entry.target? spelling naming = some name
  · rw [if_pos named, if_pos (beq_iff_eq.mpr named)]
  · rw [if_neg named, if_neg (mt beq_iff_eq.mp named)]

/-- The last entry of a name is in the table and has the name. -/
theorem last_named_some {name : String} {entry : Entry}
    (last : lastNamed? spelling naming table name = some entry) :
    entry ∈ table ∧ entry.target? spelling naming = some name :=
  ⟨List.mem_reverse.mp (List.mem_of_find?_eq_some last), by simpa using List.find?_some last⟩

/-- A name that an entry's constant has is that of a last entry. -/
theorem last_named_exists {name : String} {entry : Entry} (member : entry ∈ table)
    (named : entry.target? spelling naming = some name) :
    ∃ last, lastNamed? spelling naming table name = some last := by
  apply Option.isSome_iff_exists.mp
  rw [lastNamed?, List.find?_isSome]
  exact ⟨entry, List.mem_reverse.mpr member, by simpa using named⟩

/-! ## Running -/

/-- The constant of an entry binds its name to the entry's code. -/
theorem constant_execute {entry : Entry} {ref : StatementRef}
    (constant : IsConstant store naming entry ref) (globals : Globals) :
    spelling.execute store globals ref = (entry.target? spelling naming).map fun name =>
      globals.bind name (.datum (.int entry.code)) :=
  Spelling.execute_integer constant

/-- The constants of a table can be run exactly if each has a name, and then every name holds the
code of the last entry that has it. The induction is on the table, with one constant for each
entry. -/
theorem constants_run (spelling : Spelling) {refs : List StatementRef}
    (constants : List.Forall₂ (IsConstant store naming) table refs) (globals : Globals) :
    ((refs.foldlM (spelling.execute store) globals).isSome ↔
      ∀ entry ∈ table, (entry.target? spelling naming).isSome) ∧
    ∀ after, refs.foldlM (spelling.execute store) globals = some after → ∀ name,
      after name = ((lastNamed? spelling naming table name).map fun entry =>
        Global.datum (.int entry.code)).or (globals name) := by
  induction constants generalizing globals with
  | nil =>
    refine ⟨iff_of_true rfl (List.forall_mem_nil _), ?_⟩
    rintro after ⟨⟩ name
    rfl
  | @cons entry ref rest _ constant _ inductionHypothesis =>
    rw [List.foldlM_cons, constant_execute constant, List.forall_mem_cons]
    cases named : entry.target? spelling naming with
    | none =>
      refine ⟨iff_of_false Bool.false_ne_true ?_, ?_⟩
      · exact fun all => Bool.false_ne_true all.1
      · rintro after ⟨⟩
    | some own =>
      obtain ⟨ran, holds⟩ := inductionHypothesis (globals.bind own (.datum (.int entry.code)))
      refine ⟨ran.trans (iff_and_self.mpr fun _ => rfl), ?_⟩
      intro after done name
      rw [holds after done name, last_named_cons, named, Spelling.bind_eq]
      cases lastNamed? spelling naming rest name with
      | some last => rfl
      | none =>
        by_cases same : name = own
        · rw [if_pos same, if_pos (congrArg some same.symm)]
          rfl
        · rw [if_neg same, if_neg fun other => same (Option.some.inj other).symm]
          rfl

/-- The lookup function's name can be bound. -/
theorem lookup_named (spelling : Spelling) : spelling.target? lookupName = some lookupName :=
  spelling.target_ascii (by decide) (by decide) (by decide)

/-- The module of a table can be run exactly if each constant has a name. Then the lookup function's
name holds the function, and every other name the code of the last entry that has it. Constants are
bound one after the other, by induction on the entries, and the function last. -/
theorem module_run {body : Nat} (isBody : IsBody store naming default table body)
    (spelling : Spelling) :
    ((spelling.run store (store.block body)).isSome ↔
      ∀ entry ∈ table, (entry.target? spelling naming).isSome) ∧
    ∀ globals, spelling.run store (store.block body) = some globals →
      (∃ inner, globals lookupName = some (.function inner)) ∧
      ∀ name, name ≠ lookupName → globals name =
        (lastNamed? spelling naming table name).map fun entry => Global.datum (.int entry.code) := by
  obtain @⟨function, inner, last, refs, checks, held, named, looked, _⟩ := isBody
  have whole : spelling.run store (store.block body) =
      (refs.foldlM (spelling.execute store) .none).bind fun globals =>
        some (globals.bind lookupName (.function inner)) := by
    have behind (globals : Globals) : spelling.execute store globals ⟨.function, function⟩ =
        some (globals.bind lookupName (.function inner)) := by
      rw [Spelling.execute_function looked, lookup_named]
      rfl
    rw [Template.block_eq held, Spelling.run, List.foldlM_append]
    simp only [List.foldlM_cons, List.foldlM_nil, behind]
    rfl
  obtain ⟨ran, holds⟩ := constants_run spelling named .none
  rw [whole]
  cases before : refs.foldlM (spelling.execute store) .none with
  | none =>
    rw [before] at ran
    refine ⟨ran, ?_⟩
    rintro globals ⟨⟩
  | some first =>
    rw [before] at ran
    refine ⟨ran, ?_⟩
    rintro globals ⟨⟩
    refine ⟨⟨inner, if_pos rfl⟩, ?_⟩
    intro name other
    rw [Spelling.bind_eq, if_neg other, holds first before name]
    exact Option.or_none

/-- After a run all entries find their codes exactly if no two entries of different codes share a
constant and no constant has the lookup function's name. An entry finds its code if the last entry
with its constant has the same code; so all do exactly if entries that share a constant share a
code. -/
theorem held_iff {body : Nat} (isBody : IsBody store naming default table body)
    (ran : spelling.run store (store.block body) = some globals) :
    (∀ entry ∈ table, entry.Held spelling naming globals) ↔
      (∀ entry ∈ table, entry.target? spelling naming ≠ some lookupName) ∧
      ∀ first ∈ table, ∀ second ∈ table,
        first.target? spelling naming = second.target? spelling naming →
        first.code = second.code := by
  obtain ⟨isSome, holds⟩ := module_run isBody spelling
  obtain ⟨⟨inner, function⟩, others⟩ := holds globals ran
  have named := isSome.mp (Option.isSome_of_eq_some ran)
  constructor
  · intro all
    constructor
    · intro entry member is
      obtain ⟨name, own, code⟩ := all entry member
      rw [is] at own
      cases own
      rw [function] at code
      cases code
    · intro first member second among same
      obtain ⟨name, own, code⟩ := all first member
      obtain ⟨other, twin, again⟩ := all second among
      rw [same, twin] at own
      cases own
      rw [code] at again
      simpa using again
  · rintro ⟨apart, same⟩ entry member
    obtain ⟨name, own⟩ := Option.isSome_iff_exists.mp (named entry member)
    obtain ⟨last, found⟩ := last_named_exists member own
    obtain ⟨among, twin⟩ := last_named_some found
    have other : name ≠ lookupName := by
      rintro rfl
      exact apart entry member own
    refine ⟨name, own, ?_⟩
    rw [others name other, found, same entry member last among (own.trans twin.symm)]
    rfl

/-- The module of a table is made if the codes are within the limit for writing integers, and not
otherwise. It can be run if each constant has a name, which upper snake case names always are. After
the run all entries find their codes under their constants exactly if no two entries of different
codes share a constant and no constant has the name of the lookup function, which no upper snake case
name is.

Proof: the body binds the constants in the order of the entries, and the lookup function last
(`module_run`). So a name has what it was bound to last, and an entry finds its code exactly if no
binding behind its own gives its name to another code or to the function (`held_iff`). -/
theorem constants_hold_iff (naming : Naming) (default : Value) (text : String)
    (expression : default.expressionText? = some text) (moduleName : String) (table : Table)
    (store : Store) :
    let maker := makerOf ⟨moduleName, default, naming⟩ none
    ((∀ entry ∈ table, entry.Writable) → ∃ after id item,
      (maker.make (.ofTable table)).Yields store (.object (.module id)) after ∧
      after.modules[id]? = some item ∧
      ∀ spelling : Spelling,
        ((spelling.run after (after.block item.body)).isSome ↔
          ∀ entry ∈ table, (entry.target? spelling naming).isSome) ∧
        (∀ globals, spelling.run after (after.block item.body) = some globals →
          ((∀ entry ∈ table, entry.Held spelling naming globals) ↔
            (∀ entry ∈ table, entry.target? spelling naming ≠ some lookupName) ∧
            ∀ first ∈ table, ∀ second ∈ table,
              first.target? spelling naming = second.target? spelling naming →
              first.code = second.code)) ∧
        (naming = .upperSnake → ∀ entry ∈ table,
          entry.target? spelling naming = some (Naming.upperSnakeText entry.name) ∧
          Naming.upperSnakeText entry.name ≠ lookupName)) ∧
    ((∃ entry ∈ table, ¬entry.Writable) → ∃ after,
      (maker.make (.ofTable table)).Fails store .tooManyDigitsToWrite after) := by
  intro maker
  let module : ModuleMaker := ⟨moduleName, default, naming⟩
  constructor
  · intro writable
    obtain ⟨after, made, _, _, body, stored, isBody⟩ :=
      module_yields module expression writable store
    have made : (maker.make (.ofTable table)).Yields store (.object (.module store.modules.size))
        after := by
      rwa [← make_module] at made
    refine ⟨after, _, _, made, stored, fun spelling => ⟨(module_run isBody spelling).1, ?_, ?_⟩⟩
    · exact fun globals ran => held_iff isBody ran
    · rintro rfl entry _
      exact ⟨Naming.upper_snake_named spelling entry.name,
        Naming.upper_snake_apart entry.name (by decide)⟩
  · intro long
    exact make_fails module none long store

/-- Two codes with names that stay apart are both found. -/
theorem apart_names_held :
    ∃ after id item globals,
      ((makerOf ⟨"codes", .literal (.text "None"), .upperSnake⟩ none).make
        (.ofTable [⟨200, "OK"⟩, ⟨404, "Not Found"⟩, ⟨200, "ok"⟩])).Yields Store.empty
        (.object (.module id)) after ∧
      after.modules[id]? = some item ∧
      Spelling.plain.run after (after.block item.body) = some globals ∧
      Entry.Held Spelling.plain .upperSnake globals ⟨404, "Not Found"⟩ := by
  let table : Table := [⟨200, "OK"⟩, ⟨404, "Not Found"⟩, ⟨200, "ok"⟩]
  have writable : ∀ entry ∈ table, entry.Writable := by decide
  obtain ⟨after, id, item, made, stored, runs⟩ := (constants_hold_iff .upperSnake
    (.literal (.text "None")) "None" rfl "codes" table Store.empty).1 writable
  obtain ⟨ran, held, _⟩ := runs Spelling.plain
  obtain ⟨globals, run⟩ := Option.isSome_iff_exists.mp (ran.mpr (by decide))
  exact ⟨after, id, item, globals, made, stored, run,
    (held globals run).mpr (by decide) _ (by decide)⟩

/-- Two entries of a table file, with different codes and different names, whose constants have one
upper snake case name: the first does not find its code. -/
theorem folded_names_collide :
    ∃ table after id item globals,
      Schema.readTable (.ofText "codes.yaml") (.dict [(.text "codes",
        .list [.list [.int 1, .text "a"], .list [.int 2, .text "A"]])]) = .ok table ∧
      (table.map Entry.name).Nodup ∧
      ((makerOf ⟨"codes", .literal (.text "None"), .upperSnake⟩ none).make
        (.ofTable table)).Yields Store.empty (.object (.module id)) after ∧
      after.modules[id]? = some item ∧
      Spelling.plain.run after (after.block item.body) = some globals ∧
      ∃ entry ∈ table, ¬entry.Held Spelling.plain .upperSnake globals := by
  let table : Table := [⟨1, "a"⟩, ⟨2, "A"⟩]
  have writable : ∀ entry ∈ table, entry.Writable := by decide
  have expression : (Value.literal (.text "None")).expressionText? = some "None" := rfl
  obtain ⟨after, made, _, _, body, stored, isBody⟩ := module_yields
    ⟨"codes", .literal (.text "None"), .upperSnake⟩ expression writable Store.empty
  rw [← make_module] at made
  obtain ⟨ran, _⟩ := module_run isBody Spelling.plain
  obtain ⟨globals, run⟩ := Option.isSome_iff_exists.mp (ran.mpr (by decide))
  refine ⟨table, after, _, _, globals, by decide, by decide, made, stored, run, ?_⟩
  by_contra none
  have all : ∀ entry ∈ table, entry.Held Spelling.plain .upperSnake globals := by
    intro entry member
    by_contra lost
    exact none ⟨entry, member, lost⟩
  have same := ((held_iff isBody run).mp all).2 ⟨1, "a"⟩ (by decide) ⟨2, "A"⟩ (by decide)
    (by decide)
  exact absurd same (by decide)

end Stencil.StatusTable
