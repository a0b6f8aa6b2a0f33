import Stencil.Proofs.Conversion.History

/-!
# Inheritance

The rule table of a class is put together from the tables of its bases and from
what its body declares. Every rule of a base is found in it, with the function
that the body puts in its place if there is one (`finds_inherited`), and every
declared rule is found (`finds_declared`). Nothing else is in it
(`found_source`).

The tables of all classes are sound, by induction on the number of the class,
since bases have smaller numbers.
-/

namespace Stencil.Conversion

open Code

/-- The rules of the bases of a new class as they pass to the class. -/
def Registry.passed (registry : Registry) (body : Body) (owner : String) (bases : List Nat) :
    List (Rule Nat) :=
  (bases.flatMap fun base => ((registry.table? base).map Table.rules).getD []).map
    (registry.inherit body owner)

/-- The rules that a body declares. -/
def Body.rules (body : Body) (owner : String) : List (Rule Nat) :=
  body.declared.map fun declared => ⟨declared.1, declared.2, owner⟩

section

variable (registry : Registry) (body : Body) (owner : String) (rule : Rule Nat)

/-- A rule that passes to a class keeps its pair. -/
@[simp] theorem inherit_pair : (registry.inherit body owner rule).pair = rule.pair := by
  unfold Registry.inherit
  split <;> rfl

/-- A rule that passes to a class gets what the class itself binds to the name, if that can be called
and has no pairs. -/
theorem inherit_function :
    (registry.inherit body owner rule).function =
      (registry.plain? body (registry.nameOf rule.function)).getD rule.function := by
  unfold Registry.inherit
  cases registry.plain? body (registry.nameOf rule.function) <;> rfl

end

/-- What is looked up in a list is one of its entries. -/
theorem lookup_mem {α β : Type} [BEq α] [LawfulBEq α] {entries : List (α × β)} {key : α} {value : β}
    (found : entries.lookup key = some value) : (key, value) ∈ entries := by
  obtain ⟨before, behind, rfl, _⟩ := List.lookup_eq_some_iff.mp found
  simp

/-- What can be called and has no pairs, and is finally bound to a name, is a function without pairs
or a kind. -/
theorem plain_cases {registry : Registry} {body : Body} {name : String} {id : Nat}
    (plain : registry.plain? body name = some id) :
    body.members.lookup name = some (.function id) ∧ registry.pairsOf id = [] ∨
      ∃ tag, registry.kindOf? tag = some id := by
  unfold Registry.plain? at plain
  split at plain
  · rename_i other bound
    split at plain
    · rename_i empty
      cases plain
      exact .inl ⟨bound, List.isEmpty_iff.mp empty⟩
    · cases plain
  · exact .inr ⟨_, plain⟩
  · cases plain

/-- A function without pairs that a body finally binds to a name is what is found for the name. -/
theorem plain_function {registry : Registry} {body : Body} {name : String} {id : Nat}
    (bound : body.members.lookup name = some (.function id)) (empty : registry.pairsOf id = []) :
    registry.plain? body name = some id := by
  simp only [Registry.plain?, bound, empty, List.isEmpty_nil, if_true]

namespace Table

variable {table after : Table Nat}

/-- What adding a declared pair does: the pair is checked, then whether it was inherited. -/
theorem add_declared_eq (keys : List Pair) (table : Table Nat) (pair : Pair) (id : Nat) :
    Registry.addDeclared keys table (pair, id) = match pair.checkKey with
      | .error fault => .error fault
      | .ok _ =>
        if keys.any pair.same then .error (table.duplicate pair)
        else table.add ⟨pair, id, table.role⟩ := by
  unfold Registry.addDeclared
  cases pair.checkKey with
  | error fault => rfl
  | ok done =>
    cases inherited : keys.any pair.same with
    | true => simp [bind, Except.bind, throw, throwThe, MonadExceptOf.throw]
    | false => simp [bind, Except.bind]

/-- Declared pairs are added as rules, none of which was there before. -/
theorem adding_declared {declared : List (Pair × Nat)} {keys : List Pair}
    (added : declared.foldlM (Registry.addDeclared keys) table = .ok after) :
    (declared.map fun each => (⟨each.1, each.2, table.role⟩ : Rule Nat)).foldlM add table =
        .ok after ∧
      ∀ each ∈ declared, each.1.checkKey = .ok () ∧ keys.any each.1.same = false := by
  induction declared generalizing table with
  | nil => exact ⟨added, by simp⟩
  | cons first rest inductionHypothesis =>
    obtain ⟨middle, step, behind⟩ := bind_ok added
    rw [add_declared_eq] at step
    split at step
    · cases step
    · rename_i done fit
      split at step
      · cases step
      · rename_i fresh
        have role : middle.role = table.role := by
          obtain ⟨_, rfl⟩ := add_ok step
          rfl
        obtain ⟨rules, others⟩ := inductionHypothesis behind
        rw [role] at rules
        refine ⟨?_, ?_⟩
        · rw [List.map_cons, List.foldlM_cons, step]
          exact rules
        · intro each member
          rcases List.mem_cons.mp member with rfl | later
          · exact ⟨fit, by simpa using fresh⟩
          · exact others each later

/-- A pair finds the rule of its row, since no other row has the same pair. -/
theorem find_row {known : Pair → Prop} (keys : Keys known) {rows : List (Row Nat)}
    (sound : ∀ row ∈ rows, row.Sound known)
    (once : (rows.map Row.key).Pairwise fun key later => later.same key = false) {row : Row Nat}
    (member : row ∈ rows) {pair : Pair} (asked : known pair) (same : pair.same row.key = true) :
    find? pair rows = some row.rule := by
  induction rows with
  | nil => cases member
  | cons head rest inductionHypothesis =>
    rw [find?, List.find?_cons]
    rcases List.mem_cons.mp member with rfl | later
    · rw [same]
      rfl
    · rw [List.map_cons, List.pairwise_cons] at once
      have key := (sound row member).key
      have first := (sound head (by simp)).key
      have apart : pair.same head.key = false := by
        rw [← Bool.not_eq_true]
        intro also
        have both := same_trans keys key asked first (same_symm keys asked key same) also
        rw [once.1 row.key (List.mem_map_of_mem later)] at both
        cases both
      rw [apart]
      exact inductionHypothesis (fun other inside => sound other (.tail _ inside)) once.2 later

/-- The rules of the rows are those added and those of the rows before. The induction is on the
rules, and within it on the rows: a rule is put behind all rows, or in the place of one. -/
theorem adding_rules {rules : List (Rule Nat)} (added : rules.foldlM add table = .ok after) :
    ∀ row ∈ after.rows, row.rule ∈ rules ∨ row ∈ table.rows := by
  have placing (rule : Rule Nat) (rows : List (Row Nat)) :
      ∀ row ∈ place rule rows, row.rule = rule ∨ row ∈ rows := by
    induction rows with
    | nil => simp [place]
    | cons head rest inductionHypothesis =>
      intro row member
      rw [place] at member
      split at member
      · rcases List.mem_cons.mp member with rfl | later
        · exact .inl rfl
        · exact .inr (.tail _ later)
      · rcases List.mem_cons.mp member with rfl | later
        · exact .inr (by simp)
        · exact (inductionHypothesis row later).imp_right (.tail _)
  induction rules generalizing table with
  | nil =>
    cases added
    exact fun row member => .inr member
  | cons rule rest inductionHypothesis =>
    obtain ⟨middle, first, behind⟩ := bind_ok added
    obtain ⟨_, rfl⟩ := add_ok first
    intro row member
    rcases inductionHypothesis behind row member with later | old
    · exact .inl (.tail _ later)
    · rcases placing rule table.rows row old with rfl | before
      · exact .inl (by simp)
      · exact .inr before

end Table

/-! ## Classes as they are put together -/

/-- A class that is put together has its name, its order, its members, and unless it is bare a
table. -/
theorem new_role_ok {registry : Registry} {definition : Definition} {body : Body}
    {bases : List Nat} {role : Role} (made : registry.newRole definition body bases = .ok role) :
    role.name = definition.name ∧ registry.newOrder registry.roles.size bases = .ok role.order ∧
      (definition.bare = true → role.members = body.members ∧ role.table = none) ∧
      (definition.bare = false → role.members = (tableField, .table) :: body.members ∧
        ∃ table, registry.assemble body definition.name bases = .ok table ∧
          role.table = some table) := by
  unfold Registry.newRole at made
  obtain ⟨_, _, made⟩ := bind_ok made
  obtain ⟨order, ordered, made⟩ := bind_ok made
  split at made
  · rename_i bare
    cases made
    simp [bare, ordered]
  · rename_i bare
    obtain ⟨table, assembled, made⟩ := bind_ok made
    cases made
    refine ⟨rfl, ordered, fun is => absurd is bare, fun _ => ⟨rfl, table, assembled, rfl⟩⟩

/-- A table is put together from the rules that pass to the class and those that its body declares,
which the bases do not have. -/
theorem assemble_ok {registry : Registry} {body : Body} {owner : String} {bases : List Nat}
    {table : Table Nat} (assembled : registry.assemble body owner bases = .ok table) :
    ∃ middle, (registry.passed body owner bases).foldlM Table.add (.empty owner) = .ok middle ∧
      (body.rules owner).foldlM Table.add middle = .ok table ∧
      ∀ pair id, (pair, id) ∈ body.declared →
        pair.checkKey = .ok () ∧ middle.keys.any pair.same = false := by
  unfold Registry.assemble at assembled
  obtain ⟨middle, inherited, declared⟩ := bind_ok assembled
  obtain ⟨rules, fresh⟩ := Table.adding_declared declared
  have role : middle.role = owner := (Table.adding_keys inherited).2
  rw [role] at rules
  exact ⟨middle, inherited, rules, fun pair id member => fresh (pair, id) member⟩

/-! ## Tables of classes -/

/-- A table with known rows, whose functions are there, and no pair twice. -/
structure Table.Sound (registry : Registry) (table : Table Nat) : Prop where
  rows : ∀ row ∈ table.rows, row.Sound registry.Known
  inside : ∀ row ∈ table.rows, row.rule.function < registry.functions.size
  once : table.keys.Pairwise fun key later => later.same key = false

/-- What is found in a sound table is there. -/
theorem Table.find_inside {registry : Registry} {table : Table Nat} (sound : table.Sound registry)
    {pair : Pair} {rule : Rule Nat} (found : Table.find? pair table.rows = some rule) :
    rule.function < registry.functions.size := by
  obtain ⟨row, member, rfl, _⟩ := Table.find_some found
  exact sound.inside row member

/-- A function that declares a pair is there. -/
theorem declares_inside {registry : Registry} {pair : Pair} {id : Nat}
    (declared : pair ∈ registry.pairsOf id) : id < registry.functions.size := by
  by_contra outside
  rw [Registry.pairsOf, Array.getElem?_eq_none (by omega)] at declared
  cases declared

namespace Deed

variable (deed : Deed)

/-- The rules that pass to the class of a deed. -/
def passed : List (Rule Nat) :=
  deed.moment.passed deed.body deed.definition.name deed.bases

/-- The rules that the body of a deed declares. -/
def declares : List (Rule Nat) := deed.body.rules deed.definition.name

/-- The function that the class of a deed has in place of an inherited one. -/
def replaced (function : Nat) : Nat :=
  (deed.moment.plain? deed.body (deed.moment.nameOf function)).getD function

/-- How the table of the class of a deed was put together, from sound tables. -/
structure Assembled (registry : Registry) (table : Table Nat) : Prop where
  bases : ∀ base ∈ deed.bases, ∀ held, deed.moment.table? base = some held → held.Sound registry
  added : (deed.passed ++ deed.declares).foldlM Table.add (.empty deed.definition.name) = .ok table
  known : ∀ pair id, (pair, id) ∈ deed.body.declared → registry.Known pair ∧ pair.origin.isSome
  fresh : ∃ middle, deed.passed.foldlM Table.add (.empty deed.definition.name) = .ok middle ∧
    ∀ pair id, (pair, id) ∈ deed.body.declared → middle.keys.any pair.same = false

variable {deed} {registry : Registry} {table : Table Nat}

/-- A rule that passes to a class is that of a row of a base. -/
theorem mem_passed_iff {rule : Rule Nat} :
    rule ∈ deed.passed ↔ ∃ base ∈ deed.bases, ∃ held, deed.moment.table? base = some held ∧
      ∃ row ∈ held.rows,
        deed.moment.inherit deed.body deed.definition.name row.rule = rule := by
  simp only [passed, Registry.passed, List.mem_map, List.mem_flatMap]
  constructor
  · rintro ⟨old, ⟨base, member, there⟩, is⟩
    cases held : deed.moment.table? base with
    | none =>
      rw [held] at there
      cases there
    | some table =>
      rw [held] at there
      obtain ⟨row, inside, rfl⟩ := List.mem_map.mp there
      exact ⟨base, member, table, held, row, inside, is⟩
  · rintro ⟨base, member, held, has, row, inside, is⟩
    refine ⟨row.rule, ⟨base, member, ?_⟩, is⟩
    rw [has]
    exact List.mem_map_of_mem inside

/-- The rules that pass to a class from sound tables are sound. -/
theorem passed_sound (bases : ∀ base ∈ deed.bases, ∀ held, deed.moment.table? base = some held →
    held.Sound registry) : ∀ rule ∈ deed.passed, rule.Sound registry.Known := by
  intro rule passes
  obtain ⟨base, member, held, has, row, there, rfl⟩ := mem_passed_iff.mp passes
  have fits := (bases base member held has).rows row there
  refine ⟨?_, ?_⟩
  · rw [inherit_pair]
    exact fits.pair
  · rw [inherit_pair]
    exact fits.declared

/-- A rule that passes to a class is found in a base, with the function that the class has in place
of the base's. -/
theorem passed_source (sound : registry.Sound)
    (bases : ∀ base ∈ deed.bases, ∀ held, deed.moment.table? base = some held →
      held.Sound registry) {rule : Rule Nat} (passes : rule ∈ deed.passed) {pair : Pair}
    (asked : registry.Known pair) (same : pair.same rule.pair = true) :
    ∃ base ∈ deed.bases, ∃ held old, deed.moment.table? base = some held ∧
      Table.find? pair held.rows = some old ∧ rule.function = deed.replaced old.function := by
  have keys := known_keys sound
  obtain ⟨base, member, held, has, row, there, rfl⟩ := mem_passed_iff.mp passes
  have below := bases base member held has
  have fit := below.rows row there
  rw [inherit_pair] at same
  refine ⟨base, member, held, row.rule, has, ?_, inherit_function _ _ _ _⟩
  exact Table.find_row keys below.rows below.once there asked
    (same_trans keys asked fit.pair fit.key same fit.same)

/-- The rules that a class is put together from are sound, and their functions are there. -/
theorem rules_sound (stands : deed.Stands registry) (assembled : deed.Assembled registry table) :
    ∀ rule ∈ deed.passed ++ deed.declares,
      rule.Sound registry.Known ∧ rule.function < registry.functions.size := by
  intro rule member
  rcases List.mem_append.mp member with passed | declared
  · refine ⟨passed_sound assembled.bases rule passed, ?_⟩
    obtain ⟨base, inside, held, has, row, there, rfl⟩ := mem_passed_iff.mp passed
    rw [inherit_function]
    cases plain : deed.moment.plain? deed.body (deed.moment.nameOf row.rule.function) with
    | none => exact (assembled.bases base inside held has).inside row there
    | some id =>
      rcases plain_cases plain with ⟨bound, _⟩ | ⟨tag, known⟩
      · exact (stands.members _ id (lookup_mem bound)).trans_le stands.grown.size
      · exact (stands.kinds tag id known).trans_le stands.grown.size
  · obtain ⟨⟨pair, id⟩, written, rfl⟩ := List.mem_map.mp declared
    obtain ⟨known, origin⟩ := assembled.known pair id written
    have inside := declares_inside (stands.declared pair id written)
    exact ⟨⟨known, origin⟩, inside.trans_le stands.grown.size⟩

/-- A table that is put together from sound rules is sound. -/
theorem assembled_sound (stands : deed.Stands registry)
    (assembled : deed.Assembled registry table) : table.Sound registry := by
  have fits := rules_sound stands assembled
  refine ⟨?_, ?_, ?_⟩
  · exact Table.adding_sound assembled.added (by simp [Table.empty])
      fun rule member => (fits rule member).1
  · intro row member
    rcases Table.adding_rules assembled.added row member with added | old
    · exact (fits row.rule added).2
    · cases old
  · rw [(Table.adding_keys assembled.added).1]
    exact gathered_once (by simp [Table.empty, Table.keys])

/-- The class of a deed that stands is there, and unless it is bare its table was put together from
the tables of its bases. -/
theorem stands_assembled (sound : registry.Sound) (stands : deed.Stands registry)
    (bases : ∀ base ∈ deed.bases, ∀ held, registry.table? base = some held → held.Sound registry)
    (full : deed.definition.bare = false) :
    ∃ role table, registry.roles[deed.number]? = some role ∧ role.table = some table ∧
      role.members = (tableField, .table) :: deed.body.members ∧
      deed.Assembled registry table := by
  obtain ⟨role, there, made⟩ := stands.made
  obtain ⟨_, _, _, whole⟩ := new_role_ok made
  obtain ⟨members, table, assembled, held⟩ := whole full
  obtain ⟨middle, inherited, declared, fresh⟩ := assemble_ok assembled
  refine ⟨role, table, there, held, members, ?_⟩
  refine ⟨?_, ?_, ?_, middle, inherited, fun pair id member => (fresh pair id member).2⟩
  · intro base member held has
    rw [← grown_table stands.grown (stands.bases base member)] at has
    exact bases base member held has
  · rw [List.foldlM_append]
    simp only [passed, declares, inherited]
    exact declared
  · intro pair id member
    have there := (stands.grown.pairs id).subset (stands.declared pair id member)
    exact ⟨⟨(fresh pair id member).1, .inr ⟨id, there⟩⟩, declared_origin sound there⟩

/-- A class with a table is not bare. -/
theorem Stands.full_of_table (stands : deed.Stands registry)
    (has : registry.table? deed.number = some table) : deed.definition.bare = false := by
  obtain ⟨role, there, made⟩ := stands.made
  rw [← Bool.not_eq_true]
  intro bare
  rw [Registry.table?, there, Option.bind_some, ((new_role_ok made).2.2.1 bare).2] at has
  cases has

end Deed

section

variable {registry : Registry} {deeds : List Deed} (told : Told registry deeds)
include told

/-- The tables of the two classes that others are built on have no rules. -/
theorem first_empty {id : Nat} (first : id < 2) {table : Table Nat}
    (has : registry.table? id = some table) : table.rows = [] := by
  have known : ∀ role, Registry.initial.roles[id]? = some role → registry.roles[id]? = some role :=
    told.grown.roles id
  obtain rfl | rfl : id = 0 ∨ id = 1 := by omega
  · rw [Registry.table?, known Registry.root rfl] at has
    cases has
  · rw [Registry.table?, known Registry.base rfl] at has
    cases has
    rfl

/-- All tables are sound, by induction on the number of the class. -/
theorem tables_sound (id : Nat) : ∀ table, registry.table? id = some table →
    table.Sound registry := by
  induction id using Nat.strong_induction_on with
  | _ id inductionHypothesis =>
    intro table has
    obtain ⟨role, there, held⟩ := Option.bind_eq_some_iff.mp has
    have inside : id < registry.roles.size := (Array.getElem?_eq_some_iff.mp there).1
    rcases told.classes id inside with first | ⟨deed, member, rfl⟩
    · have empty := first_empty told first has
      refine ⟨?_, ?_, ?_⟩ <;> simp [empty, Table.keys]
    · have stands := told.stands deed member
      have below : ∀ base ∈ deed.bases, ∀ held, registry.table? base = some held →
          held.Sound registry :=
        fun base member => inductionHypothesis base (stands.bases base member)
      obtain ⟨other, made, again, known, _, assembled⟩ :=
        Deed.stands_assembled told.sound stands below (stands.full_of_table has)
      rw [there] at again
      cases again
      rw [held] at known
      cases known
      exact Deed.assembled_sound stands assembled

/-- The table of the class of a deed was put together from the tables of its bases. -/
theorem deed_assembled {deed : Deed} (member : deed ∈ deeds)
    (full : deed.definition.bare = false) :
    ∃ role table, registry.roles[deed.number]? = some role ∧ role.table = some table ∧
      role.members = (tableField, .table) :: deed.body.members ∧
      deed.Assembled registry table :=
  Deed.stands_assembled told.sound (told.stands deed member)
    (fun base _ => tables_sound told base) full

/-- A table has no rules, or it was put together for a deed. -/
theorem table_cases {id : Nat} {table : Table Nat} (has : registry.table? id = some table) :
    table.rows = [] ∨ ∃ deed ∈ deeds, deed.number = id ∧ deed.Assembled registry table := by
  obtain ⟨role, there, _⟩ := Option.bind_eq_some_iff.mp has
  have inside : id < registry.roles.size := (Array.getElem?_eq_some_iff.mp there).1
  rcases told.classes id inside with first | ⟨deed, member, rfl⟩
  · exact .inl (first_empty told first has)
  · obtain ⟨made, whole, again, tabled, _, assembled⟩ :=
      deed_assembled told member ((told.stands deed member).full_of_table has)
    obtain rfl : whole = table := by
      rw [Registry.table?, again] at has
      exact Option.some.inj (tabled.symm.trans has)
    exact .inr ⟨deed, member, rfl, assembled⟩

end

/-! ## What is found in a table -/

namespace Deed

variable {deed : Deed} {registry : Registry} {table : Table Nat}
variable (sound : registry.Sound) (stands : deed.Stands registry)
variable (assembled : deed.Assembled registry table)
include sound stands assembled

/-- The pairs of a table are those of the bases and then those declared, each at its first
occurrence. A pair may be written as another one that is the same. Adding a rule makes a row for its
pair unless there is one, so the keys are the pairs that are added, each at its first occurrence. -/
theorem table_keys :
    List.Forall₂ (Twins registry.Known) table.keys
      (gathered []
        (deed.bases.flatMap (fun base => ((deed.moment.table? base).map Table.keys).getD []) ++
          deed.body.declared.map Prod.fst)) := by
  have keys := known_keys sound
  have fits := rules_sound stands assembled
  rw [(Table.adding_keys assembled.added).1, List.map_append]
  refine gathered_twins keys .nil (List.rel_append ?_ ?_)
  · -- A rule of a base and the row that it stands in have twins as pairs.
    have each : ∀ base ∈ deed.bases, List.Forall₂ (Twins registry.Known)
        ((((deed.moment.table? base).map Table.rules).getD []).map Rule.pair)
        (((deed.moment.table? base).map Table.keys).getD []) := by
      intro base member
      cases has : deed.moment.table? base with
      | none => exact .nil
      | some held =>
        have below := (assembled.bases base member held has).rows
        simp only [Option.map_some, Option.getD_some, Table.rules, Table.keys, List.map_map,
          List.forall₂_map_left_iff, List.forall₂_map_right_iff, List.forall₂_same]
        exact fun row there => ⟨(below row there).pair, (below row there).key, (below row there).same⟩
    have pairs : deed.passed.map Rule.pair = deed.bases.flatMap fun base =>
        (((deed.moment.table? base).map Table.rules).getD []).map Rule.pair := by
      simp [passed, Registry.passed, List.map_flatMap, Function.comp_def]
    rw [pairs]
    generalize deed.bases = bases at each
    induction bases with
    | nil => exact .nil
    | cons base rest inductionHypothesis =>
      rw [List.flatMap_cons, List.flatMap_cons]
      exact List.rel_append (each base (by simp))
        (inductionHypothesis fun other member => each other (.tail _ member))
  · have same : deed.declares.map Rule.pair = deed.body.declared.map Prod.fst := by
      simp [declares, Body.rules, Function.comp_def]
    rw [same, List.forall₂_map_left_iff, List.forall₂_map_right_iff, List.forall₂_same]
    rintro ⟨pair, id⟩ declared
    obtain ⟨known, origin⟩ := assembled.known pair id declared
    exact ⟨known, known, same_refl origin⟩

/-- Every rule of a base is found, with the function that the class has in place of the base's. The
rule is one of those that the class puts into its empty table, in front of the rules of its body,
and a rule for the same pair that is put in behind it has the same function. -/
theorem finds_inherited {base : Nat} (member : base ∈ deed.bases) {held : Table Nat}
    (has : deed.moment.table? base = some held) {pair : Pair} (asked : registry.Known pair)
    {old : Rule Nat} (found : Table.find? pair held.rows = some old) :
    ∃ new, Table.find? pair table.rows = some new ∧
      new.function = deed.replaced old.function := by
  have keys := known_keys sound
  have fits := rules_sound stands assembled
  obtain ⟨row, there, rfl, same⟩ := Table.find_some found
  have fit := (assembled.bases base member held has).rows row there
  have passes := mem_passed_iff.mpr ⟨base, member, held, has, row, there, rfl⟩
  obtain ⟨new, finds, function⟩ := Table.adding_finds keys assembled.added (by simp [Table.empty])
    (fun rule member => (fits rule member).1) _ (List.mem_append_left _ passes)
  rw [inherit_pair] at finds
  rw [inherit_function] at function
  refine ⟨new, ?_, function⟩
  rw [Table.find_same keys (Table.rows_known (assembled_sound stands assembled).rows) asked fit.pair
    (same_trans keys asked fit.key fit.pair same (same_symm keys fit.pair fit.key fit.same))]
  exact finds

/-- Every declared rule is found, with the function that declares it. -/
theorem finds_declared {pair : Pair} {id : Nat} (declared : (pair, id) ∈ deed.body.declared) :
    ∃ new, Table.find? pair table.rows = some new ∧ new.function = id := by
  have keys := known_keys sound
  have fits := rules_sound stands assembled
  have written : (⟨pair, id, deed.definition.name⟩ : Rule Nat) ∈ deed.declares :=
    List.mem_map.mpr ⟨(pair, id), declared, rfl⟩
  exact Table.adding_finds keys assembled.added (by simp [Table.empty])
    (fun rule member => (fits rule member).1) _ (List.mem_append_right _ written)

/-- A declared rule is found in no base. -/
theorem declared_fresh {pair : Pair} {id : Nat} (declared : (pair, id) ∈ deed.body.declared)
    {base : Nat} (member : base ∈ deed.bases) {held : Table Nat}
    (has : deed.moment.table? base = some held) : Table.find? pair held.rows = none := by
  have keys := known_keys sound
  have fits := rules_sound stands assembled
  have asked := (assembled.known pair id declared).1
  rw [Option.eq_none_iff_forall_ne_some]
  intro old found
  obtain ⟨middle, inherited, fresh⟩ := assembled.fresh
  obtain ⟨row, there, rfl, same⟩ := Table.find_some found
  have fit := (assembled.bases base member held has).rows row there
  have passes := mem_passed_iff.mpr ⟨base, member, held, has, row, there, rfl⟩
  have passing : ∀ rule ∈ deed.passed, rule.Sound registry.Known :=
    fun rule member => (fits rule (List.mem_append_left _ member)).1
  -- The inherited rule has a row among those that the declared pair was compared with.
  obtain ⟨new, finds, _⟩ := Table.adding_finds keys inherited (by simp [Table.empty]) passing _ passes
  rw [inherit_pair] at finds
  obtain ⟨kept, inside, _, again⟩ := Table.find_some finds
  have key := (Table.adding_sound inherited (by simp [Table.empty]) passing kept inside).key
  have both := same_trans keys asked fit.pair key
    (same_trans keys asked fit.key fit.pair same (same_symm keys fit.pair fit.key fit.same)) again
  have apart := List.any_eq_false.mp (fresh pair id declared) kept.key (List.mem_map_of_mem inside)
  exact apart both

/-- What is found was found in a base, or the body declares it. The table starts empty, so what is
found was put into it, by a base or by the body. -/
theorem found_source {pair : Pair} (asked : registry.Known pair) {new : Rule Nat}
    (found : Table.find? pair table.rows = some new) :
    (∃ base ∈ deed.bases, ∃ held old, deed.moment.table? base = some held ∧
      Table.find? pair held.rows = some old ∧ new.function = deed.replaced old.function) ∨
    ∃ declared, (declared, new.function) ∈ deed.body.declared ∧ pair.same declared = true := by
  have keys := known_keys sound
  have fits := rules_sound stands assembled
  have source := Table.adding_source keys assembled.added (by simp [Table.empty])
    (fun rule member => (fits rule member).1) asked found
  rcases source with none | ⟨added, same⟩
  · cases none
  · rcases List.mem_append.mp added with passes | declares
    · exact .inl (passed_source sound assembled.bases passes asked same)
    · obtain ⟨⟨written, id⟩, declared, rfl⟩ := List.mem_map.mp declares
      exact .inr ⟨written, declared, same⟩

end Deed

end Stencil.Conversion
