import Stencil.Proofs.Conversion.Inheritance

/-!
# What a definition keeps

No rule is lost or misplaced when a class is defined: its table has the pairs
of its bases and those that its body declares, in this order, each once
(`Table.Keeps`); whatever it requires is resolved; and the classes that were
there stay as they were, whether the definition succeeds or fails.
-/

namespace Stencil.Conversion

open Code

/-! ## Requiring -/

/-- Checking requirements looks at them one by one, and all of them are resolved. -/
theorem check_yields {table : Table Nat} {requirements : List Requirement} {store final : Store}
    (checked : Build.Yields (Requirement.check table requirements) store () final) :
    ∃ pairs, Build.Yields (requirements.mapM Requirement.toPair) store pairs final ∧
      ∀ pair ∈ pairs, ∃ rule, table.resolve pair = .ok rule := by
  induction requirements generalizing store with
  | nil =>
    cases checked
    exact ⟨[], rfl, by simp⟩
  | cons requirement rest inductionHypothesis =>
    rw [Requirement.check, Build.bind_yields_iff] at checked
    obtain ⟨pair, middle, taken, checked⟩ := checked
    rw [Build.bind_yields_iff] at checked
    obtain ⟨rule, between, resolved, behind⟩ := checked
    obtain ⟨pairs, others, all⟩ := inductionHypothesis behind
    obtain ⟨held, rfl⟩ := Build.lift_yields_iff.mp resolved
    refine ⟨pair :: pairs, ?_, ?_⟩
    · rw [List.mapM_cons]
      exact Build.bind_yields taken (Build.bind_yields others (Build.pure_yields _ _))
    · intro other member
      rcases List.mem_cons.mp member with rfl | later
      · exact ⟨rule, held⟩
      · exact all other later

/-- What a role requires depends on the classes alone. -/
theorem required_congr {registry other : Registry} (roles : registry.roles = other.roles)
    (order : List Nat) : registry.required order = other.required order := by
  have members (field : String) : registry.member? order field = other.member? order field := by
    rw [Registry.member?, Registry.member?, roles]
  have ends (side : Side) : registry.end? order side = other.end? order side := by
    rw [Registry.end?, Registry.end?, members]
  have names (id : Nat) : registry.roleName id = other.roleName id := by
    rw [Registry.roleName, Registry.roleName, roles]
  rw [Registry.required, Registry.required, Registry.conversion?, Registry.conversion?, members,
    ends, ends, names]

/-- A role that is checked resolves what it requires. -/
theorem required_resolved {registry after : Registry} {role : Role} {table : Table Nat}
    {store final : Store} (has : role.table = some table)
    (checked : (Assembly.checkRequired role).Yields registry store () after final) :
    ∃ pairs,
      Build.Yields (do
        (← { registry with roles := registry.roles.push role }.required role.order).mapM
          Requirement.toPair) store pairs final ∧
      ∀ pair ∈ pairs, ∃ rule, table.resolve pair = .ok rule := by
  unfold Assembly.checkRequired at checked
  rw [has] at checked
  rw [Assembly.get_bind_yields, Assembly.bind_yields_iff] at checked
  obtain ⟨_, _, _, callable, checked⟩ := checked
  obtain ⟨_, rfl, rfl⟩ := Assembly.lift_yields_iff.mp callable
  rw [Assembly.building_yields_iff, Build.bind_yields_iff] at checked
  obtain ⟨⟨requirements, middle, listed, checked⟩, _⟩ := checked
  obtain ⟨pairs, taken, all⟩ := check_yields checked
  exact ⟨pairs, Build.bind_yields listed taken, all⟩

/-! ## The rules of a new class -/

/-- What a table keeps of the tables of the bases, and of what the body declares: the pairs in
their order, each once; for an inherited pair the function without pairs that the body finally
binds to the name of the base's function, or else the base's function; for a declared pair, which
no base has, the function that declares it. -/
structure Table.Keeps (table : Table Nat) (moment : Registry) (bases : List Nat) (body : Body) :
    Prop where
  keys : List.Forall₂ (fun key pair => key.same pair = true) table.keys
    (gathered []
      (bases.flatMap (fun base => ((moment.table? base).map Table.keys).getD []) ++
        body.declared.map Prod.fst))
  once : table.keys.Pairwise fun key later => later.same key = false
  inherited : ∀ base ∈ bases, ∀ held, moment.table? base = some held → ∀ key ∈ held.keys,
    ∃ old new, held.resolve key = .ok old ∧ table.resolve key = .ok new ∧
      new.function = (moment.plain? body (moment.nameOf old.function)).getD old.function
  declared : ∀ pair id, (pair, id) ∈ body.declared →
    (∃ new, table.resolve pair = .ok new ∧ new.function = id) ∧
      ∀ base ∈ bases, ∀ held, moment.table? base = some held → held.contains pair = .ok false

/-- A key of a sound table is resolved there. -/
theorem Table.key_found {registry : Registry} (sound : registry.Sound) {table : Table Nat}
    (fits : table.Sound registry) {key : Pair} (member : key ∈ table.keys) :
    registry.Known key ∧ ∃ rule, Table.find? key table.rows = some rule := by
  obtain ⟨row, there, rfl⟩ := List.mem_map.mp member
  have fit := fits.rows row there
  exact ⟨fit.key, row.rule, Table.find_row (known_keys sound) fits.rows fits.once there fit.key
    (same_refl fit.first)⟩

/-- The table that is put together for a deed keeps the rules. -/
theorem Deed.assembled_keeps {deed : Deed} {registry : Registry} {table : Table Nat}
    (sound : registry.Sound) (stands : deed.Stands registry)
    (assembled : deed.Assembled registry table) :
    table.Keeps deed.moment deed.bases deed.body where
  keys := (Deed.table_keys sound stands assembled).imp fun _ _ twins => twins.same
  once := (assembled_sound stands assembled).once
  inherited := by
    intro base member held has key inside
    obtain ⟨known, old, found⟩ :=
      Table.key_found sound (assembled.bases base member held has) inside
    obtain ⟨new, finds, function⟩ :=
      finds_inherited sound stands assembled member has known found
    exact ⟨old, new, Table.resolve_ok_iff.mpr ⟨known.1, found⟩,
      Table.resolve_ok_iff.mpr ⟨known.1, finds⟩, function⟩
  declared := by
    intro pair id declared
    have key := (assembled.known pair id declared).1.1
    obtain ⟨new, finds, function⟩ := finds_declared sound stands assembled declared
    refine ⟨⟨new, Table.resolve_ok_iff.mpr ⟨key, finds⟩, function⟩, ?_⟩
    intro base member held has
    rw [Table.contains, Table.get?, key,
      declared_fresh sound stands assembled declared member has]
    rfl

/-- No rule is lost or misplaced by a definition, on whatever registry a history leads to. Whether
it succeeds or fails, the classes that were there stay as they were. If it succeeds and the class is
not bare, the class has a table that keeps the rules of its bases and of its body, where whatever the
class requires is resolved.

Proof: classes are only added to a registry, by induction on its history. A class with a table got
it from the tables of its bases and from its body (`deed_assembled`). There the rules are added in
order, the bases' first, and a rule for a pair that is there is refused, dropped or put in place of
the other one; that is what it means to keep them (`assembled_keeps`). -/
theorem definition_keeps_rules {registry : Registry} {deeds : List Deed}
    (history : History registry deeds) (definition : Definition) (store : Store) :
    (∀ fault after final, (Assembly.define definition).Fails registry store fault after final →
      ∀ id < registry.roles.size, after.roles[id]? = registry.roles[id]?) ∧
    ∀ id after final, (Assembly.define definition).Yields registry store id after final →
      (∀ id < registry.roles.size, after.roles[id]? = registry.roles[id]?) ∧
      (definition.bare = false →
        ∃ bases given body moment role table,
          List.Forall₂ (fun name base => registry.names.lookup name = some base) definition.bases
            bases ∧
          Assigns registry definition.lines given moment ∧
          body = given.foldl Body.assigned .empty ∧
          body.declared = given.flatMap Assignment.declared ∧
          moment.roles = registry.roles ∧
          after.roles[id]? = some role ∧ role.table = some table ∧
          table.Keeps moment bases body ∧
          ∃ pairs,
            Build.Yields (do (← after.required role.order).mapM Requirement.toPair) store pairs
              final ∧
            ∀ pair ∈ pairs, ∃ rule, table.resolve pair = .ok rule) := by
  have told := history_told history
  have frame {after : Registry} (grown : registry.Grown after) :
      ∀ id < registry.roles.size, after.roles[id]? = registry.roles[id]? := by
    intro id inside
    have there := Array.getElem?_eq_getElem inside
    rw [there]
    exact grown.roles id _ there
  refine ⟨?_, ?_⟩
  · intro fault after final fails
    exact frame (Assembly.fails_kept told.sound fails).2.1
  · intro id after final made
    obtain ⟨bases, body, moment, role, based, lines, created, checked, rfl, rfl⟩ :=
      Assembly.define_yields made
    have done : Deed.Done ⟨definition, bases, body, moment⟩ registry store := ⟨based, lines⟩
    obtain ⟨_, grown, _⟩ := Assembly.done_stands told.sound done made
    refine ⟨frame grown, ?_⟩
    intro full
    obtain ⟨given, assigns, written, _⟩ := Assembly.body_yields lines
    have later := history_told (History.made history done made)
    have last : (⟨definition, bases, body, moment⟩ : Deed) ∈
        deeds ++ [⟨definition, bases, body, moment⟩] := by simp
    obtain ⟨held, table, there, has, _, assembled⟩ := deed_assembled later last full
    have same : held = role := by
      simpa [Deed.number, Registry.withRole] using there.symm
    subst same
    obtain ⟨pairs, required, all⟩ := required_resolved has checked
    refine ⟨bases, given, body, moment, held, table, (Assembly.bases_of_yields based).2.2.2.1 full,
      assigns, written, ?_, (Assembly.body_kept told.sound lines).2.2.1, there, has,
      Deed.assembled_keeps later.sound (later.stands _ last) assembled, pairs, ?_, all⟩
    · rw [written, assigned_declared]
      rfl
    · have same : (moment.withRole definition.name held registry.functions.size).required held.order =
          { moment with roles := moment.roles.push held }.required held.order := required_congr rfl _
      rw [same]
      exact required

/-- A role that overrides a function and declares another one keeps the rules. -/
theorem override_kept :
    (∃ deeds, History (Registry.initial.defined printing) deeds) ∧
      (Assembly.define bracketing).Yields (Registry.initial.defined printing) .empty 3
        ((Registry.initial.defined printing).defined bracketing) .empty ∧
      bracketing.bare = false ∧
      ∃ bases body moment role table,
        ((Registry.initial.defined printing).defined bracketing).roles[3]? = some role ∧
          role.table = some table ∧ Table.Keeps table moment bases body := by
  have history := history_defined .start printing rfl
  have made : (Assembly.define bracketing).Yields (Registry.initial.defined printing) .empty 3
      ((Registry.initial.defined printing).defined bracketing) .empty := rfl
  obtain ⟨bases, _, body, moment, role, table, _, _, _, _, _, there, has, keeps, _⟩ :=
    ((definition_keeps_rules history bracketing .empty).2 3 _ _ made).2 rfl
  exact ⟨⟨_, history⟩, made, rfl, bases, body, moment, role, table, there, has, keeps⟩

/-- The inherited pair goes to the new function of the name. -/
example : (((Registry.initial.defined printing).defined bracketing).table? 3).map
    (fun table => table.rules.map Rule.function) = some [1, 2] := rfl

/-- A role with a rule whose function goes by the name that a class's input tag is bound to. -/
def fronting : Definition :=
  ⟨"Fronting", ["Role"],
    [.define "INPUT_TYPE" "INPUT_TYPE" [.ofTags (.kind "int") (.kind "str")] .value none],
    none, none, none, false, []⟩

/-- A role on it whose input tag is a kind. -/
def typing : Definition :=
  ⟨"Typing", ["Fronting"], [], some (.kind "float"), none, none, false, []⟩

/-- A kind can be called, so it takes the place of the function that is inherited by its name. -/
example : ((((Registry.initial.defined fronting).defined typing).table? 3).map fun table =>
    table.rules.map fun rule =>
      ((Registry.initial.defined fronting).defined typing).nameOf rule.function) =
    some ["float"] := rfl

end Stencil.Conversion
