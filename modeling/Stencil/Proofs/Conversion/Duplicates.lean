import Mathlib.Logic.Relation
import Stencil.Proofs.Conversion.Refusing

/-!
# What a duplicate rule means

Every rule of a class goes back to a registration: the class or one that it is
built on declares the pair, and the function is the declared one unless a class
on the way has overridden it (`found_registered`, by induction on the class).

So a definition that is refused for a duplicate rule either has two
registrations of the pair among its body and the classes that it is built on, or
its bases have parted: one of them has the registered function and another one
an overriding function, and functions are compared, not registrations
(`duplicate_explained`).
-/

namespace Stencil.Conversion

open Code

/-- A class names another one among its bases. -/
def BuiltOn (deeds : List Deed) (id base : Nat) : Prop :=
  ∃ deed ∈ deeds, deed.number = id ∧ base ∈ deed.bases

/-- A body registers a pair with a function: it declares the pair, or one that is the same. -/
def Body.Registers (body : Body) (pair : Pair) (function : Nat) : Prop :=
  ∃ declared, (declared, function) ∈ body.declared ∧ pair.same declared = true

/-- A class or one that it is built on registers a pair with a function. The way up goes through the
bases that classes were made with, however many there are between. -/
def Registered (deeds : List Deed) (id : Nat) (pair : Pair) (function : Nat) : Prop :=
  ∃ deed ∈ deeds, Relation.ReflTransGen (BuiltOn deeds) id deed.number ∧
    deed.body.Registers pair function

/-- A class or one that it is built on has put a function without pairs in place of the one that
its base has for a pair. -/
def Overridden (deeds : List Deed) (id : Nat) (pair : Pair) (function : Nat) : Prop :=
  ∃ deed ∈ deeds, Relation.ReflTransGen (BuiltOn deeds) id deed.number ∧
    ∃ base ∈ deed.bases, ∃ held old, deed.moment.table? base = some held ∧
      held.resolve pair = .ok old ∧
      deed.moment.plain? deed.body (deed.moment.nameOf old.function) = some function

/-- A registration of a pair that counts for a new class: one of its body or of a class that it is
built on. -/
def Counted (deeds : List Deed) (bases : List Nat) (body : Body) (pair : Pair) (function : Nat) :
    Prop :=
  body.Registers pair function ∨ ∃ base ∈ bases, Registered deeds base pair function

/-- A pair is registered twice for a new class: with two functions, or by the body again after a
class that it is built on. -/
def Doubled (deeds : List Deed) (bases : List Nat) (body : Body) (pair : Pair) : Prop :=
  (∃ first second, first ≠ second ∧ Counted deeds bases body pair first ∧
    Counted deeds bases body pair second) ∨
  ((∃ function, body.Registers pair function) ∧
    ∃ base ∈ bases, ∃ function, Registered deeds base pair function)

/-- Two bases of a new class have parted over a pair: both have it from a registration with one
function, but they have different functions for it, since a class above has overridden it, and the
body of the new class puts no function of its own in place of both. -/
def Parted (registry : Registry) (deeds : List Deed) (bases : List Nat) (body : Body)
    (pair : Pair) : Prop :=
  ∃ left ∈ bases, ∃ right ∈ bases, ∃ one other first second,
    registry.table? left = some one ∧ registry.table? right = some other ∧
    one.resolve pair = .ok first ∧ other.resolve pair = .ok second ∧
    first.function ≠ second.function ∧
    (registry.plain? body (registry.nameOf first.function)).getD first.function ≠
      (registry.plain? body (registry.nameOf second.function)).getD second.function ∧
    ∃ function, Registered deeds left pair function ∧ Registered deeds right pair function ∧
      (Overridden deeds left pair first.function ∨ Overridden deeds right pair second.function)

section

variable {registry : Registry} {deeds : List Deed}

/-- What is registered above a base is registered above the class. -/
theorem registered_above {deed : Deed} (member : deed ∈ deeds) {base : Nat}
    (written : base ∈ deed.bases) {pair : Pair} {function : Nat}
    (registered : Registered deeds base pair function) :
    Registered deeds deed.number pair function := by
  obtain ⟨other, there, above, registers⟩ := registered
  exact ⟨other, there, .head ⟨deed, member, rfl, written⟩ above, registers⟩

/-- What is overridden above a base is overridden above the class. -/
theorem overridden_above {deed : Deed} (member : deed ∈ deeds) {base : Nat}
    (written : base ∈ deed.bases) {pair : Pair} {function : Nat}
    (overridden : Overridden deeds base pair function) :
    Overridden deeds deed.number pair function := by
  obtain ⟨other, there, above, replaced⟩ := overridden
  exact ⟨other, there, .head ⟨deed, member, rfl, written⟩ above, replaced⟩

/-- Every rule goes back to a registration, and its function is the registered one or one that was
put in its place. The induction is on the class. -/
theorem found_registered (told : Told registry deeds) {pair : Pair} (asked : registry.Known pair)
    {id : Nat} {table : Table Nat} (has : registry.table? id = some table) {rule : Rule Nat}
    (found : Table.find? pair table.rows = some rule) :
    ∃ first, Registered deeds id pair first ∧
      (rule.function = first ∨ Overridden deeds id pair rule.function) := by
  induction id using Nat.strong_induction_on generalizing table rule with
  | _ id inductionHypothesis =>
    rcases table_cases told has with empty | ⟨deed, member, rfl, assembled⟩
    · rw [empty] at found
      cases found
    · have stands := told.stands deed member
      rcases Deed.found_source told.sound stands assembled asked found with
        ⟨base, written, below, old, earlier, gets, replaced⟩ | ⟨declared, written, same⟩
      · have known : registry.table? base = some below := by
          rw [grown_table stands.grown (stands.bases base written)]
          exact earlier
        obtain ⟨first, registered, kept⟩ :=
          inductionHypothesis base (stands.bases base written) known gets
        refine ⟨first, registered_above member written registered, ?_⟩
        rw [replaced, Deed.replaced]
        cases plain : deed.moment.plain? deed.body (deed.moment.nameOf old.function) with
        | none => exact kept.imp_right (overridden_above member written)
        | some id =>
          exact .inr ⟨deed, member, .refl, base, written, below, old, earlier,
            Table.resolve_ok_iff.mpr ⟨asked.1, gets⟩, plain⟩
      · exact ⟨rule.function, ⟨deed, member, .refl, declared, written, same⟩, .inl rfl⟩

/-- The bases of a class that is being put together have sound tables. -/
theorem present_sound (told : Told registry deeds) (deed : Deed) (now : deed.moment = registry) :
    ∀ base ∈ deed.bases, ∀ held, deed.moment.table? base = some held → held.Sound registry := by
  rw [now]
  exact fun base _ => tables_sound told base

/-- A rule that passes to a new class goes back to a registration above one of its bases. -/
theorem passed_registered (told : Told registry deeds) (deed : Deed)
    (now : deed.moment = registry) {rule : Rule Nat} (passes : rule ∈ deed.passed) {pair : Pair}
    (asked : registry.Known pair) (same : pair.same rule.pair = true) :
    ∃ base ∈ deed.bases, ∃ held old first, registry.table? base = some held ∧
      held.resolve pair = .ok old ∧ rule.function = deed.replaced old.function ∧
      Registered deeds base pair first ∧
      (old.function = first ∨ Overridden deeds base pair old.function) := by
  obtain ⟨base, written, held, old, has, found, replaced⟩ :=
    Deed.passed_source told.sound (present_sound told deed now) passes asked same
  rw [now] at has
  obtain ⟨first, registered, kept⟩ := found_registered told asked has found
  exact ⟨base, written, held, old, first, has, Table.resolve_ok_iff.mpr ⟨asked.1, found⟩, replaced,
    registered, kept⟩

/-- Where the inherited rules of a new class are refused, a pair has two registrations, or two bases
have parted. Two bases have the pair with different functions. If these go back to one registration
the bases have parted, otherwise the pair was registered twice. -/
theorem inherited_explained (told : Told registry deeds) (deed : Deed)
    (now : deed.moment = registry) {role input output : String}
    (refused : deed.passed.foldlM Table.add (.empty deed.definition.name) =
      .error (.duplicateRule role input output)) :
    ∃ pair : Pair, role = deed.definition.name ∧ input = pair.input.label ∧
      output = pair.output.label ∧
      (Doubled deeds deed.bases deed.body pair ∨
        Parted registry deeds deed.bases deed.body pair) := by
  have keys := known_keys told.sound
  have fits := Deed.passed_sound (present_sound told deed now)
  obtain ⟨before, rule, behind, table, whole, added, clash⟩ := fold_error refused
  have there : rule ∈ deed.passed := by simp [whole]
  have fit := fits rule there
  rcases Table.add_error clash with unfit | ⟨is, earlier, found, differ⟩
  · cases key_spares unfit
  · have owner : table.role = deed.definition.name := (Table.adding_keys added).2
    rw [Table.duplicate, owner] at is
    cases is
    refine ⟨rule.pair, rfl, rfl, rfl, ?_⟩
    have sources := Table.adding_source keys added (by simp [Table.empty])
      (fun other member => fits other (by simp [whole, member])) fit.pair found
    rcases sources with none | ⟨member, same⟩
    · cases none
    · obtain ⟨left, inside, one, first, registered, hasOne, getsOne, replaced, above, kept⟩ :=
        passed_registered told deed now (by simp [whole, member]) fit.pair same
      obtain ⟨right, within, other, second, again, hasOther, getsOther, exchanged, beyond, held⟩ :=
        passed_registered told deed now there fit.pair (same_refl fit.declared)
      by_cases equal : registered = again
      · subst equal
        rw [replaced, exchanged] at differ
        refine .inr ⟨left, inside, right, within, one, other, first, second, hasOne, hasOther,
          getsOne, getsOther, fun alike => differ (by rw [alike]), ?_, registered, above, beyond, ?_⟩
        · rw [← now]
          exact differ
        · -- If neither was overridden, both would have the registered function.
          rcases kept with original | overridden
          · rcases held with also | overridden
            · exact absurd (by rw [original, also]) differ
            · exact .inr overridden
          · exact .inl overridden
      · exact .inl (.inl ⟨registered, again, equal, .inr ⟨left, inside, above⟩,
          .inr ⟨right, within, beyond⟩⟩)

/-- Where a declared rule of a new class is refused, its pair has two registrations. The rule is
refused because the table has another function for the pair, which is one that a base passed on or
that the body declared before; a base's function goes back to a registration above it. -/
theorem declared_explained (told : Told registry deeds) (deed : Deed)
    (now : deed.moment = registry)
    (declares : ∀ pair id, (pair, id) ∈ deed.body.declared → pair ∈ registry.pairsOf id)
    {start : Table Nat}
    (inherited : deed.passed.foldlM Table.add (.empty deed.definition.name) = .ok start)
    {role input output : String}
    (refused : deed.body.declared.foldlM (Registry.addDeclared start.keys) start =
      .error (.duplicateRule role input output)) :
    ∃ pair : Pair, role = deed.definition.name ∧ input = pair.input.label ∧
      output = pair.output.label ∧ Doubled deeds deed.bases deed.body pair := by
  have keys := known_keys told.sound
  have fits := Deed.passed_sound (present_sound told deed now)
  obtain ⟨before, pair, id, behind, table, whole, added, unfit | ⟨fit, is, clash⟩⟩ :=
    declared_refused refused
  · cases key_spares unfit
  obtain ⟨rules, checked⟩ := Table.adding_declared added
  have named : table.role = deed.definition.name :=
    (Table.adding_keys rules).2.trans (Table.adding_keys inherited).2
  rw [Table.duplicate, named] at is
  cases is
  refine ⟨pair, rfl, rfl, rfl, ?_⟩
  have written : (pair, id) ∈ deed.body.declared := by simp [whole]
  have known : registry.Known pair := ⟨fit, .inr ⟨id, declares pair id written⟩⟩
  have registers : deed.body.Registers pair id :=
    ⟨pair, written, same_refl (declared_origin told.sound (declares pair id written))⟩
  -- A rule that passes to the class and has the pair goes back to a registration of its own.
  have doubled (rule : Rule Nat) (passes : rule ∈ deed.passed)
      (same : pair.same rule.pair = true) : Doubled deeds deed.bases deed.body pair := by
    obtain ⟨base, inside, _, _, first, _, _, _, registered, _⟩ :=
      passed_registered told deed now passes known same
    exact .inr ⟨⟨id, registers⟩, base, inside, first, registered⟩
  rcases clash with again | ⟨held, found, differ⟩
  · -- The pair was compared with those inherited, which stand in rows of inherited rules.
    obtain ⟨key, listed, same⟩ := List.any_eq_true.mp again
    obtain ⟨row, there, rfl⟩ := List.mem_map.mp listed
    have sound := Table.adding_sound inherited (by simp [Table.empty]) fits row there
    rcases Table.adding_rules inherited row there with passes | none
    · exact doubled row.rule passes (same_trans keys known sound.key sound.pair same
        (same_symm keys sound.pair sound.key sound.same))
    · cases none
  · have all : (deed.passed ++ before.map fun each =>
        (⟨each.1, each.2, start.role⟩ : Rule Nat)).foldlM Table.add
          (.empty deed.definition.name) = .ok table := by
      rw [List.foldlM_append, inherited]
      exact rules
    have sources := Table.adding_source keys all (by simp [Table.empty]) ?_ known found
    · rcases sources with none | ⟨member, same⟩
      · cases none
      · rcases List.mem_append.mp member with passes | declared
        · exact doubled held passes same
        · obtain ⟨⟨other, first⟩, earlier, rfl⟩ := List.mem_map.mp declared
          exact .inl ⟨first, id, differ, .inl ⟨other, by simp [whole, earlier], same⟩,
            .inl registers⟩
    · intro rule member
      rcases List.mem_append.mp member with passes | declared
      · exact fits rule passes
      · obtain ⟨⟨other, first⟩, earlier, rfl⟩ := List.mem_map.mp declared
        have there := declares other first (by simp [whole, earlier])
        exact ⟨⟨(checked _ earlier).1, .inr ⟨first, there⟩⟩, declared_origin told.sound there⟩

end

/-- A definition that is refused for a duplicate rule has two registrations of the pair that the
fault names, or two of its bases have parted over it.

Proof: the fault comes from a rule that is added where the pair has another function, either among
the rules of the bases or behind these among those of the body. Both functions are followed up to
the classes that registered them, or to one that put its own in the place of an inherited function
(`inherited_explained`, `declared_explained`). -/
theorem duplicate_explained {registry after : Registry} {deeds : List Deed}
    (history : History registry deeds) {definition : Definition} {store final : Store}
    {role input output : String}
    (fails : (Assembly.define definition).Fails registry store (.duplicateRule role input output)
      after final) :
    ∃ bases body pair,
      (Assembly.basesOf definition).Yields registry store bases registry store ∧
      (Assembly.body definition).Yields registry store body after store ∧
      role = definition.name ∧ input = pair.input.label ∧ output = pair.output.label ∧
      (Doubled deeds bases body pair ∨ Parted after deeds bases body pair) := by
  have told := history_told (.failed history fails)
  obtain ⟨bases, body, based, lines, refused⟩ := duplicate_refused fails rfl
  refine ⟨bases, body, ?_⟩
  unfold Registry.assemble at refused
  rcases bind_error refused with passing | ⟨middle, inherited, declaring⟩
  · obtain ⟨pair, named, first, second, explained⟩ :=
      inherited_explained told ⟨definition, bases, body, after⟩ rfl passing
    exact ⟨pair, based, lines, named, first, second, explained⟩
  · have declares := (Assembly.body_kept (history_told history).sound lines).2.2.2.1
    obtain ⟨pair, named, first, second, doubled⟩ :=
      declared_explained told ⟨definition, bases, body, after⟩ rfl declares inherited declaring
    exact ⟨pair, based, lines, named, first, second, .inl doubled⟩

/-- A role that declares a pair that it has from its base. -/
def repeating : Definition :=
  ⟨"Repeating", ["Printing"],
    [.define "render" "render" [.ofTags (.kind "int") (.kind "str")] .value none],
    none, none, none, false, []⟩

/-- A pair that is declared again is refused, and it was registered before. -/
theorem repeated_explained :
    (∃ after, (Assembly.define repeating).Fails (Registry.initial.defined printing) .empty
        (.duplicateRule "Repeating" "int" "str") after .empty) ∧
      ∃ after bases body pair, "int" = pair.input.label ∧ "str" = pair.output.label ∧
        (Doubled [Registry.initial.deed printing] bases body pair ∨
          Parted after [Registry.initial.deed printing] bases body pair) := by
  have history := history_defined .start printing rfl
  have fails : (Assembly.define repeating).Fails (Registry.initial.defined printing) .empty
      (.duplicateRule "Repeating" "int" "str")
      ((Registry.initial.defined printing).defined repeating) .empty := rfl
  obtain ⟨bases, body, pair, _, _, _, input, output, explained⟩ :=
    duplicate_explained history fails
  exact ⟨⟨_, fails⟩, _, bases, body, pair, input, output, explained⟩

/-- A role that shows integers its own way. -/
def overriding : Definition :=
  ⟨"Left", ["Printing"], [.define "show" "show" [] (.text "override") none], none, none, none,
    false, []⟩

/-- A role that shows integers as its base does. -/
def inheriting : Definition := ⟨"Right", ["Printing"], [], none, none, none, false, []⟩

/-- A role built on both. -/
def joining : Definition := ⟨"Both", ["Left", "Right"], [], none, none, none, false, []⟩

/-- The classes below the joining one. -/
def Registry.forked : Registry :=
  ((Registry.initial.defined printing).defined overriding).defined inheriting

/-- What those classes were defined by. -/
def forks : List Deed :=
  [Registry.initial.deed printing, (Registry.initial.defined printing).deed overriding,
    ((Registry.initial.defined printing).defined overriding).deed inheriting]

/-- A definition is refused for a duplicate rule though one function alone was ever registered: one
of its two bases has overridden the function, and the other one has not. -/
theorem fork_refused :
    History .forked forks ∧
      (Assembly.basesOf joining).Yields .forked .empty [3, 4] .forked .empty ∧
      (Assembly.body joining).Yields .forked .empty .empty .forked .empty ∧
      (Assembly.define joining).Fails .forked .empty (.duplicateRule "Both" "int" "str") .forked
        .empty ∧
      ∀ pair, ¬Doubled forks [3, 4] .empty pair := by
  have history : History .forked forks := history_defined (history_defined (history_defined .start
    printing rfl) overriding rfl) inheriting rfl
  have once : (forks.all fun deed => deed.body.declared.all fun declared => declared.2 == 0) =
      true := rfl
  refine ⟨history, rfl, rfl, rfl, ?_⟩
  intro pair doubled
  have single {function : Nat} (counted : Counted forks [3, 4] .empty pair function) :
      function = 0 := by
    rcases counted with ⟨_, member, _⟩ | ⟨_, _, deed, there, _, declared, member, _⟩
    · cases member
    · have each := List.all_eq_true.mp (List.all_eq_true.mp once deed there) _ member
      exact beq_iff_eq.mp each
  rcases doubled with ⟨first, second, differ, one, other⟩ | ⟨⟨_, _, member, _⟩, _⟩
  · exact differ ((single one).trans (single other).symm)
  · cases member

end Stencil.Conversion
