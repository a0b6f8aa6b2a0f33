import Stencil.Proofs.Conversion.Defining

/-!
# Histories

The functions and classes that there are come from a history: functions were
written, and classes were defined one after another, or their definition
failed. Nothing that was there is ever taken back (`Registry.Grown`): a
function keeps its name and the pairs that it declared, and a class stays as it
was made.

What a definition that succeeded did is a deed. It keeps the registry of the
moment at which the class was put together, since what a function declares
later has no part in the class.
-/

namespace Stencil.Conversion

open Code

/-! ## Growing registries -/

/-- Functions and classes are kept, and functions may declare more. Tables and members of classes
that are there do not change; only what a function declares may become more. -/
structure Registry.Grown (before after : Registry) : Prop where
  size : before.functions.size ≤ after.functions.size
  names : ∀ id < before.functions.size, after.nameOf id = before.nameOf id
  pairs : ∀ id, before.pairsOf id <+: after.pairsOf id
  kinds : before.kinds <+: after.kinds
  roles : ∀ (id : Nat) (role : Role), before.roles[id]? = some role → after.roles[id]? = some role

/-- The pairs of functions know where they were declared, and labels, tags and names lead to functions
and classes that are there. -/
structure Registry.Sound (registry : Registry) : Prop where
  origins : ∀ (id index : Nat) (pair : Pair), (registry.pairsOf id)[index]? = some pair →
    pair.origin = some ⟨id, index⟩
  labels : ∀ label id, registry.labels.lookup label = some id → id < registry.functions.size
  kinds : ∀ entry ∈ registry.kinds, entry.2 < registry.functions.size
  names : ∀ name id, registry.names.lookup name = some id → id < registry.roles.size

/-- A pair that can be a key, which is written by hand or declared by a function. -/
def Registry.Known (registry : Registry) (pair : Pair) : Prop :=
  pair.checkKey = .ok () ∧ (pair.origin = none ∨ ∃ id, pair ∈ registry.pairsOf id)

section

variable {before middle after registry : Registry}

/-- A registry that did not change has grown. -/
theorem grown_refl (registry : Registry) : registry.Grown registry :=
  ⟨le_refl _, fun _ _ => rfl, fun _ => List.prefix_rfl, List.prefix_rfl, fun _ _ => id⟩

/-- Growing goes on. -/
theorem grown_trans (first : before.Grown middle) (second : middle.Grown after) :
    before.Grown after where
  size := first.size.trans second.size
  names := fun id inside =>
    (second.names id (inside.trans_le first.size)).trans (first.names id inside)
  pairs := fun id => (first.pairs id).trans (second.pairs id)
  kinds := first.kinds.trans second.kinds
  roles := fun id role there => second.roles id role (first.roles id role there)

/-- What is known stays known. -/
theorem known_mono (grown : before.Grown after) {pair : Pair} (known : before.Known pair) :
    after.Known pair := by
  obtain ⟨key, written | ⟨id, declared⟩⟩ := known
  · exact ⟨key, .inl written⟩
  · exact ⟨key, .inr ⟨id, (grown.pairs id).subset declared⟩⟩

/-- The pairs that are known are keys: a pair's origin tells which of a function's pairs it is. -/
theorem known_keys (sound : registry.Sound) : Keys registry.Known where
  hashable := fun _ known => known.1
  single := by
    rintro first second ⟨_, left⟩ ⟨_, right⟩ some same
    have place {pair : Pair} (declared : pair.origin = none ∨ ∃ id, pair ∈ registry.pairsOf id)
        (is : pair.origin.isSome) : ∃ id index : Nat, (registry.pairsOf id)[index]? = .some pair ∧
          pair.origin = .some ⟨id, index⟩ := by
      rcases declared with none | ⟨id, member⟩
      · rw [none] at is
        cases is
      · obtain ⟨index, there⟩ := List.mem_iff_getElem?.mp member
        exact ⟨id, index, there, sound.origins id index pair there⟩
    obtain ⟨id, index, there, origin⟩ := place left some
    obtain ⟨other, position, again, another⟩ := place right (same ▸ some)
    rw [origin, another] at same
    cases same
    rw [there] at again
    exact Option.some.inj again

/-- A pair that a function declares knows where that was. -/
theorem declared_origin (sound : registry.Sound) {pair : Pair} {id : Nat}
    (declared : pair ∈ registry.pairsOf id) : pair.origin.isSome := by
  obtain ⟨index, there⟩ := List.mem_iff_getElem?.mp declared
  rw [sound.origins id index pair there]
  rfl

/-- A kind that is known as a function is known as the same function later. -/
theorem kind_mono (grown : before.Grown after) {tag : Tag} {id : Nat}
    (known : before.kindOf? tag = some id) : after.kindOf? tag = some id := by
  obtain ⟨more, whole⟩ := grown.kinds
  obtain ⟨entry, found, rfl⟩ := Option.map_eq_some_iff.mp known
  rw [Registry.kindOf?, ← whole, List.find?_append, found]
  rfl

/-- A kind that is known as a function is a function that is there. -/
theorem kind_inside (sound : registry.Sound) {tag : Tag} {id : Nat}
    (known : registry.kindOf? tag = some id) : id < registry.functions.size := by
  obtain ⟨entry, found, rfl⟩ := Option.map_eq_some_iff.mp known
  exact sound.kinds entry (List.mem_of_find?_eq_some found)

/-- Classes that were there have the same table. -/
theorem grown_table (grown : before.Grown after) {id : Nat} (inside : id < before.roles.size) :
    after.table? id = before.table? id := by
  have there := Array.getElem?_eq_getElem inside
  rw [Registry.table?, Registry.table?, grown.roles id _ there, there]

/-- Classes that were there have the same order. -/
theorem grown_order (grown : before.Grown after) {id : Nat} (inside : id < before.roles.size) :
    after.orderOf id = before.orderOf id := by
  have there := Array.getElem?_eq_getElem inside
  rw [Registry.orderOf, Registry.orderOf, grown.roles id _ there, there]

end

/-! ## Steps that let a registry grow -/

section

variable {registry : Registry}

/-- The pairs that a function declares know their places. -/
theorem placed_get (function count : Nat) (pairs : List Pair) (index : Nat) :
    (Assembly.placed function count pairs)[index]? =
      pairs[index]?.map fun pair => { pair with origin := some ⟨function, count + index⟩ } := by
  induction pairs generalizing count index with
  | nil => simp [Assembly.placed]
  | cons pair rest inductionHypothesis =>
    cases index with
    | zero => simp [Assembly.placed]
    | succ index => simp [Assembly.placed, inductionHypothesis, Nat.add_comm, Nat.add_left_comm]

/-- What is declared after a new function was written. -/
theorem pairs_with_function (name : String) (pairs : List Pair) (callee : Callee)
    (label : Option String) (id : Nat) :
    (registry.withFunction name pairs callee label).pairsOf id =
      if id = registry.functions.size then Assembly.placed id 0 pairs else registry.pairsOf id := by
  simp only [Registry.pairsOf, Registry.withFunction, Array.getElem?_push]
  split
  · rename_i last
    subst last
    rfl
  · rfl

/-- What is declared after a function declared more. -/
theorem pairs_declaring {id : Nat} (inside : id < registry.functions.size) (pairs : List Pair)
    (other : Nat) :
    (registry.declaring id pairs).pairsOf other =
      if other = id then
        registry.pairsOf id ++ Assembly.placed id (registry.pairsOf id).length pairs
      else registry.pairsOf other := by
  simp only [Registry.pairsOf, Registry.declaring, Array.getElem?_modify]
  by_cases equal : other = id
  · subst equal
    simp [inside]
  · simp [equal, Ne.symm equal]

/-- What is declared does not change with a new class. -/
theorem pairs_with_role (name : String) (role : Role) (first id : Nat) :
    (registry.withRole name role first).pairsOf id = registry.pairsOf id := by
  simp only [Registry.pairsOf, Registry.withRole, Array.getElem?_mapIdx]
  cases registry.functions[id]? with
  | none => rfl
  | some function =>
    simp only [Option.map_some, Option.getD_some]
    split <;> rfl

/-- Names do not change with a new class. -/
theorem name_with_role (name : String) (role : Role) (first id : Nat) :
    (registry.withRole name role first).nameOf id = registry.nameOf id := by
  simp only [Registry.nameOf, Registry.withRole, Array.getElem?_mapIdx]
  cases registry.functions[id]? with
  | none => rfl
  | some function =>
    simp only [Option.map_some, Option.getD_some]
    split <;> rfl

/-- A new function lets a registry grow. -/
theorem grown_with_function (name : String) (pairs : List Pair) (callee : Callee)
    (label : Option String) :
    registry.Grown (registry.withFunction name pairs callee label) where
  size := by simp [Registry.withFunction]
  names := by
    intro id inside
    simp [Registry.nameOf, Registry.withFunction, Array.getElem?_push, inside.ne]
  pairs := by
    intro id
    rw [pairs_with_function]
    split
    · rename_i last
      subst last
      simp [Registry.pairsOf]
    · exact List.prefix_rfl
  kinds := List.prefix_rfl
  roles := fun _ _ => id

/-- A kind that becomes known as a function lets a registry grow. -/
theorem grown_with_kind (tag : Tag) : registry.Grown (registry.withKind tag) := by
  rw [Registry.withKind]
  split
  · exact { grown_with_function tag.label [] (.construction tag) none with
      kinds := List.prefix_append _ _ }
  · exact grown_refl registry

/-- Declaring more lets a registry grow. -/
theorem grown_declaring {id : Nat} (inside : id < registry.functions.size) (pairs : List Pair) :
    registry.Grown (registry.declaring id pairs) where
  size := by simp [Registry.declaring]
  names := by
    intro other _
    simp only [Registry.nameOf, Registry.declaring, Array.getElem?_modify]
    split
    · cases registry.functions[other]? <;> rfl
    · rfl
  pairs := by
    intro other
    rw [pairs_declaring inside]
    split
    · rename_i equal
      subst equal
      exact List.prefix_append _ _
    · exact List.prefix_rfl
  kinds := List.prefix_rfl
  roles := fun _ _ there => there

/-- A new class lets a registry grow. -/
theorem grown_with_role (name : String) (role : Role) (first : Nat) :
    registry.Grown (registry.withRole name role first) where
  size := by simp [Registry.withRole]
  names := fun id _ => name_with_role name role first id
  pairs := by
    intro id
    exact ⟨[], by rw [List.append_nil, pairs_with_role]⟩
  kinds := List.prefix_rfl
  roles := by
    intro id held there
    have inside : id < registry.roles.size := (Array.getElem?_eq_some_iff.mp there).1
    rw [Registry.withRole, Array.getElem?_push, if_neg inside.ne]
    exact there

/-- A registry stays sound with a new function. -/
theorem sound_with_function (sound : registry.Sound) (name : String) (pairs : List Pair)
    (callee : Callee) (label : Option String) :
    (registry.withFunction name pairs callee label).Sound where
  origins := by
    intro id index pair there
    rw [pairs_with_function] at there
    split at there
    · rw [placed_get] at there
      obtain ⟨written, _, rfl⟩ := Option.map_eq_some_iff.mp there
      simp
    · exact sound.origins id index pair there
  labels := by
    intro asked id known
    have more : (registry.withFunction name pairs callee label).functions.size =
        registry.functions.size + 1 := by simp [Registry.withFunction]
    rw [more]
    cases label with
    | none => exact (sound.labels asked id known).trans (Nat.lt_succ_self _)
    | some label =>
      simp only [Registry.withFunction, Option.toList_some, List.map_cons, List.map_nil,
        List.cons_append, List.nil_append, List.lookup_cons] at known
      split at known
      · cases known
        exact Nat.lt_succ_self _
      · exact (sound.labels asked id known).trans (Nat.lt_succ_self _)
  kinds := fun entry member =>
    (sound.kinds entry member).trans_le (grown_with_function name pairs callee label).size
  names := sound.names

/-- A registry stays sound when a kind becomes known as a function. -/
theorem sound_with_kind (sound : registry.Sound) (tag : Tag) : (registry.withKind tag).Sound := by
  rw [Registry.withKind]
  split
  · have later := sound_with_function sound tag.label [] (.construction tag) none
    refine { origins := later.origins, labels := later.labels, names := later.names, kinds := ?_ }
    intro entry member
    rcases List.mem_append.mp member with old | new
    · exact later.kinds entry old
    · rw [List.mem_singleton.mp new]
      simp [Registry.withFunction]
  · exact sound

/-- A registry stays sound when a function declares more. -/
theorem sound_declaring (sound : registry.Sound) {id : Nat}
    (inside : id < registry.functions.size) (pairs : List Pair) :
    (registry.declaring id pairs).Sound where
  origins := by
    intro other index pair there
    rw [pairs_declaring inside] at there
    split at there
    · rename_i equal
      subst equal
      by_cases old : index < (registry.pairsOf other).length
      · rw [List.getElem?_append_left old] at there
        exact sound.origins other index pair there
      · rw [List.getElem?_append_right (by omega), placed_get] at there
        obtain ⟨written, _, rfl⟩ := Option.map_eq_some_iff.mp there
        simp only [Option.some.injEq, Origin.mk.injEq, true_and]
        omega
    · exact sound.origins other index pair there
  labels := by
    intro asked other known
    have kept : (registry.declaring id pairs).functions.size = registry.functions.size := by
      simp [Registry.declaring]
    rw [kept]
    exact sound.labels asked other known
  kinds := fun entry member =>
    (sound.kinds entry member).trans_le (grown_declaring inside pairs).size
  names := sound.names

/-- A registry stays sound with a new class. -/
theorem sound_with_role (sound : registry.Sound) (name : String) (role : Role) (first : Nat) :
    (registry.withRole name role first).Sound where
  origins := by
    intro id index pair there
    rw [pairs_with_role] at there
    exact sound.origins id index pair there
  labels := by
    intro label id known
    have kept : (registry.withRole name role first).functions.size = registry.functions.size := by
      simp [Registry.withRole]
    rw [kept]
    exact sound.labels label id known
  kinds := fun entry member =>
    (sound.kinds entry member).trans_le (grown_with_role name role first).size
  names := by
    intro asked id known
    have more : (registry.withRole name role first).roles.size = registry.roles.size + 1 := by
      simp [Registry.withRole]
    rw [more]
    simp only [Registry.withRole, List.lookup_cons] at known
    split at known
    · cases known
      exact Nat.lt_succ_self _
    · exact (sound.names asked id known).trans (Nat.lt_succ_self _)

end

/-- An assignment says what a function declares that there is. -/
structure Assignment.Fits (assignment : Assignment) (registry : Registry) : Prop where
  declared : ∀ pair id, (pair, id) ∈ assignment.declared → pair ∈ registry.pairsOf id
  member : ∀ id, assignment.member = .function id → id < registry.functions.size

/-- An assignment fits also later. -/
theorem fits_mono {before after : Registry} (grown : before.Grown after) {assignment : Assignment}
    (fits : assignment.Fits before) : assignment.Fits after where
  declared := fun pair id member => (grown.pairs id).subset (fits.declared pair id member)
  member := fun id is => (fits.member id is).trans_le grown.size

/-- An assignment that declares nothing and binds no function fits everywhere. -/
theorem fits_plain {registry : Registry} {field : String} {member : Member}
    (plain : ∀ id, member ≠ .function id) : Assignment.Fits ⟨field, member, []⟩ registry where
  declared := fun _ _ none => nomatch none
  member := fun id is => absurd is (plain id)

/-- What the lines of a body leave behind. The induction is on the lines. -/
theorem assigns_kept {registry after : Registry} {items : List Item} {given : List Assignment}
    (assigns : Assigns registry items given after) (sound : registry.Sound) :
    after.Sound ∧ registry.Grown after ∧ after.roles = registry.roles ∧
      ∀ assignment ∈ given, assignment.Fits after := by
  induction assigns with
  | nil => exact ⟨sound, grown_refl _, rfl, by simp⟩
  | @define registry after field name pairs recipe label rest given behind inductionHypothesis =>
    have grown : registry.Grown (registry.withFunction name pairs (.recipe recipe) label) :=
      grown_with_function name pairs (.recipe recipe) label
    obtain ⟨later, more, roles, fits⟩ :=
      inductionHypothesis (sound_with_function sound name pairs (.recipe recipe) label)
    refine ⟨later, grown_trans grown more, roles, ?_⟩
    intro assignment member
    rcases List.mem_cons.mp member with rfl | old
    · refine fits_mono more ⟨?_, ?_⟩
      · intro pair id member
        obtain ⟨declared, there, is⟩ := List.mem_map.mp member
        cases is
        rw [Assembly.pairs_of_fresh]
        exact there
      · intro id is
        cases is
        simp [Registry.withFunction]
    · exact fits assignment old
  | @reuse registry after label field pairs id rest given known behind inductionHypothesis =>
    have inside := sound.labels label id known
    have grown := grown_declaring inside pairs
    obtain ⟨later, more, roles, fits⟩ := inductionHypothesis (sound_declaring sound inside pairs)
    refine ⟨later, grown_trans grown more, roles, ?_⟩
    intro assignment member
    rcases List.mem_cons.mp member with rfl | old
    · refine fits_mono more ⟨?_, ?_⟩
      · intro pair other member
        obtain ⟨declared, there, is⟩ := List.mem_map.mp member
        cases is
        exact there
      · intro other is
        cases is
        exact inside.trans_le grown.size
    · exact fits assignment old
  | set _ inductionHypothesis =>
    obtain ⟨later, more, roles, fits⟩ := inductionHypothesis sound
    exact ⟨later, more, roles, List.forall_mem_cons.mpr ⟨fits_plain (by simp), fits⟩⟩
  | @tag registry after side tag rest given behind inductionHypothesis =>
    obtain ⟨later, more, roles, fits⟩ := inductionHypothesis (sound_with_kind sound tag)
    have same : (registry.withKind tag).roles = registry.roles := by
      rw [Registry.withKind]
      split <;> rfl
    exact ⟨later, grown_trans (grown_with_kind tag) more, roles.trans same,
      List.forall_mem_cons.mpr ⟨fits_plain (by simp), fits⟩⟩
  | required _ inductionHypothesis =>
    obtain ⟨later, more, roles, fits⟩ := inductionHypothesis sound
    exact ⟨later, more, roles, List.forall_mem_cons.mpr ⟨fits_plain (by simp), fits⟩⟩

/-! ## Bodies -/

/-- What a body declares is what its assignments declare. -/
theorem assigned_declared (given : List Assignment) (body : Body) :
    (given.foldl Body.assigned body).declared =
      body.declared ++ given.flatMap Assignment.declared := by
  induction given generalizing body with
  | nil => simp
  | cons assignment rest inductionHypothesis =>
    rw [List.foldl_cons, inductionHypothesis, Body.assigned, List.flatMap_cons, List.append_assoc]

/-- The members of a body are those assigned, newest first. -/
theorem assigned_members (given : List Assignment) (body : Body) :
    (given.foldl Body.assigned body).members =
      (given.map fun assignment => (assignment.field, assignment.member)).reverse ++
        body.members := by
  induction given generalizing body with
  | nil => simp
  | cons assignment rest inductionHypothesis =>
    rw [List.foldl_cons, inductionHypothesis, Body.assigned, List.map_cons, List.reverse_cons,
      List.append_assoc]
    rfl

/-! ## Deeds -/

/-- What a definition that succeeded did: its bases, its body, and the functions and classes there
were when its class was put together. -/
structure Deed where
  definition : Definition
  bases : List Nat
  body : Body
  moment : Registry

namespace Deed

/-- The number of the class that was made. -/
def number (deed : Deed) : Nat := deed.moment.roles.size

/-- A deed was done on a registry and a store. -/
structure Done (deed : Deed) (registry : Registry) (store : Store) : Prop where
  based : (Assembly.basesOf deed.definition).Yields registry store deed.bases registry store
  lines : (Assembly.body deed.definition).Yields registry store deed.body deed.moment store

/-- What a deed did is there. Later deeds only add classes and functions, so this is kept once it
holds. -/
structure Stands (deed : Deed) (registry : Registry) : Prop where
  grown : deed.moment.Grown registry
  made : ∃ role, registry.roles[deed.number]? = some role ∧
    deed.moment.newRole deed.definition deed.body deed.bases = .ok role
  bases : ∀ base ∈ deed.bases, base < deed.number
  bare : deed.definition.bare = true → ∀ base ∈ deed.bases, registry.table? base = none
  declared : ∀ pair id, (pair, id) ∈ deed.body.declared → pair ∈ deed.moment.pairsOf id
  members : ∀ field id, (field, .function id) ∈ deed.body.members →
    id < deed.moment.functions.size
  kinds : ∀ tag id, deed.moment.kindOf? tag = some id → id < deed.moment.functions.size

/-- What a deed did stays there. -/
theorem stands_mono {deed : Deed} {before after : Registry} (stands : deed.Stands before)
    (grown : before.Grown after) : deed.Stands after :=
  { stands with
    grown := grown_trans stands.grown grown
    made := by
      obtain ⟨role, there, made⟩ := stands.made
      exact ⟨role, grown.roles deed.number role there, made⟩
    bare := by
      intro bare base member
      obtain ⟨role, there, _⟩ := stands.made
      have inside := (stands.bases base member).trans (Array.getElem?_eq_some_iff.mp there).1
      rw [grown_table grown inside]
      exact stands.bare bare base member }

end Deed

/-- The registries that there can be, with the deeds that were done: functions are written outside
of classes, and definitions fail or succeed, on any store. -/
inductive History : Registry → List Deed → Prop where
  | start : History .initial []
  | function {registry : Registry} {deeds : List Deed} (past : History registry deeds)
      (name : String) (pairs : List Pair) (recipe : Recipe) (label : Option String) :
      History (registry.withFunction name pairs (.recipe recipe) label) deeds
  | failed {registry after : Registry} {deeds : List Deed} {store final : Store} {fault : Fault}
      {definition : Definition} (past : History registry deeds)
      (fails : (Assembly.define definition).Fails registry store fault after final) :
      History after deeds
  | made {registry after : Registry} {deeds : List Deed} {store final : Store} {id : Nat}
      {deed : Deed} (past : History registry deeds) (done : deed.Done registry store)
      (made : (Assembly.define deed.definition).Yields registry store id after final) :
      History after (deeds ++ [deed])

/-- What holds of a registry that has a history. It is the invariant of histories: the registry is
sound, each class but the first two was made by one deed, and what deeds did is still there. -/
structure Told (registry : Registry) (deeds : List Deed) : Prop where
  sound : registry.Sound
  grown : Registry.initial.Grown registry
  stands : ∀ deed ∈ deeds, deed.Stands registry
  later : ∀ deed ∈ deeds, 1 < deed.number
  classes : ∀ id < registry.roles.size, id < 2 ∨ ∃ deed ∈ deeds, deed.number = id

namespace Assembly

variable {registry after middle : Registry} {store final : Store} {definition : Definition}

/-- Looking for the bases finds classes that are there. -/
theorem bases_inside (sound : registry.Sound) {bases : List Nat}
    (based : (basesOf definition).Yields registry store bases registry store) :
    ∀ base ∈ bases, base < registry.roles.size := by
  obtain ⟨_, _, _, _, ids, named, among⟩ := bases_of_yields based
  have inside : ∀ id ∈ ids, id < registry.roles.size := by
    clear among based
    generalize definition.below = names at named
    induction named with
    | nil => simp
    | cons known _ inductionHypothesis =>
      exact List.forall_mem_cons.mpr ⟨sound.names _ _ known, inductionHypothesis⟩
  exact fun base member => inside base (among base member)

/-- What a body leaves behind. -/
theorem body_kept (sound : registry.Sound) {written : Body}
    (lines : (body definition).Yields registry store written middle final) :
    middle.Sound ∧ registry.Grown middle ∧ middle.roles = registry.roles ∧
      (∀ pair id, (pair, id) ∈ written.declared → pair ∈ middle.pairsOf id) ∧
      ∀ field id, (field, .function id) ∈ written.members → id < middle.functions.size := by
  obtain ⟨given, assigns, rfl, rfl⟩ := body_yields lines
  obtain ⟨later, grown, roles, fits⟩ := assigns_kept assigns sound
  refine ⟨later, grown, roles, ?_, ?_⟩
  · intro pair id member
    rw [assigned_declared] at member
    obtain ⟨assignment, there, declares⟩ := List.mem_flatMap.mp (by simpa [Body.empty] using member)
    exact (fits assignment there).declared pair id declares
  · intro field id member
    rw [assigned_members] at member
    simp only [Body.empty, List.append_nil, List.mem_reverse, List.mem_map, Prod.mk.injEq] at member
    obtain ⟨assignment, there, _, is⟩ := member
    exact (fits assignment there).member id is

/-- A step gives one outcome. -/
theorem yields_once {α : Type} {step : Assembly α} {first second : α} {one other : Registry}
    {left right : Store} (yields : step.Yields registry store first one left)
    (again : step.Yields registry store second other right) : first = second ∧ one = other := by
  have same := yields.symm.trans again
  cases same
  exact ⟨rfl, rfl⟩

/-- What a definition that succeeds does: its deed stands, and its class is the last. -/
theorem done_stands {deed : Deed} {id : Nat} (sound : registry.Sound)
    (done : deed.Done registry store)
    (made : (define deed.definition).Yields registry store id after final) :
    after.Sound ∧ registry.Grown after ∧ deed.Stands after ∧ deed.number = registry.roles.size ∧
      after.roles.size = registry.roles.size + 1 := by
  obtain ⟨bases, written, middle, role, based, lines, created, _, rfl, rfl⟩ := define_yields made
  obtain ⟨rfl, _⟩ := yields_once based done.based
  obtain ⟨rfl, rfl⟩ := yields_once lines done.lines
  obtain ⟨later, grown, roles, declared, members⟩ := body_kept sound done.lines
  obtain ⟨_, _, bare, _⟩ := bases_of_yields done.based
  have last : deed.moment.Grown
      (deed.moment.withRole deed.definition.name role registry.functions.size) :=
    grown_with_role deed.definition.name role registry.functions.size
  have number : deed.number = registry.roles.size := by rw [Deed.number, roles]
  refine ⟨sound_with_role later _ role _, grown_trans grown last, ?_, number, ?_⟩
  · exact {
      grown := last
      made := ⟨role, by simp [Registry.withRole, Deed.number], created⟩
      bases := number ▸ bases_inside sound done.based
      bare := by
        intro is base member
        rw [grown_table (grown_trans grown last) (bases_inside sound done.based base member)]
        exact bare is base member
      declared := declared
      members := members
      kinds := fun tag id known => kind_inside later known }
  · simp [Registry.withRole, roles]

/-- What a definition that fails leaves behind: functions, and no class. -/
theorem fails_kept {fault : Fault} (sound : registry.Sound)
    (fails : (define definition).Fails registry store fault after final) :
    after.Sound ∧ registry.Grown after ∧ after.roles = registry.roles := by
  obtain ⟨_, _, assigns, _⟩ := define_fails fails
  obtain ⟨later, grown, roles, _⟩ := assigns_kept assigns sound
  exact ⟨later, grown, roles⟩

end Assembly

/-- What a history tells stays told when the registry grows without a new class. -/
theorem told_mono {registry after : Registry} {deeds : List Deed} (told : Told registry deeds)
    (sound : after.Sound) (grown : registry.Grown after) (roles : after.roles = registry.roles) :
    Told after deeds where
  sound := sound
  grown := grown_trans told.grown grown
  stands := fun deed member => Deed.stands_mono (told.stands deed member) grown
  later := told.later
  classes := roles ▸ told.classes

/-- What a history tells. The induction is on the history; each step lets the registry grow. -/
theorem history_told {registry : Registry} {deeds : List Deed} (history : History registry deeds) :
    Told registry deeds := by
  induction history with
  | start =>
    refine ⟨⟨?_, ?_, ?_, ?_⟩, grown_refl _, by simp, by simp, fun id inside => .inl inside⟩
    · intro id index pair there
      simp [Registry.pairsOf, Registry.initial] at there
    · intro label id known
      simp [Registry.initial] at known
    · exact List.forall_mem_nil _
    · intro name id known
      simp only [Registry.initial, List.lookup_cons, List.lookup_nil] at known
      split at known
      · cases known
        decide
      · cases known
  | function past name pairs recipe label told =>
    exact told_mono told (sound_with_function told.sound name pairs (.recipe recipe) label)
      (grown_with_function name pairs (.recipe recipe) label) rfl
  | failed past fails told =>
    obtain ⟨sound, grown, roles⟩ := Assembly.fails_kept told.sound fails
    exact told_mono told sound grown roles
  | @made registry after deeds store final id deed past done made told =>
    obtain ⟨sound, grown, stands, number, size⟩ := Assembly.done_stands told.sound done made
    refine ⟨sound, grown_trans told.grown grown, ?_, ?_, ?_⟩
    · intro other member
      rcases List.mem_append.mp member with old | new
      · exact Deed.stands_mono (told.stands other old) grown
      · rw [List.mem_singleton.mp new]
        exact stands
    · intro other member
      rcases List.mem_append.mp member with old | new
      · exact told.later other old
      · have base : 1 < registry.roles.size :=
          (Array.getElem?_eq_some_iff.mp (told.grown.roles 1 _ rfl)).1
        rw [List.mem_singleton.mp new, number]
        exact base
    · intro id inside
      by_cases before : id < registry.roles.size
      · rcases told.classes id before with first | ⟨other, member, is⟩
        · exact .inl first
        · exact .inr ⟨other, List.mem_append_left _ member, is⟩
      · exact .inr ⟨deed, by simp, by omega⟩

/-! ## Histories on an empty store -/

/-- What a step gives on an empty store, if it succeeds. -/
def Assembly.outcome? {α : Type} (step : Assembly α) (registry : Registry) : Option α :=
  ((step.run.run registry).run .empty).1.1.toOption

/-- The registry that a definition leaves behind on an empty store. -/
def Registry.defined (registry : Registry) (definition : Definition) : Registry :=
  (((Assembly.define definition).run.run registry).run .empty).1.2

/-- The deed of a definition that succeeds on an empty store. -/
def Registry.deed (registry : Registry) (definition : Definition) : Deed where
  definition := definition
  bases := ((Assembly.basesOf definition).outcome? registry).getD []
  body := ((Assembly.body definition).outcome? registry).getD .empty
  moment := (((Assembly.body definition).run.run registry).run .empty).1.2

/-- A definition that succeeds on an empty store goes on with a history. -/
theorem history_defined {registry : Registry} {deeds : List Deed} (past : History registry deeds)
    (definition : Definition) {id : Nat}
    (made : (Assembly.define definition).outcome? registry = some id) :
    History (registry.defined definition) (deeds ++ [registry.deed definition]) := by
  obtain ⟨final, yields⟩ : ∃ final, (Assembly.define definition).Yields registry .empty id
      (registry.defined definition) final := by
    unfold Assembly.outcome? at made
    unfold Assembly.Yields Registry.defined
    generalize ((Assembly.define definition).run.run registry).run .empty = ran at made ⊢
    rcases ran with ⟨⟨outcome, after⟩, final⟩
    cases outcome with
    | error fault => cases made
    | ok given =>
      cases made
      exact ⟨final, rfl⟩
  obtain ⟨bases, body, moment, _, based, lines, _⟩ := Assembly.define_yields yields
  refine .made past ?_ yields
  have known : registry.deed definition = ⟨definition, bases, body, moment⟩ := by
    unfold Assembly.Yields at based lines
    rw [Registry.deed, Assembly.outcome?, Assembly.outcome?, based, lines]
    rfl
  rw [known]
  exact ⟨based, lines⟩

/-- A role that shows integers. -/
def printing : Definition :=
  ⟨"Printing", ["Role"], [.define "show" "show" [.ofTags (.kind "int") (.kind "str")] .value none],
    none, none, none, false, []⟩

/-- A role that shows integers its own way, and also reads them. -/
def bracketing : Definition :=
  ⟨"Bracketing", ["Printing"],
    [.define "show" "show" [] (.shown "[" "]") none,
      .define "read" "read" [.ofTags (.kind "str") (.kind "int")] .value none],
    none, none, none, false, []⟩

end Stencil.Conversion
