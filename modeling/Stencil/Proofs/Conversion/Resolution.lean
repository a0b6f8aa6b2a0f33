import Stencil.Conversion.Dispatch
import Stencil.Proofs.Conversion.Inheritance
import Stencil.Proofs.Conversion.Merging

/-!
# Dispatch and the search for methods

Methods are searched by name along the order of classes, rules are looked up in
the table that was put together when the class was defined. What the two have
to do with each other is `table_follows`: the function of a rule is the one that
the table of the first class with a member of the function's name has for the
pair, if that class has the pair at all.

The proofs are by induction on the class. The order of a class keeps the orders
of its bases, so the class where a name is found is found first in a base, too.
-/

namespace Stencil.Conversion

open Code

/-! ## Orders of classes -/

/-- The order of a new class is the class and then what is merged from the orders of its bases and
the bases themselves. -/
theorem new_order_ok {registry : Registry} {id : Nat} {bases order : List Nat}
    (ordered : registry.newOrder id bases = .ok order) :
    ∃ merged, order = id :: merged ∧
      Order.merge ((if bases = [] then [0] else bases).map registry.orderOf ++
        [if bases = [] then [0] else bases]) = .ok merged := by
  unfold Registry.newOrder at ordered
  cases twice : repeated? bases with
  | some base =>
    rw [twice] at ordered
    cases ordered
  | none =>
    simp only [twice] at ordered
    split at ordered
    · rename_i merged known
      cases ordered
      exact ⟨merged, rfl, known⟩
    · cases ordered

section

variable {registry : Registry} {deeds : List Deed} (told : Told registry deeds)
include told

/-- The two classes that others are built on. -/
theorem first_classes : registry.roles[0]? = some Registry.root ∧
    registry.roles[1]? = some Registry.base :=
  ⟨told.grown.roles 0 _ rfl, told.grown.roles 1 _ rfl⟩

/-- The class that everything is built on has no table. -/
theorem root_bare : registry.table? 0 = none := by
  rw [Registry.table?, (first_classes told).1]
  rfl

/-- The class that everything is built on is built on nothing else, at any time. -/
theorem root_order {before : Registry} (grown : before.Grown registry) {item : Nat}
    (there : item ∈ before.orderOf 0) : item = 0 := by
  by_cases first : 0 < before.roles.size
  · rw [← grown_order grown first, Registry.orderOf, (first_classes told).1] at there
    exact List.mem_singleton.mp there
  · rw [Registry.orderOf, Array.getElem?_eq_none (by omega)] at there
    cases there

/-- The order of the class of a deed: the class, and then an order that keeps those of the bases and
has nothing else but the class that everything is built on. The order was merged from the orders of
the bases and the list of the bases, when the class was made; and it stays, as classes are only
added. -/
theorem deed_order {deed : Deed} (member : deed ∈ deeds) :
    ∃ merged, registry.orderOf deed.number = deed.number :: merged ∧ merged.Nodup ∧
      (∀ base ∈ deed.bases, (registry.orderOf base).Sublist merged) ∧
      ∀ item ∈ merged, item = 0 ∨ item ∈ deed.bases ∨
        ∃ base ∈ deed.bases, item ∈ registry.orderOf base := by
  have stands := told.stands deed member
  obtain ⟨role, there, made⟩ := stands.made
  obtain ⟨merged, order, known⟩ := new_order_ok (new_role_ok made).2.1
  have same (base : Nat) (inside : base ∈ deed.bases) :
      registry.orderOf base = deed.moment.orderOf base :=
    grown_order stands.grown (stands.bases base inside)
  refine ⟨merged, ?_, Order.merge_nodup known, ?_, ?_⟩
  · rw [Registry.orderOf, there]
    exact order
  · intro base inside
    have some : deed.bases ≠ [] := List.ne_nil_of_mem inside
    rw [if_neg some] at known
    rw [same base inside]
    exact Order.merge_sublist known _ (by simpa using .inl ⟨base, inside, rfl⟩)
  · intro item inside
    obtain ⟨list, source, there⟩ := Order.merge_source known item inside
    rcases List.mem_append.mp source with below | last
    · obtain ⟨base, written, rfl⟩ := List.mem_map.mp below
      split at written
      · rw [List.mem_singleton.mp written] at there
        exact .inl (root_order told stands.grown there)
      · exact .inr (.inr ⟨base, written, by rwa [same base written]⟩)
    · rw [List.mem_singleton.mp last] at there
      split at there
      · exact .inl (List.mem_singleton.mp there)
      · exact .inr (.inl there)

/-- The order of a class starts with the class and has nothing twice. -/
theorem order_exact {id : Nat} (inside : id < registry.roles.size) :
    id ∈ registry.orderOf id ∧ (registry.orderOf id).Nodup ∧
      ∀ item ∈ registry.orderOf id, item ≤ id := by
  induction id using Nat.strong_induction_on with
  | _ id inductionHypothesis =>
    rcases told.classes id inside with first | ⟨deed, member, rfl⟩
    · obtain ⟨root, base⟩ := first_classes told
      obtain rfl | rfl : id = 0 ∨ id = 1 := by omega
      · simp [Registry.orderOf, root, Registry.root]
      · simp [Registry.orderOf, base, Registry.base]
    · obtain ⟨merged, order, nodup, _, sources⟩ := deed_order told member
      have below (base : Nat) (written : base ∈ deed.bases) : base < deed.number :=
        (told.stands deed member).bases base written
      have smaller : ∀ item ∈ merged, item < deed.number := by
        intro item there
        rcases sources item there with rfl | written | ⟨base, written, deeper⟩
        · exact Nat.zero_lt_of_lt (told.later deed member)
        · exact below item written
        · have limit := below base written
          have known := inductionHypothesis base limit (limit.trans inside)
          exact (known.2.2 item deeper).trans_lt limit
      rw [order]
      refine ⟨List.mem_cons_self, List.nodup_cons.mpr ⟨?_, nodup⟩, ?_⟩
      · exact fun again => Nat.lt_irrefl _ (smaller deed.number again)
      · intro item there
        rcases List.mem_cons.mp there with rfl | deeper
        · exact Nat.le_refl _
        · exact (smaller item deeper).le

/-- What stands in the order of a base is older than the class. -/
theorem below_own {deed : Deed} (member : deed ∈ deeds) {base item : Nat}
    (written : base ∈ deed.bases) (deeper : item ∈ registry.orderOf base) : item < deed.number := by
  have stands := told.stands deed member
  obtain ⟨role, made, _⟩ := stands.made
  have older := stands.bases base written
  have inside := older.trans (Array.getElem?_eq_some_iff.mp made).1
  exact ((order_exact told inside).2.2 item deeper).trans_lt older

/-- What stands in the order of a class is the class, the class that everything is built on, or
stands in the order of a base. A class with an order was made by a deed, except for the first
two. -/
theorem order_cases {id item : Nat} (there : item ∈ registry.orderOf id) :
    item = id ∨ item = 0 ∨
      ∃ deed ∈ deeds, deed.number = id ∧ ∃ base ∈ deed.bases, item ∈ registry.orderOf base := by
  have inside : id < registry.roles.size := by
    by_contra outside
    rw [Registry.orderOf, Array.getElem?_eq_none (by omega)] at there
    cases there
  rcases told.classes id inside with first | ⟨deed, member, rfl⟩
  · obtain ⟨root, base⟩ := first_classes told
    obtain rfl | rfl : id = 0 ∨ id = 1 := by omega
    · simp only [Registry.orderOf, root, Registry.root, Option.map_some, Option.getD_some,
        List.mem_singleton] at there
      exact .inl there
    · simp only [Registry.orderOf, base, Registry.base, Option.map_some, Option.getD_some,
        List.mem_cons, List.not_mem_nil, or_false] at there
      exact there.imp_right .inl
  · obtain ⟨merged, order, _, _, sources⟩ := deed_order told member
    rw [order] at there
    rcases List.mem_cons.mp there with rfl | deeper
    · exact .inl rfl
    · rcases sources item deeper with zero | written | below
      · exact .inr (.inl zero)
      · have base := (told.stands deed member).bases item written
        exact .inr (.inr ⟨deed, member, rfl, item, written,
          (order_exact told (base.trans inside)).1⟩)
      · exact .inr (.inr ⟨deed, member, rfl, below⟩)

end

/-! ## The search for members -/

/-- The member of a name that a class has itself. -/
def Registry.memberOf (registry : Registry) (id : Nat) (field : String) : Option Member :=
  registry.roles[id]?.bind fun role => role.members.lookup field

/-- The first class of an order that has a member of a name. This is the search of the language for
a method; it knows nothing of rule tables. -/
def Registry.owner? (registry : Registry) (order : List Nat) (field : String) : Option Nat :=
  order.find? fun id => (registry.memberOf id field).isSome

/-- The member that is found is that of the first class that has one. -/
theorem member_eq (registry : Registry) (order : List Nat) (field : String) :
    registry.member? order field =
      (registry.owner? order field).bind (registry.memberOf · field) := by
  rw [Registry.member?, Registry.owner?]
  induction order with
  | nil => rfl
  | cons id rest inductionHypothesis =>
    rw [List.findSome?_cons, List.find?_cons]
    cases here : registry.memberOf id field with
    | none =>
      rw [Registry.memberOf] at here
      simp only [here, Option.isSome_none]
      exact inductionHypothesis
    | some member =>
      rw [Registry.memberOf] at here
      simp [here, Registry.memberOf]

/-- A class with a table has the members of its body, except for the table itself. -/
theorem member_of_body {registry : Registry} {id : Nat} {role : Role} {body : Body}
    (made : registry.roles[id]? = some role)
    (members : role.members = (tableField, .table) :: body.members) (field : String) :
    registry.memberOf id field =
      if field = tableField then some .table else body.members.lookup field := by
  rw [Registry.memberOf, made, Option.bind_some, members, List.lookup_cons]
  by_cases is : field = tableField
  · rw [if_pos is, beq_iff_eq.mpr is]
  · rw [if_neg is, beq_eq_false_iff_ne.mpr is]

/-- What is found first in a list is found first in a part of it that keeps its order, if it is
there. -/
theorem find_sublist {α : Type} {p : α → Bool} {part whole : List α} {item : α}
    (sublist : part.Sublist whole) (nodup : whole.Nodup) (found : whole.find? p = some item)
    (there : item ∈ part) : part.find? p = some item := by
  induction sublist with
  | slnil => cases there
  | @cons part rest head sublist inductionHypothesis =>
    obtain ⟨fresh, nodup⟩ := List.nodup_cons.mp nodup
    rw [List.find?_cons] at found
    split at found
    · cases found
      exact absurd (sublist.subset there) fresh
    · exact inductionHypothesis nodup found there
  | @cons_cons part rest head sublist inductionHypothesis =>
    rw [List.find?_cons] at found ⊢
    split at found
    · exact found
    · rename_i other
      rcases List.mem_cons.mp there with rfl | later
      · rw [List.find?_some found] at other
        cases other
      · exact inductionHypothesis (List.nodup_cons.mp nodup).2 found later

/-! ## Names of functions -/

/-- A sound table stays sound. -/
theorem table_sound_mono {before after : Registry} (grown : before.Grown after)
    {table : Table Nat} (sound : table.Sound before) : table.Sound after where
  rows := fun row member =>
    let fit := sound.rows row member
    ⟨known_mono grown fit.key, fit.first, known_mono grown fit.pair, fit.declared, fit.same⟩
  inside := fun row member => (sound.inside row member).trans_le grown.size
  once := sound.once

/-- The tables of the bases of a deed were sound when its class was put together. -/
theorem bases_sound {registry : Registry} {deeds : List Deed} (history : History registry deeds) :
    ∀ deed ∈ deeds, ∀ base ∈ deed.bases, ∀ held, deed.moment.table? base = some held →
      held.Sound deed.moment := by
  induction history with
  | start => simp
  | function _ _ _ _ _ inductionHypothesis => exact inductionHypothesis
  | failed _ _ inductionHypothesis => exact inductionHypothesis
  | @made registry _ _ _ _ _ last past done _ inductionHypothesis =>
    intro deed member
    rcases List.mem_append.mp member with old | new
    · exact inductionHypothesis deed old
    · obtain rfl := List.mem_singleton.mp new
      intro base _ held has
      have told := history_told past
      obtain ⟨_, grown, roles, _⟩ := Assembly.body_kept told.sound done.lines
      rw [Registry.table?, roles] at has
      exact table_sound_mono grown (tables_sound told base held has)

/-- Every function that a class binds has the name that it is bound to. Rules are overridden by
name, so a function that goes by two names would be looked for under the wrong one. -/
def Named (registry : Registry) (deeds : List Deed) : Prop :=
  ∀ deed ∈ deeds, ∀ field id, (field, .function id) ∈ deed.body.members →
    registry.nameOf id = field

/-- Names can be checked class by class and member by member. -/
theorem named_of_all {registry : Registry} {deeds : List Deed}
    (all : (deeds.all fun deed => deed.body.members.all fun entry => match entry.2 with
      | .function id => registry.nameOf id == entry.1
      | _ => true) = true) : Named registry deeds := by
  intro deed member field id bound
  have each := List.all_eq_true.mp (List.all_eq_true.mp all deed member) _ bound
  exact beq_iff_eq.mp each

section

variable {registry : Registry} {deeds : List Deed} (history : History registry deeds)
include history

/-- A class without a table is built on no class that has one. The induction is on the class. -/
theorem order_bare {id item : Nat} (bare : registry.table? id = none)
    (there : item ∈ registry.orderOf id) : registry.table? item = none := by
  have told := history_told history
  induction id using Nat.strong_induction_on with
  | _ id inductionHypothesis =>
    rcases order_cases told there with rfl | rfl | ⟨deed, member, rfl, base, written, deeper⟩
    · exact bare
    · exact root_bare told
    · have stands := told.stands deed member
      refine inductionHypothesis base (stands.bases base written) ?_ deeper
      cases full : deed.definition.bare with
      | true => exact stands.bare full base written
      | false =>
        obtain ⟨role, table, made, tabled, _⟩ := deed_assembled told member full
        rw [Registry.table?, made, Option.bind_some, tabled] at bare
        cases bare

/-- A class that is built on a class with a table is not bare. -/
theorem full_above {deed : Deed} (member : deed ∈ deeds) {base item : Nat}
    (written : base ∈ deed.bases) (deeper : item ∈ registry.orderOf base) {held : Table Nat}
    (has : registry.table? item = some held) : deed.definition.bare = false := by
  rw [← Bool.not_eq_true]
  intro bare
  have none := ((history_told history).stands deed member).bare bare base written
  rw [order_bare history none deeper] at has
  cases has

/-- The function of a rule of a base had the name that it has when the class was put together. -/
theorem base_name {deed : Deed} (member : deed ∈ deeds) {base : Nat} (written : base ∈ deed.bases)
    {held : Table Nat} (has : deed.moment.table? base = some held) {pair : Pair} {old : Rule Nat}
    (found : Table.find? pair held.rows = some old) :
    deed.moment.nameOf old.function = registry.nameOf old.function := by
  have inside := Table.find_inside (bases_sound history deed member base written held has) found
  exact (((history_told history).stands deed member).grown.names old.function inside).symm

/-- A class has the pairs of all classes of its order. -/
theorem order_inherits {pair : Pair} (asked : registry.Known pair) {id item : Nat}
    (there : item ∈ registry.orderOf id) {held : Table Nat} (has : registry.table? item = some held)
    {old : Rule Nat} (found : Table.find? pair held.rows = some old) :
    ∃ table new, registry.table? id = some table ∧ Table.find? pair table.rows = some new := by
  have told := history_told history
  induction id using Nat.strong_induction_on with
  | _ id inductionHypothesis =>
    rcases order_cases told there with rfl | rfl | ⟨deed, member, rfl, base, written, deeper⟩
    · exact ⟨held, old, has, found⟩
    · rw [root_bare told] at has
      cases has
    · have stands := told.stands deed member
      have below := stands.bases base written
      obtain ⟨table, middle, tabled, finds⟩ := inductionHypothesis base below deeper
      obtain ⟨role, whole, made, tables, _, assembled⟩ :=
        deed_assembled told member (full_above history member written deeper has)
      have earlier : deed.moment.table? base = some table := by
        rw [← tabled, grown_table stands.grown below]
      obtain ⟨new, gets, _⟩ := Deed.finds_inherited told.sound stands assembled written earlier asked
        finds
      refine ⟨whole, new, ?_, gets⟩
      rw [Registry.table?, made]
      exact tables

variable (named : Named registry deeds)
include named

/-- A function stays in its place in a class that has no member of the name of what is there, unless
a kind has taken the place. -/
theorem replaced_same {deed : Deed} (member : deed ∈ deeds) {old : Nat}
    (lacks : deed.body.members.lookup (registry.nameOf (deed.replaced old)) = none)
    (method : ∀ tag, registry.kindOf? tag ≠ some (deed.replaced old)) :
    deed.replaced old = old := by
  rw [Deed.replaced] at lacks method ⊢
  cases plain : deed.moment.plain? deed.body (deed.moment.nameOf old) with
  | none => rfl
  | some id =>
    rw [plain, Option.getD_some] at lacks method
    rcases plain_cases plain with ⟨bound, _⟩ | ⟨tag, taken⟩
    · -- A function in the other one's place would be a member of the name.
      rw [named deed member _ id (lookup_mem bound), bound] at lacks
      cases lacks
    · have grown := ((history_told history).stands deed member).grown
      exact absurd (kind_mono grown taken) (method tag)

/-- The function of a rule, if it is no kind, is the one that the table of the first class with a
member of the function's name has for the pair, if that class has the pair. The induction is on the
class: unless it has such a member itself, the first class that has is the first one in a base, too,
and nothing takes the function's place. -/
theorem table_follows {pair : Pair} (asked : registry.Known pair) {id item : Nat}
    {table held : Table Nat} (tabled : registry.table? id = some table) {rule old : Rule Nat}
    (finds : Table.find? pair table.rows = some rule)
    (method : ∀ tag, registry.kindOf? tag ≠ some rule.function)
    (owner : registry.owner? (registry.orderOf id) (registry.nameOf rule.function) = some item)
    (has : registry.table? item = some held) (found : Table.find? pair held.rows = some old) :
    rule.function = old.function := by
  have told := history_told history
  induction id using Nat.strong_induction_on generalizing table rule with
  | _ id inductionHypothesis =>
    rcases order_cases told (List.mem_of_find?_eq_some owner) with
      rfl | rfl | ⟨deed, member, rfl, base, written, deeper⟩
    · rw [tabled] at has
      cases has
      rw [finds] at found
      cases found
      rfl
    · rw [root_bare told] at has
      cases has
    · have stands := told.stands deed member
      have below := stands.bases base written
      obtain ⟨merged, order, nodup, sublists, _⟩ := deed_order told member
      obtain ⟨role, whole, made, tables, members, assembled⟩ :=
        deed_assembled told member (full_above history member written deeper has)
      obtain ⟨middle, kept, known, gets⟩ := order_inherits history asked deeper has found
      have earlier : deed.moment.table? base = some middle := by
        rw [← known, grown_table stands.grown below]
      obtain ⟨new, again, function⟩ := Deed.finds_inherited told.sound stands assembled written
        earlier asked gets
      obtain rfl : whole = table := by
        rw [Registry.table?, made] at tabled
        exact Option.some.inj (tables.symm.trans tabled)
      obtain rfl : new = rule := Option.some.inj (again.symm.trans finds)
      -- The class itself has no member of the name, for the first one that has stands behind it.
      rw [Registry.owner?, order, List.find?_cons] at owner
      split at owner
      · exact absurd (Option.some.inj owner) (below_own told member written deeper).ne'
      · rename_i without
        have first := find_sublist (sublists base written) nodup owner deeper
        have none : deed.body.members.lookup (registry.nameOf new.function) = none := by
          rw [member_of_body made members] at without
          split at without
          · cases without
          · simpa using without
        have same : new.function = kept.function := by
          rw [function] at none method ⊢
          exact replaced_same history named member none method
        rw [same] at first method ⊢
        exact inductionHypothesis base below known gets method first

end

/-! ## Dispatch -/

/-- A chain goes on with the outcome of its first step. -/
theorem Convert.bind_run {α β : Type} {step : Convert α} {next : α → Convert β} {desk after : Desk}
    {value : α} (first : step.run.run desk = (.ok value, after)) :
    (step >>= next).run.run desk = (next value).run.run after := by
  rw [ExceptT.run_bind, StateT.run_bind, first]
  rfl

/-- An outcome that needs no desk is given if it is there. -/
theorem Convert.lift_run {α : Type} {outcome : Except Fault α} {value : α}
    (settled : outcome = .ok value) (desk : Desk) :
    (liftM outcome : Convert α).run.run desk = (.ok value, desk) := by
  subst settled
  rfl

/-- A conversion calls the function of the rule that is resolved, unless the method that converts
was replaced. -/
theorem convert_calls {item : Instance} {desk : Desk} {role : Role} {table : Table Nat}
    {method argument : String} (there : desk.registry.roles[item.role]? = some role)
    (has : role.table = some table)
    (own : desk.registry.member? role.order convertMethod = some (.further method argument))
    {value : Value} {output : Tag} {input : Option Tag} {rule : Rule Nat}
    (asked : table.resolve (.ofTags ((input.bind Tag.given?).getD (.ofValue value)) output) =
      .ok rule) :
    (item.convert value output input).run.run desk =
      (item.callWithin Instance.callLimit rule.function value).run.run desk := by
  have order : desk.registry.orderOf item.role = role.order := by
    rw [Registry.orderOf, there]
    rfl
  have tabled : (desk.registry.table? item.role).getD (.empty "") = table := by
    rw [Registry.table?, there, Option.bind_some, has]
    rfl
  have checked : (item.outerReach.check convertMethod input).run.run desk = (.ok (), desk) := by
    refine (Convert.bind_run rfl).trans (Convert.lift_run ?_ desk)
    rw [order, own]
    rfl
  have resolved : (item.outerReach.resolve
      (.ofTags ((input.bind Tag.given?).getD (.ofValue value)) output)).run.run desk =
      (.ok rule.function, desk) := by
    have listed : (Convert.tableOf item.role).run.run desk = (.ok table, desk) := by
      rw [← tabled]
      rfl
    refine (Convert.bind_run listed).trans ?_
    exact Convert.bind_run (Convert.lift_run asked desk)
  rw [Instance.convert, Role.Reach.convert]
  refine (Convert.bind_run checked).trans ?_
  exact Convert.bind_run resolved

/-- The class of a deed settles a pair by a function: the function has no pairs and the body
declares the pair with no function, or the body declares the pair with this function. -/
def Deed.Settles (deed : Deed) (pair : Pair) (function : Nat) : Prop :=
  (deed.moment.pairsOf function = [] ∧
      ∀ declared id, (declared, id) ∈ deed.body.declared → pair.same declared = false) ∨
    ∃ declared, (declared, function) ∈ deed.body.declared ∧ pair.same declared = true

section

variable {registry : Registry} {deeds : List Deed} (history : History registry deeds)
variable (named : Named registry deeds)
include history named

/-- A class that settles a pair by the function that it binds to the name of the pair's function,
which is no kind, has that function in its table. Either the function that it inherited carried no
rules and was rebound, or the body registered the pair with the function itself. -/
theorem settled_function {deed : Deed} (member : deed ∈ deeds) {held : Table Nat}
    (holds : registry.table? deed.number = some held) {pair : Pair} (asked : registry.Known pair)
    {old : Rule Nat} (found : Table.find? pair held.rows = some old)
    (method : ∀ tag, registry.kindOf? tag ≠ some old.function) {function : Nat}
    (bound : registry.memberOf deed.number (registry.nameOf old.function) =
      some (.function function))
    (settles : deed.Settles pair function) : old.function = function := by
  have told := history_told history
  have stands := told.stands deed member
  obtain ⟨role, table, made, tabled, members, assembled⟩ :=
    deed_assembled told member (stands.full_of_table holds)
  obtain rfl : table = held := by
    rw [Registry.table?, made] at holds
    exact Option.some.inj (tabled.symm.trans holds)
  rw [member_of_body made members] at bound
  split at bound
  · cases bound
  · rcases settles with ⟨plain, without⟩ | ⟨declared, inside, same⟩
    · rcases Deed.found_source told.sound stands assembled asked found with
        ⟨base, written, below, first, has, gets, replaced⟩ | ⟨declared, inside, same⟩
      · -- The pair was inherited, and the function that is bound has taken the inherited one's place.
        have earlier := base_name history member written has gets
        rw [Deed.replaced] at replaced
        cases taken : deed.moment.plain? deed.body (deed.moment.nameOf first.function) with
        | none =>
          rw [taken, Option.getD_none] at replaced
          rw [replaced, ← earlier] at bound
          rw [plain_function bound plain] at taken
          cases taken
        | some id =>
          rw [taken, Option.getD_some] at replaced
          rcases plain_cases taken with ⟨other, _⟩ | ⟨tag, known⟩
          · rw [replaced, named deed member _ id (lookup_mem other), other] at bound
            cases bound
            exact replaced
          · exact absurd (replaced ▸ kind_mono stands.grown known) (method tag)
      · rw [without declared _ inside] at same
        cases same
    · obtain ⟨new, finds, is⟩ := Deed.finds_declared told.sound stands assembled inside
      have known := (assembled.known declared function inside).1
      have keys := known_keys told.sound
      have rows := (Deed.assembled_sound stands assembled).rows
      rw [← Table.find_same keys (Table.rows_known rows) asked known same, found] at finds
      rw [← is, Option.some.inj finds]

end

/-- Conversions by a rule of a method agree with the search for methods wherever the class that the
search finds has the pair and settles it by the function that is found. The rule's function is a
method, and no kind that has taken the place of one.

Proof: no class between the role and the one that the search finds has a member of the function's
name, so each of them took the rule over as its bases have it (`table_follows`). The class that is
found settles the pair by its own function (`settled_function`); and converting calls the function
of the rule (`convert_calls`). -/
theorem dispatch_agrees {registry : Registry} {deeds : List Deed}
    (history : History registry deeds) (named : Named registry deeds) {item : Instance}
    {role : Role} (there : registry.roles[item.role]? = some role) {table : Table Nat}
    (has : role.table = some table) {method argument : String}
    (own : registry.member? role.order convertMethod = some (.further method argument))
    {value : Value} {output : Tag} {input : Option Tag} {pair : Pair}
    (given : pair = .ofTags ((input.bind Tag.given?).getD (.ofValue value)) output)
    {rule : Rule Nat} (asked : table.resolve pair = .ok rule)
    (rules : ∀ tag, registry.kindOf? tag ≠ some rule.function) {deed : Deed}
    (written : deed ∈ deeds)
    (owner : registry.owner? role.order (registry.nameOf rule.function) = some deed.number)
    {held : Table Nat} (holds : registry.table? deed.number = some held) {old : Rule Nat}
    (knows : held.resolve pair = .ok old) {function : Nat}
    (bound : registry.member? role.order (registry.nameOf rule.function) =
      some (.function function))
    (settles : deed.Settles pair function) {desk : Desk} (on : desk.registry = registry) :
    (item.convert value output input).run.run desk =
      (item.callWithin Instance.callLimit function value).run.run desk := by
  obtain ⟨key, finds⟩ := Table.resolve_ok_iff.mp asked
  have known : registry.Known pair := ⟨key, .inl (given ▸ rfl)⟩
  have found := (Table.resolve_ok_iff.mp knows).2
  have order : registry.orderOf item.role = role.order := by
    rw [Registry.orderOf, there]
    rfl
  have tabled : registry.table? item.role = some table := by
    rw [Registry.table?, there]
    exact has
  have follows : rule.function = old.function := by
    rw [← order] at owner
    exact table_follows history named known tabled finds rules owner holds found
  have own' : registry.memberOf deed.number (registry.nameOf old.function) =
      some (.function function) := by
    rw [member_eq, owner] at bound
    rw [← follows]
    exact bound
  have same := settled_function history named written holds known found (follows ▸ rules) own'
    settles
  subst on
  rw [given] at asked
  rw [convert_calls there has own asked, follows, same]

/-- A role that has what the bracketing role has. -/
def echoing : Definition := ⟨"Echoing", ["Bracketing"], [], none, none, none, false, []⟩

/-- The classes up to the echoing one. -/
def Registry.echoed : Registry :=
  ((Registry.initial.defined printing).defined bracketing).defined echoing

/-- What those classes were defined by. -/
def echoes : List Deed :=
  [Registry.initial.deed printing, (Registry.initial.defined printing).deed bracketing,
    ((Registry.initial.defined printing).defined bracketing).deed echoing]

/-- The function that a base overrides with takes over dispatch. -/
theorem override_dispatched :
    Registry.echoed.member? (Registry.echoed.orderOf 4) "show" = some (.function 1) ∧
      (Instance.convert ⟨4, []⟩ (.int 7) (.kind "str") none).run.run
          { Desk.initial with registry := .echoed } =
        (Instance.callWithin ⟨4, []⟩ Instance.callLimit 1 (.int 7)).run.run
          { Desk.initial with registry := .echoed } := by
  have history : History .echoed echoes := history_defined (history_defined (history_defined .start
    printing rfl) bracketing rfl) echoing rfl
  have last : (Registry.initial.defined printing).deed bracketing ∈ echoes := by simp [echoes]
  have settles : ((Registry.initial.defined printing).deed bracketing).Settles
      (.ofTags (.kind "int") (.kind "str")) 1 := by
    have without : ((Registry.initial.defined printing).deed bracketing).body.declared.all
        (fun each => !(Pair.ofTags (.kind "int") (.kind "str")).same each.1) = true := rfl
    refine .inl ⟨rfl, fun declared id inside => ?_⟩
    simpa using List.all_eq_true.mp without (declared, id) inside
  have given : Pair.ofTags (.kind "int") (.kind "str") =
      .ofTags (((none : Option Tag).bind Tag.given?).getD (.ofValue (.int 7))) (.kind "str") := rfl
  refine ⟨rfl, ?_⟩
  exact dispatch_agrees history (named_of_all rfl) rfl rfl rfl given rfl nofun last rfl rfl rfl rfl
    settles rfl

/-- A class without a table that has a function of its own for the name. -/
def mixin : Definition :=
  ⟨"Mixin", [], [.define "show" "show" [] (.text "override") none], none, none, none, true, []⟩

/-- A role with that class in front of the role that shows integers. -/
def mixed : Definition := ⟨"Mixed", ["Mixin", "Printing"], [], none, none, none, false, []⟩

/-- The classes up to the mixed one. -/
def Registry.blended : Registry :=
  ((Registry.initial.defined printing).defined mixin).defined mixed

/-- Dispatch passes by the function of a class that is no role, though the search for the method
finds it. -/
theorem mixin_passed_by :
    (∃ deeds, History .blended deeds ∧ Named .blended deeds) ∧
      (∃ table rule, Registry.blended.table? 4 = some table ∧
        table.resolve (.ofTags (.kind "int") (.kind "str")) = .ok rule ∧
        Registry.blended.nameOf rule.function = "show") ∧
      Registry.blended.member? (Registry.blended.orderOf 4) "show" = some (.function 1) ∧
      ((Instance.callWithin ⟨4, []⟩ Instance.callLimit 1 (.int 7)).run.run
        { Desk.initial with registry := .blended }).1 = .ok (.text "override") ∧
      ((Instance.convert ⟨4, []⟩ (.int 7) (.kind "str") none).run.run
        { Desk.initial with registry := .blended }).1 = .ok (.int 7) := by
  have history := history_defined (history_defined (history_defined .start printing rfl) mixin
    rfl) mixed rfl
  exact ⟨⟨_, history, named_of_all rfl⟩, ⟨_, _, rfl, rfl, rfl⟩, rfl, rfl, rfl⟩

end Stencil.Conversion
