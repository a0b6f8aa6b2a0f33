import Stencil.Conversion.Role
import Stencil.Proofs.Code.Building
import Stencil.Proofs.Conversion.Adding

/-!
# Defining classes

A definition works on a registry and a store. What it does is told by what its
steps yield, with the registry and the store that they leave, and by how they
fail (`Assembly.Yields`, `Assembly.Fails`); chains of steps are taken apart by
`bind_yields_iff` and `bind_fails_iff`.

The lines of a body make assignments one after another (`Assigns`). Functions
that were written stay also when the definition fails later; a class is made
only by a definition that succeeds (`define_yields`, `define_fails`).
-/

namespace Stencil.Conversion

open Code

namespace Assembly

variable {α β : Type} {registry middle after : Registry} {store between final : Store}

/-- A step succeeds on a registry and a store, with an outcome, and leaves both. -/
def Yields (step : Assembly α) (registry : Registry) (store : Store) (value : α) (after : Registry)
    (final : Store) : Prop :=
  (step.run.run registry).run store = ((.ok value, after), final)

/-- A step fails on a registry and a store, and leaves both. -/
def Fails (step : Assembly α) (registry : Registry) (store : Store) (fault : Fault)
    (after : Registry) (final : Store) : Prop :=
  (step.run.run registry).run store = ((.error fault, after), final)

/-- A chain that succeeds went through an outcome of its first step. -/
theorem bind_yields_iff {step : Assembly α} {next : α → Assembly β} {outcome : β} :
    (step >>= next).Yields registry store outcome after final ↔
      ∃ value middle between, step.Yields registry store value middle between ∧
        (next value).Yields middle between outcome after final := by
  unfold Yields
  rw [ExceptT.run_bind, StateT.run_bind, StateT.run_bind]
  rcases (step.run.run registry).run store with ⟨⟨result, middle⟩, between⟩
  cases result with
  | error fault =>
    constructor
    · intro done
      cases done
    · rintro ⟨value, middle, between, first, _⟩
      cases first
  | ok value =>
    constructor
    · intro done
      exact ⟨value, middle, between, rfl, done⟩
    · rintro ⟨_, _, _, first, behind⟩
      cases first
      exact behind

/-- A chain that fails did so in its first step or behind it. -/
theorem bind_fails_iff {step : Assembly α} {next : α → Assembly β} {fault : Fault} :
    (step >>= next).Fails registry store fault after final ↔
      step.Fails registry store fault after final ∨
      ∃ value middle between, step.Yields registry store value middle between ∧
        (next value).Fails middle between fault after final := by
  unfold Yields Fails
  rw [ExceptT.run_bind, StateT.run_bind, StateT.run_bind]
  rcases (step.run.run registry).run store with ⟨⟨result, middle⟩, between⟩
  cases result with
  | error other =>
    constructor
    · intro failed
      cases failed
      exact .inl rfl
    · rintro (failed | ⟨value, middle, between, first, _⟩)
      · cases failed
        rfl
      · cases first
  | ok value =>
    constructor
    · intro failed
      exact .inr ⟨value, middle, between, rfl, failed⟩
    · rintro (failed | ⟨_, _, _, first, behind⟩)
      · cases failed
      · cases first
        exact behind

/-- A value is given as it is. -/
theorem pure_yields_iff {given value : α} :
    (pure given : Assembly α).Yields registry store value after final ↔
      given = value ∧ registry = after ∧ store = final := by
  constructor
  · intro done
    cases done
    exact ⟨rfl, rfl, rfl⟩
  · rintro ⟨rfl, rfl, rfl⟩
    rfl

/-- A chain that looks at the registry first goes on with it. -/
theorem get_bind_yields {next : Registry → Assembly β} {outcome : β} :
    (get >>= next).Yields registry store outcome after final ↔
      (next registry).Yields registry store outcome after final := Iff.rfl

/-- A chain that changes the registry first goes on with the changed one. -/
theorem modify_bind_yields {change : Registry → Registry} {next : Unit → Assembly β} {outcome : β} :
    (modify change >>= next).Yields registry store outcome after final ↔
      (next ()).Yields (change registry) store outcome after final := Iff.rfl

/-- A chain that looks at the registry first fails where it goes on. -/
theorem get_bind_fails {next : Registry → Assembly β} {fault : Fault} :
    (get >>= next).Fails registry store fault after final ↔
      (next registry).Fails registry store fault after final := Iff.rfl

/-- A chain that changes the registry first fails where it goes on. -/
theorem modify_bind_fails {change : Registry → Registry} {next : Unit → Assembly β}
    {fault : Fault} :
    (modify change >>= next).Fails registry store fault after final ↔
      (next ()).Fails (change registry) store fault after final := Iff.rfl

/-- An outcome that needs neither registry nor store is given if it is there. -/
theorem lift_yields_iff {outcome : Except Fault α} {value : α} :
    (liftM outcome : Assembly α).Yields registry store value after final ↔
      outcome = .ok value ∧ registry = after ∧ store = final := by
  cases outcome with
  | error fault =>
    constructor
    · intro done
      cases done
    · rintro ⟨is, _⟩
      cases is
  | ok given =>
    constructor
    · intro done
      cases done
      exact ⟨rfl, rfl, rfl⟩
    · rintro ⟨is, rfl, rfl⟩
      cases is
      rfl

/-- A step that throws gives nothing. -/
theorem not_throw_yields {fault : Fault} {value : α} :
    ¬(throw fault : Assembly α).Yields registry store value after final := by
  intro done
  cases done

/-- A step that throws fails and changes nothing. -/
theorem throw_fails_iff {thrown fault : Fault} :
    (throw thrown : Assembly α).Fails registry store fault after final ↔
      thrown = fault ∧ registry = after ∧ store = final := by
  constructor
  · intro failed
    cases failed
    exact ⟨rfl, rfl, rfl⟩
  · rintro ⟨rfl, rfl, rfl⟩
    rfl

/-- A value that is given is no failure. -/
theorem not_pure_fails {given : α} {fault : Fault} :
    ¬(pure given : Assembly α).Fails registry store fault after final := by
  intro failed
  cases failed

/-- An outcome that needs neither registry nor store fails if it is a fault. -/
theorem lift_fails_iff {outcome : Except Fault α} {fault : Fault} :
    (liftM outcome : Assembly α).Fails registry store fault after final ↔
      outcome = .error fault ∧ registry = after ∧ store = final := by
  cases outcome with
  | ok given =>
    constructor
    · intro failed
      cases failed
    · rintro ⟨is, _⟩
      cases is
  | error other =>
    constructor
    · intro failed
      cases failed
      exact ⟨rfl, rfl, rfl⟩
    · rintro ⟨is, rfl, rfl⟩
      cases is
      rfl

/-- What a building step does on a registry. -/
theorem building_run (step : Build α) :
    ((building step).run.run registry).run store =
      (((step.run.run store).1, registry), (step.run.run store).2) := rfl

/-- A building step changes the store only. -/
theorem building_yields_iff {step : Build α} {value : α} :
    (building step).Yields registry store value after final ↔
      Build.Yields step store value final ∧ registry = after := by
  rw [Yields, Build.Yields, building_run]
  rcases step.run.run store with ⟨result, last⟩
  constructor
  · intro done
    cases done
    exact ⟨rfl, rfl⟩
  · rintro ⟨done, rfl⟩
    cases done
    rfl

/-- A building step that fails changes the store only. -/
theorem building_fails_iff {step : Build α} {fault : Fault} :
    (building step).Fails registry store fault after final ↔
      Build.Fails step store fault final ∧ registry = after := by
  rw [Fails, Build.Fails, building_run]
  rcases step.run.run store with ⟨result, last⟩
  constructor
  · intro done
    cases done
    exact ⟨rfl, rfl⟩
  · rintro ⟨done, rfl⟩
    cases done
    rfl

/-! ## The parts of a definition -/

/-- A class is found by its name. -/
theorem named_yields_iff {name : String} {id : Nat} :
    (named name).Yields registry store id after final ↔
      registry.names.lookup name = some id ∧ registry = after ∧ store = final := by
  rw [named, get_bind_yields]
  cases registry.names.lookup name with
  | none =>
    constructor
    · intro found
      exact absurd found not_throw_yields
    · rintro ⟨known, _⟩
      cases known
  | some known =>
    rw [Option.some.injEq]
    exact pure_yields_iff

/-- Looking for classes by their names changes nothing. -/
theorem all_named {names : List String} {ids : List Nat}
    (found : (names.mapM named).Yields registry store ids after final) :
    List.Forall₂ (fun name id => registry.names.lookup name = some id) names ids ∧
      registry = after ∧ store = final := by
  induction names generalizing ids with
  | nil =>
    obtain ⟨rfl, rfl, rfl⟩ := pure_yields_iff.mp found
    exact ⟨.nil, rfl, rfl⟩
  | cons name rest inductionHypothesis =>
    rw [List.mapM_cons] at found
    simp only [bind_yields_iff, named_yields_iff, pure_yields_iff] at found
    obtain ⟨id, _, _, ⟨known, rfl, rfl⟩, others, _, _, behind, rfl, rfl, rfl⟩ := found
    obtain ⟨ids, rfl, rfl⟩ := inductionHypothesis behind
    exact ⟨.cons known ids, rfl, rfl⟩

/-- The bases of a definition are the classes of the names that it gives. Those of a bare class are
bare. -/
theorem bases_of_yields {definition : Definition} {bases : List Nat}
    (found : (basesOf definition).Yields registry store bases after final) :
    registry = after ∧ store = final ∧
      (definition.bare = true → ∀ base ∈ bases, registry.table? base = none) ∧
      (definition.bare = false →
        List.Forall₂ (fun name id => registry.names.lookup name = some id)
          definition.bases bases) ∧
      ∃ ids, List.Forall₂ (fun name id => registry.names.lookup name = some id)
        definition.below ids ∧ ∀ base ∈ bases, base ∈ ids := by
  rw [basesOf, bind_yields_iff] at found
  obtain ⟨ids, _, _, looked, found⟩ := found
  obtain ⟨known, rfl, rfl⟩ := all_named looked
  rw [get_bind_yields, pure_yields_iff] at found
  obtain ⟨rfl, rfl, rfl⟩ := found
  refine ⟨rfl, rfl, ?_, ?_, ids, known, ?_⟩
  · intro bare base member
    rw [if_pos bare] at member
    simpa using (List.mem_filter.mp member).2
  · intro full
    rw [Definition.below, if_neg (Bool.eq_false_iff.mp full)] at known
    rwa [if_neg (Bool.eq_false_iff.mp full)]
  · intro base member
    split at member
    · exact (List.mem_filter.mp member).1
    · exact member

end Assembly

/-- The registry with a new function. -/
def Registry.withFunction (registry : Registry) (name : String) (pairs : List Pair) (callee : Callee)
    (label : Option String) : Registry :=
  { registry with
    functions := registry.functions.push
      ⟨name, Assembly.placed registry.functions.size 0 pairs, none, callee⟩
    labels := (label.toList.map fun label => (label, registry.functions.size)) ++ registry.labels }

/-- The registry where the kind of a tag is known as a function. -/
def Registry.withKind (registry : Registry) (tag : Tag) : Registry :=
  if tag.isKind && (registry.kindOf? tag).isNone then
    { registry.withFunction tag.label [] (.construction tag) none with
      kinds := registry.kinds ++ [(tag, registry.functions.size)] }
  else registry

/-- The registry where a function declares further pairs. -/
def Registry.declaring (registry : Registry) (id : Nat) (pairs : List Pair) : Registry :=
  { registry with
    functions := registry.functions.modify id fun function =>
      { function with
        pairs := function.pairs ++ Assembly.placed id function.pairs.length pairs } }

/-- An assignment in a body: the name, the member, and the pairs that the member declares then. -/
structure Assignment where
  field : String
  member : Member
  declared : List (Pair × Nat)

/-- The assignments that the lines of a body make, one for each line. What a function declares is
looked up when it is assigned. -/
inductive Assigns : Registry → List Item → List Assignment → Registry → Prop where
  | nil {registry : Registry} : Assigns registry [] [] registry
  | define {registry after : Registry} {field name : String} {pairs : List Pair} {recipe : Recipe}
      {label : Option String} {rest : List Item} {given : List Assignment}
      (behind : Assigns (registry.withFunction name pairs (.recipe recipe) label) rest given after) :
      Assigns registry (.define field name pairs recipe label :: rest)
        (⟨field, .function registry.functions.size,
          (Assembly.placed registry.functions.size 0 pairs).map (·, registry.functions.size)⟩ ::
            given) after
  | reuse {registry after : Registry} {label field : String} {pairs : List Pair} {id : Nat}
      {rest : List Item} {given : List Assignment} (known : registry.labels.lookup label = some id)
      (behind : Assigns (registry.declaring id pairs) rest given after) :
      Assigns registry (.reuse label field pairs :: rest)
        (⟨field, .function id, ((registry.declaring id pairs).pairsOf id).map (·, id)⟩ :: given) after
  | set {registry after : Registry} {field : String} {value : Value} {rest : List Item}
      {given : List Assignment} (behind : Assigns registry rest given after) :
      Assigns registry (.set field value :: rest) (⟨field, .value value, []⟩ :: given) after
  | tag {registry after : Registry} {side : Side} {tag : Tag} {rest : List Item}
      {given : List Assignment} (behind : Assigns (registry.withKind tag) rest given after) :
      Assigns registry (.tag side tag :: rest) (⟨side.field, .tag tag, []⟩ :: given) after
  | required {registry after : Registry} {pairs : List Pair} {rest : List Item}
      {given : List Assignment} (behind : Assigns registry rest given after) :
      Assigns registry (.required pairs :: rest) (⟨requiredField, .pairs pairs, []⟩ :: given) after

/-- A body with one assignment more. -/
def Body.assigned (body : Body) (given : Assignment) : Body :=
  ⟨(given.field, given.member) :: body.members, body.declared ++ given.declared⟩

/-- An assignment that declares nothing sets a member. -/
theorem assigned_set (body : Body) (field : String) (member : Member) :
    body.assigned ⟨field, member, []⟩ = body.set field member := by
  rw [Body.assigned, Body.set, List.append_nil]

namespace Assembly

variable {registry after : Registry} {store final : Store}

/-- A new function is the last. -/
theorem new_function_yields_iff {name : String} {pairs : List Pair} {recipe : Recipe}
    {label : Option String} {id : Nat} :
    (newFunction name pairs recipe label).Yields registry store id after final ↔
      registry.functions.size = id ∧
        registry.withFunction name pairs (.recipe recipe) label = after ∧ store = final := by
  rw [newFunction, get_bind_yields, modify_bind_yields]
  exact pure_yields_iff

/-- A kind that is bound is known as a function. -/
theorem bind_kind_eq (tag : Tag) :
    bindKind tag = modify fun registry => registry.withKind tag := by
  have same (registry : Registry) : registry.withKind tag =
      if tag.isKind && (registry.kindOf? tag).isNone then
        { registry with
          functions := registry.functions.push ⟨tag.label, [], none, .construction tag⟩
          kinds := registry.kinds ++ [(tag, registry.functions.size)] }
      else registry := by
    rw [Registry.withKind]
    split <;> rfl
  simp only [same]
  rfl

/-- A function is found by its label. -/
theorem labelled_yields_iff {label : String} {id : Nat} :
    (labelled label).Yields registry store id after final ↔
      registry.labels.lookup label = some id ∧ registry = after ∧ store = final := by
  rw [labelled, get_bind_yields]
  cases registry.labels.lookup label with
  | none =>
    constructor
    · intro found
      exact absurd found not_throw_yields
    · rintro ⟨known, _⟩
      cases known
  | some known =>
    rw [Option.some.injEq]
    exact pure_yields_iff

/-- A new function declares its pairs. -/
theorem pairs_of_fresh (registry : Registry) (name : String) (pairs : List Pair) (callee : Callee)
    (label : Option String) :
    (registry.withFunction name pairs callee label).pairsOf registry.functions.size =
      placed registry.functions.size 0 pairs := by
  simp [Registry.pairsOf, Registry.withFunction]

/-- The lines of a body make their assignments. The induction is on the lines. -/
theorem items_yield {items : List Item} {body written : Body}
    (done : (items.foldlM item body).Yields registry store written after final) :
    ∃ given, Assigns registry items given after ∧ written = given.foldl Body.assigned body ∧
      store = final := by
  induction items generalizing registry store body with
  | nil =>
    obtain ⟨rfl, rfl, rfl⟩ := pure_yields_iff.mp done
    exact ⟨[], .nil, rfl, rfl⟩
  | cons line rest inductionHypothesis =>
    rw [List.foldlM_cons, bind_yields_iff] at done
    obtain ⟨next, middle, between, first, behind⟩ := done
    obtain ⟨given, assigns, rfl, rfl⟩ := inductionHypothesis behind
    cases line with
    | define field name pairs recipe label =>
      rw [item, bind_yields_iff] at first
      obtain ⟨id, _, _, made, first⟩ := first
      obtain ⟨rfl, rfl, rfl⟩ := new_function_yields_iff.mp made
      rw [get_bind_yields, pure_yields_iff] at first
      obtain ⟨rfl, rfl, rfl⟩ := first
      refine ⟨_, .define assigns, ?_, rfl⟩
      rw [List.foldl_cons, pairs_of_fresh]
      rfl
    | reuse label field pairs =>
      rw [item, bind_yields_iff] at first
      obtain ⟨id, _, _, found, first⟩ := first
      obtain ⟨known, rfl, rfl⟩ := labelled_yields_iff.mp found
      rw [declare, modify_bind_yields, get_bind_yields, pure_yields_iff] at first
      obtain ⟨rfl, rfl, rfl⟩ := first
      exact ⟨_, .reuse known assigns, rfl, rfl⟩
    | set field value =>
      obtain ⟨rfl, rfl, rfl⟩ := pure_yields_iff.mp first
      refine ⟨_, .set assigns, ?_, rfl⟩
      rw [List.foldl_cons, assigned_set]
    | tag side tag =>
      rw [item, bind_kind_eq, modify_bind_yields, pure_yields_iff] at first
      obtain ⟨rfl, rfl, rfl⟩ := first
      refine ⟨_, .tag assigns, ?_, rfl⟩
      rw [List.foldl_cons, assigned_set]
    | required pairs =>
      obtain ⟨rfl, rfl, rfl⟩ := pure_yields_iff.mp first
      refine ⟨_, .required assigns, ?_, rfl⟩
      rw [List.foldl_cons, assigned_set]

/-- A body has what its lines assign. -/
theorem body_yields {definition : Definition} {written : Body}
    (done : (body definition).Yields registry store written after final) :
    ∃ given, Assigns registry definition.lines given after ∧
      written = given.foldl Body.assigned .empty ∧ store = final :=
  items_yield done

/-- Checking what a class requires changes no class. -/
theorem required_yields {role : Role}
    (checked : (checkRequired role).Yields registry store () after final) :
    registry = after := by
  unfold checkRequired at checked
  split at checked
  · exact (pure_yields_iff.mp checked).2.1
  · rw [get_bind_yields, bind_yields_iff] at checked
    obtain ⟨_, _, _, callable, checked⟩ := checked
    obtain ⟨_, rfl, rfl⟩ := lift_yields_iff.mp callable
    exact (building_yields_iff.mp checked).2

/-- A definition that succeeds makes one class, the last. -/
theorem define_yields {definition : Definition} {id : Nat}
    (made : (define definition).Yields registry store id after final) :
    ∃ bases written middle role,
      (basesOf definition).Yields registry store bases registry store ∧
      (body definition).Yields registry store written middle store ∧
      middle.newRole definition written bases = .ok role ∧
      (checkRequired role).Yields middle store () middle final ∧
      id = middle.roles.size ∧
      after = middle.withRole definition.name role registry.functions.size := by
  rw [define, bind_yields_iff] at made
  obtain ⟨bases, _, _, based, made⟩ := made
  obtain ⟨rfl, rfl, _⟩ := bases_of_yields based
  rw [get_bind_yields, bind_yields_iff] at made
  obtain ⟨written, middle, _, lines, made⟩ := made
  obtain ⟨_, _, _, rfl⟩ := body_yields lines
  rw [get_bind_yields, bind_yields_iff] at made
  obtain ⟨role, _, _, lifted, made⟩ := made
  obtain ⟨created, rfl, rfl⟩ := lift_yields_iff.mp lifted
  rw [bind_yields_iff] at made
  obtain ⟨_, _, _, checked, made⟩ := made
  obtain rfl := required_yields checked
  rw [get_bind_yields, modify_bind_yields, pure_yields_iff] at made
  obtain ⟨rfl, rfl, rfl⟩ := made
  exact ⟨bases, written, _, role, based, lines, created, checked, rfl, rfl⟩

/-! ## Definitions that fail -/

/-- A class is not found if there is none of its name. -/
theorem named_fails {name : String} {fault : Fault}
    (failed : (named name).Fails registry store fault after final) :
    fault = .missingKey (Text.display name) ∧ registry = after := by
  rw [named, get_bind_fails] at failed
  cases known : registry.names.lookup name with
  | none =>
    rw [known] at failed
    obtain ⟨rfl, rfl, rfl⟩ := throw_fails_iff.mp failed
    exact ⟨rfl, rfl⟩
  | some id =>
    rw [known] at failed
    exact absurd failed not_pure_fails

/-- A function is not found if there is none of its label. -/
theorem labelled_fails {label : String} {fault : Fault}
    (failed : (labelled label).Fails registry store fault after final) :
    fault = .missingKey (Text.display label) ∧ registry = after := by
  rw [labelled, get_bind_fails] at failed
  cases known : registry.labels.lookup label with
  | none =>
    rw [known] at failed
    obtain ⟨rfl, rfl, rfl⟩ := throw_fails_iff.mp failed
    exact ⟨rfl, rfl⟩
  | some id =>
    rw [known] at failed
    exact absurd failed not_pure_fails

/-- Bases are not found if there is no class of one of their names. -/
theorem bases_of_fails {definition : Definition} {fault : Fault}
    (failed : (basesOf definition).Fails registry store fault after final) :
    (∃ name, fault = .missingKey (Text.display name)) ∧ registry = after := by
  rw [basesOf, bind_fails_iff] at failed
  rcases failed with unknown | ⟨_, _, _, _, last⟩
  · generalize definition.below = names at unknown
    induction names with
    | nil => exact absurd unknown not_pure_fails
    | cons name rest inductionHypothesis =>
      rw [List.mapM_cons, bind_fails_iff] at unknown
      rcases unknown with here | ⟨id, _, _, found, behind⟩
      · obtain ⟨rfl, rfl⟩ := named_fails here
        exact ⟨⟨name, rfl⟩, rfl⟩
      · obtain ⟨_, rfl, rfl⟩ := named_yields_iff.mp found
        rw [bind_fails_iff] at behind
        rcases behind with here | ⟨_, _, _, _, last⟩
        · exact inductionHypothesis here
        · exact absurd last not_pure_fails
  · rw [get_bind_fails] at last
    exact absurd last not_pure_fails

/-- The lines of a body fail at a label that no function has. The lines before it are carried out.
The induction is on the lines, over what the lines before have bound: only taking up a function by
its label can fail. -/
theorem items_fail {items : List Item} {body : Body} {fault : Fault}
    (failed : (items.foldlM item body).Fails registry store fault after final) :
    ∃ lines given label, Assigns registry lines given after ∧
      fault = .missingKey (Text.display label) := by
  induction items generalizing registry store body with
  | nil => exact absurd failed not_pure_fails
  | cons line rest inductionHypothesis =>
    rw [List.foldlM_cons, bind_fails_iff] at failed
    cases line with
    | define field name pairs recipe label =>
      rcases failed with here | ⟨next, middle, between, first, behind⟩
      · cases here
      · obtain ⟨lines, given, missing, assigns, fault⟩ := inductionHypothesis behind
        cases first
        exact ⟨.define field name pairs recipe label :: lines, _, missing, .define assigns, fault⟩
    | reuse label field pairs =>
      rw [item] at failed
      rcases failed with here | ⟨next, middle, between, first, behind⟩
      · rw [bind_fails_iff] at here
        rcases here with missing | ⟨id, _, _, found, last⟩
        · obtain ⟨rfl, rfl⟩ := labelled_fails missing
          exact ⟨[], [], label, .nil, rfl⟩
        · rw [declare, modify_bind_fails, get_bind_fails] at last
          exact absurd last not_pure_fails
      · obtain ⟨lines, given, missing, assigns, fault⟩ := inductionHypothesis behind
        rw [bind_yields_iff] at first
        obtain ⟨id, _, _, found, first⟩ := first
        obtain ⟨known, rfl, rfl⟩ := labelled_yields_iff.mp found
        rw [declare, modify_bind_yields, get_bind_yields, pure_yields_iff] at first
        obtain ⟨rfl, rfl, rfl⟩ := first
        exact ⟨.reuse label field pairs :: lines, _, missing, .reuse known assigns, fault⟩
    | set field value =>
      rcases failed with here | ⟨next, middle, between, first, behind⟩
      · cases here
      · obtain ⟨lines, given, missing, assigns, fault⟩ := inductionHypothesis behind
        obtain ⟨rfl, rfl, rfl⟩ := pure_yields_iff.mp first
        exact ⟨.set field value :: lines, _, missing, .set assigns, fault⟩
    | tag side tag =>
      rw [item, bind_kind_eq] at failed
      rcases failed with here | ⟨next, middle, between, first, behind⟩
      · rw [modify_bind_fails] at here
        exact absurd here not_pure_fails
      · obtain ⟨lines, given, missing, assigns, fault⟩ := inductionHypothesis behind
        rw [modify_bind_yields, pure_yields_iff] at first
        obtain ⟨rfl, rfl, rfl⟩ := first
        exact ⟨.tag side tag :: lines, _, missing, .tag assigns, fault⟩
    | required pairs =>
      rcases failed with here | ⟨next, middle, between, first, behind⟩
      · cases here
      · obtain ⟨lines, given, missing, assigns, fault⟩ := inductionHypothesis behind
        obtain ⟨rfl, rfl, rfl⟩ := pure_yields_iff.mp first
        exact ⟨.required pairs :: lines, _, missing, .required assigns, fault⟩

/-- Checking what a class requires changes no class, also when it fails. -/
theorem required_fails {role : Role} {fault : Fault}
    (failed : (checkRequired role).Fails registry store fault after final) : registry = after := by
  unfold checkRequired at failed
  split at failed
  · exact absurd failed not_pure_fails
  · rw [get_bind_fails, bind_fails_iff] at failed
    rcases failed with uncallable | ⟨_, _, _, callable, failed⟩
    · exact (lift_fails_iff.mp uncallable).2.1
    · obtain ⟨_, rfl, rfl⟩ := lift_yields_iff.mp callable
      exact (building_fails_iff.mp failed).2

/-- A definition that fails has carried out the lines of its body, or some of them, and made no
class. It fails for want of a base or a function, when the class is put together, or when what the
class requires is checked. -/
theorem define_fails {definition : Definition} {fault : Fault}
    (failed : (define definition).Fails registry store fault after final) :
    ∃ lines given, Assigns registry lines given after ∧
      ((∃ name, fault = .missingKey (Text.display name)) ∨
        ∃ bases written, (basesOf definition).Yields registry store bases registry store ∧
          (body definition).Yields registry store written after store ∧
          (after.newRole definition written bases = .error fault ∨
            ∃ role, after.newRole definition written bases = .ok role ∧
              (checkRequired role).Fails after store fault after final)) := by
  rw [define, bind_fails_iff] at failed
  rcases failed with unbased | ⟨bases, _, _, based, failed⟩
  · obtain ⟨missing, rfl⟩ := bases_of_fails unbased
    exact ⟨[], [], .nil, .inl missing⟩
  obtain ⟨rfl, rfl, _⟩ := bases_of_yields based
  rw [get_bind_fails, bind_fails_iff] at failed
  rcases failed with unwritten | ⟨written, middle, _, lines, failed⟩
  · obtain ⟨lines, given, label, assigns, rfl⟩ := items_fail unwritten
    exact ⟨lines, given, assigns, .inl ⟨label, rfl⟩⟩
  obtain ⟨given, assigns, _, rfl⟩ := body_yields lines
  rw [get_bind_fails, bind_fails_iff] at failed
  rcases failed with uncreated | ⟨role, _, _, lifted, failed⟩
  · obtain ⟨refused, rfl, rfl⟩ := lift_fails_iff.mp uncreated
    exact ⟨_, given, assigns, .inr ⟨bases, written, based, lines, .inl refused⟩⟩
  obtain ⟨created, rfl, rfl⟩ := lift_yields_iff.mp lifted
  rw [bind_fails_iff] at failed
  rcases failed with unmet | ⟨_, _, _, _, last⟩
  · obtain rfl := required_fails unmet
    exact ⟨_, given, assigns, .inr ⟨bases, written, based, lines, .inr ⟨role, created, unmet⟩⟩⟩
  · rw [get_bind_fails, modify_bind_fails] at last
    exact absurd last not_pure_fails

end Assembly

end Stencil.Conversion
