import Mathlib.Data.List.Nodup
import Mathlib.Logic.Relation
import Stencil.Proofs.Code.Building
import Stencil.Code.Files

/-!
# Constructions of packages

A construction is a sequence of steps that make modules and packages, put
statements into them and attach them to each other, in any order. Objects are
called by labels, so two constructions can be compared although they number
their objects differently.

`Site` is what a construction has made so far. A step is carried out by the
building operations; one that fails leaves what it had already done, and the
construction goes on. `Orderly` names the constructions that the theory is
about: every object is there before it is used, is attached at most once, and
is never attached below itself. Nothing is asked of names and of the values that
are put into bodies.
-/

namespace Stencil.Code

/-- A step of a construction. Labels say which object is meant, so a step does not depend on the
numbers that objects get. -/
inductive Step (Label : Type) where
  | module (label : Label) (name : String)
  | package (label : Label) (name : String)
  | push (label : Label) (value : Value)
  | extend (label : Label) (values : Value)
  | attach (sort : Build.Attachment) (parent child : Label)

/-- What a construction has made: the store, and the object that each label calls. A label that
calls nothing is worked on in vain: such a step fails and leaves what is there. -/
structure Site (Label : Type) where
  store : Store
  refs : List (Label × Ref)

variable {Label : Type}

section Making

variable [DecidableEq Label]

namespace Site

/-- The object of a label. -/
def named (site : Site Label) (label : Label) : Value :=
  match site.refs.lookup label with
  | some ref => .object ref
  | none => .none

/-- Carry out a step that makes an object, and call the object by a label. -/
def making (site : Site Label) (label : Label) (step : Build Ref) : Site Label :=
  match step.run.run site.store with
  | (.ok ref, store) => ⟨store, (label, ref) :: site.refs⟩
  | (.error _, store) => ⟨store, site.refs⟩

/-- Carry out a step that works on objects that are there. -/
def doing (site : Site Label) (step : Build Value) : Site Label :=
  ⟨(step.run.run site.store).2, site.refs⟩

/-- Carry out a step. -/
def after (site : Site Label) : Step Label → Site Label
  | .module label name => site.making label (Ref.module <$> Build.newModule name)
  | .package label name => site.making label (Ref.package <$> Build.newPackage name)
  | .push label value => site.doing (Build.pushOnto (site.named label) value)
  | .extend label values => site.doing (Build.extendOnto (site.named label) values)
  | .attach sort parent child =>
    site.doing (Build.attach sort (site.named parent) (site.named child))

/-- The files of the object of a label. -/
def files (site : Site Label) (label : Label) : Except Fault (List OutputFile) :=
  site.store.files (site.named label)

/-- The module of a label: a module, or a package's root module. -/
def home? (site : Site Label) (label : Label) : Option Nat :=
  match site.refs.lookup label with
  | some (.module id) => some id
  | some (.package id) => site.store.packages[id]?.map Package.root
  | _ => none

/-- Where the file of a label's module goes. -/
def path? (site : Site Label) (label : Label) : Option Path :=
  (site.home? label).bind fun id => site.store.modules[id]?.map Module.path

/-- The directory of a label's package. -/
def directory? (site : Site Label) (label : Label) : Option Path :=
  match site.refs.lookup label with
  | some (.package id) => site.store.packages[id]?.map Package.path
  | _ => none

/-- The file of a label's module. -/
def file (site : Site Label) (label : Label) : Except Fault OutputFile :=
  match site.home? label with
  | some id => site.store.file (.module id)
  | none => .error (.noAttribute "NoneType" "path")

end Site

/-- What a construction makes, beginning with a store. -/
def construct (start : Store) (steps : List (Step Label)) : Site Label :=
  steps.foldl Site.after ⟨start, []⟩

/-- The last step is carried out on what the others made. -/
theorem construct_append (start : Store) (steps : List (Step Label)) (step : Step Label) :
    construct start (steps ++ [step]) = (construct start steps).after step := by
  rw [construct, List.foldl_append]
  rfl

end Making

namespace Step

/-- The label of the object that a step makes. -/
def creation? : Step Label → Option Label
  | .module label _ | .package label _ => some label
  | _ => none

/-- The label of the package that a step makes. -/
def package? : Step Label → Option Label
  | .package label _ => some label
  | _ => none

/-- The label of the object that a step attaches. -/
def attached? : Step Label → Option Label
  | .attach _ _ child => some child
  | _ => none

/-- The label of the object that a step attaches to a package by an operation. -/
def childOf? [DecidableEq Label] (sort : Build.Attachment) (parent : Label) :
    Step Label → Option Label
  | .attach other holder child => if other = sort ∧ holder = parent then some child else none
  | _ => none

end Step

/-- The labels of the objects made by a construction, in the order in which they are made. -/
def created (steps : List (Step Label)) : List Label := steps.filterMap Step.creation?

/-- The labels of the packages made by a construction. -/
def shelved (steps : List (Step Label)) : List Label := steps.filterMap Step.package?

/-- The labels of what a construction attaches to a package by an operation, in order. -/
def children [DecidableEq Label] (sort : Build.Attachment) (steps : List (Step Label))
    (parent : Label) : List Label :=
  steps.filterMap (Step.childOf? sort parent)

/-- An object is attached to a package. -/
def Below (steps : List (Step Label)) (child parent : Label) : Prop :=
  ∃ sort, .attach sort parent child ∈ steps

/-- The names of the packages above an object, the outermost first. It is read off the steps and
knows nothing of stored paths. -/
inductive Ancestry (steps : List (Step Label)) : Label → List String → Prop where
  | loose {label : Label} (alone : ∀ parent, ¬Below steps label parent) : Ancestry steps label []
  | attached {label parent : Label} {name : String} {above : List String}
      (below : Below steps label parent) (named : .package parent name ∈ steps)
      (upward : Ancestry steps parent above) : Ancestry steps label (above ++ [name])

/-- What a step works on is there, and no package is attached as a module. -/
def Step.Ready (before : List (Step Label)) : Step Label → Prop
  | .push label _ | .extend label _ => label ∈ created before
  | .attach sort parent child =>
    parent ∈ shelved before ∧ child ∈ created before ∧ (sort = .module → child ∉ shelved before)
  | _ => True

/-- Whether a step works on what is there can be looked up. -/
instance [DecidableEq Label] (before : List (Step Label)) :
    (step : Step Label) → Decidable (step.Ready before)
  | .module .. | .package .. => inferInstanceAs (Decidable True)
  | .push label _ | .extend label _ => inferInstanceAs (Decidable (label ∈ created before))
  | .attach sort parent child => inferInstanceAs (Decidable (parent ∈ shelved before ∧
      child ∈ created before ∧ (sort = .module → child ∉ shelved before)))

/-- A construction that makes each object once, uses it afterwards, attaches it at most once and
never below itself. -/
structure Orderly (steps : List (Step Label)) : Prop where
  fresh : (created steps).Nodup
  ready : ∀ before step after, steps = before ++ step :: after → step.Ready before
  once : (steps.filterMap Step.attached?).Nodup
  acyclic : ∀ label, ¬Relation.TransGen (Below steps) label label

/-! ## Paths -/

namespace Path

/-- The path without names below no root. -/
def nothing : Path := ⟨.relative, []⟩

/-- Names joined one after the other. -/
def joined (names : List String) : Path :=
  names.foldl (fun path name => path.join (.ofText name)) nothing

/-- Joining behind nothing changes nothing. -/
@[simp] theorem nothing_join (path : Path) : nothing.join path = path := by
  obtain ⟨root, parts⟩ := path
  cases root <;> rfl

/-- Joining nothing changes nothing. -/
@[simp] theorem join_nothing (path : Path) : path.join nothing = path := by
  simp [join, nothing]

/-- Joining is associative: a rooted path leaves out all before it, and other parts are put behind
each other. -/
theorem join_join (outer middle inner : Path) :
    (outer.join middle).join inner = outer.join (middle.join inner) := by
  obtain ⟨outerRoot, outerParts⟩ := outer
  obtain ⟨middleRoot, middleParts⟩ := middle
  obtain ⟨innerRoot, innerParts⟩ := inner
  cases innerRoot <;> cases middleRoot <;> simp [join, List.append_assoc]

/-- One name more is joined behind the others. -/
@[simp] theorem joined_append (names : List String) (name : String) :
    joined (names ++ [name]) = (joined names).join (.ofText name) := by
  rw [joined, List.foldl_append]
  rfl

end Path

/-! ## One step more -/

section More

variable (steps : List (Step Label)) (step : Step Label)

/-- What a last step makes is last. -/
theorem created_append : created (steps ++ [step]) = created steps ++ step.creation?.toList := by
  rw [created, List.filterMap_append]
  cases step <;> rfl

/-- A package that a last step makes is last. -/
theorem shelved_append : shelved (steps ++ [step]) = shelved steps ++ step.package?.toList := by
  rw [shelved, List.filterMap_append]
  cases step <;> rfl

/-- What a last step attaches is last. -/
theorem children_append [DecidableEq Label] (sort : Build.Attachment) (parent : Label) :
    children sort (steps ++ [step]) parent =
      children sort steps parent ++ (step.childOf? sort parent).toList := by
  rw [children, children, List.filterMap_append, List.filterMap_cons]
  cases step.childOf? sort parent <;> rfl

end More

variable {steps : List (Step Label)} {step : Step Label}

/-- A construction is orderly if each of its steps works on what is there and ranks fall from
packages to what is attached to them. -/
theorem orderly_of_rank (rank : Label → Nat) (fresh : (created steps).Nodup)
    (ready : ∀ place : Fin steps.length, steps[place].Ready (steps.take place))
    (once : (steps.filterMap Step.attached?).Nodup)
    (falls : ∀ step ∈ steps, ∀ sort parent child, step = .attach sort parent child →
      rank child < rank parent) : Orderly steps := by
  refine ⟨fresh, ?_, once, ?_⟩
  · rintro before step after rfl
    simpa using ready ⟨before.length, by simp⟩
  · intro label cycle
    have rises {lower upper : Label} (above : Relation.TransGen (Below steps) lower upper) :
        rank lower < rank upper := by
      induction above with
      | single below =>
        obtain ⟨sort, member⟩ := below
        exact falls _ member sort _ _ rfl
      | tail _ below higher =>
        obtain ⟨sort, member⟩ := below
        exact Nat.lt_trans higher (falls _ member sort _ _ rfl)
    exact Nat.lt_irrefl _ (rises cycle)

/-- The first steps of an orderly construction are one. -/
theorem orderly_before {more : List (Step Label)} (orderly : Orderly (steps ++ more)) :
    Orderly steps := by
  constructor
  · have fresh := orderly.fresh
    rw [created, List.filterMap_append] at fresh
    exact fresh.of_append_left
  · intro before step after cut
    exact orderly.ready before step (after ++ more) (by simp [cut])
  · have once := orderly.once
    rw [List.filterMap_append] at once
    exact once.of_append_left
  · intro label cycle
    have kept : Below steps ≤ Below (steps ++ more) := by
      rintro child parent ⟨sort, member⟩
      exact ⟨sort, List.mem_append_left more member⟩
    exact orderly.acyclic label (Relation.TransGen.mono kept label label cycle)

/-- The last step of an orderly construction works on what the others made. -/
theorem ready_last (orderly : Orderly (steps ++ [step])) : step.Ready steps :=
  orderly.ready steps step [] rfl

/-- Modules are made. -/
theorem module_created {label : Label} {name : String} (member : .module label name ∈ steps) :
    label ∈ created steps := List.mem_filterMap.mpr ⟨_, member, rfl⟩

/-- Packages are made. -/
theorem package_created {label : Label} {name : String} (member : .package label name ∈ steps) :
    label ∈ created steps := List.mem_filterMap.mpr ⟨_, member, rfl⟩

/-- The packages of a construction are those that are made as packages. -/
theorem mem_shelved {label : Label} :
    label ∈ shelved steps ↔ ∃ name, .package label name ∈ steps := by
  rw [shelved, List.mem_filterMap]
  constructor
  · rintro ⟨step, member, same⟩
    cases step <;> cases same
    exact ⟨_, member⟩
  · rintro ⟨name, member⟩
    exact ⟨_, member, rfl⟩

/-- The objects of a construction are its modules and its packages. -/
theorem mem_created {label : Label} :
    label ∈ created steps ↔
      (∃ name, .module label name ∈ steps) ∨ ∃ name, .package label name ∈ steps := by
  constructor
  · intro member
    obtain ⟨step, inside, same⟩ := List.mem_filterMap.mp member
    cases step <;> cases same
    · exact .inl ⟨_, inside⟩
    · exact .inr ⟨_, inside⟩
  · rintro (⟨name, member⟩ | ⟨name, member⟩)
    · exact module_created member
    · exact package_created member

/-- An object is attached by one of the two operations. -/
theorem mem_children [DecidableEq Label] {sort : Build.Attachment} {parent child : Label} :
    child ∈ children sort steps parent ↔ .attach sort parent child ∈ steps := by
  rw [children, List.mem_filterMap]
  constructor
  · rintro ⟨step, member, same⟩
    cases step with
    | attach other holder item =>
      simp only [Step.childOf?, Option.ite_none_right_eq_some, Option.some.injEq] at same
      obtain ⟨⟨rfl, rfl⟩, rfl⟩ := same
      exact member
    | _ => cases same
  · intro member
    exact ⟨_, member, by simp [Step.childOf?]⟩

/-- What is below what after one step more: what was, and what the step attaches. -/
theorem below_append {child parent : Label} :
    Below (steps ++ [step]) child parent ↔
      Below steps child parent ∨ ∃ sort, step = .attach sort parent child := by
  constructor
  · rintro ⟨sort, member⟩
    rcases List.mem_append.mp member with old | new
    · exact .inl ⟨sort, old⟩
    · exact .inr ⟨sort, (List.mem_singleton.mp new).symm⟩
  · rintro (⟨sort, member⟩ | ⟨sort, rfl⟩)
    · exact ⟨sort, List.mem_append_left _ member⟩
    · exact ⟨sort, by simp⟩

/-- What is attached is there, and so is what it is attached to. -/
theorem below_created (orderly : Orderly steps) {child parent : Label}
    (below : Below steps child parent) : child ∈ created steps ∧ parent ∈ shelved steps := by
  obtain ⟨sort, member⟩ := below
  obtain ⟨before, after, cut⟩ := List.append_of_mem member
  obtain ⟨holder, item, _⟩ := orderly.ready before _ after cut
  rw [cut, created, shelved, List.filterMap_append, List.filterMap_append]
  exact ⟨List.mem_append_left _ item, List.mem_append_left _ holder⟩

/-- An object is attached once. -/
theorem attached_once {child parent : Label} {sort : Build.Attachment}
    (orderly : Orderly (steps ++ [.attach sort parent child])) (other : Label) :
    ¬Below steps child other := by
  rintro ⟨before, member⟩
  have once := orderly.once
  rw [List.filterMap_append, List.nodup_append'] at once
  refine once.2.2 (List.mem_filterMap.mpr ⟨_, member, rfl⟩) ?_
  simp [Step.attached?]

/-- What a step makes was not there before. -/
theorem creation_fresh (orderly : Orderly (steps ++ [step])) {label : Label}
    (makes : step.creation? = some label) : label ∉ created steps := by
  have fresh := orderly.fresh
  rw [created_append, makes, List.nodup_append'] at fresh
  intro member
  exact fresh.2.2 member (by simp)

/-- Where no value is given twice, the items that give a value are the same. -/
theorem eq_of_nodup_filter_map {α β : Type} {items : List α} {value? : α → Option β} {first second : α}
    {value : β} (distinct : (items.filterMap value?).Nodup) (member : first ∈ items)
    (again : second ∈ items) (gives : value? first = some value)
    (repeats : value? second = some value) : first = second := by
  obtain ⟨before, after, rfl⟩ := List.append_of_mem member
  rw [List.filterMap_append, List.filterMap_cons, gives, List.nodup_append', List.nodup_cons]
    at distinct
  obtain ⟨_, ⟨behind, _⟩, front⟩ := distinct
  rcases List.mem_append.mp again with early | late
  · exact absurd (List.mem_filterMap.mpr ⟨second, early, repeats⟩) fun known =>
      front known (by simp)
  · rcases List.mem_cons.mp late with same | far
    · exact same.symm
    · exact absurd (List.mem_filterMap.mpr ⟨second, far, repeats⟩) behind

/-- No object is made both as a module and as a package, and each has one name. -/
theorem creation_unique (orderly : Orderly steps) {first second : Step Label} {label : Label}
    (made : first ∈ steps) (again : second ∈ steps) (makes : first.creation? = some label)
    (repeats : second.creation? = some label) : first = second :=
  eq_of_nodup_filter_map orderly.fresh made again makes repeats

/-- An object is attached to one package. -/
theorem below_unique (orderly : Orderly steps) {child first second : Label}
    (below : Below steps child first) (again : Below steps child second) : first = second := by
  obtain ⟨sort, member⟩ := below
  obtain ⟨kind, repeated⟩ := again
  have same := eq_of_nodup_filter_map orderly.once member repeated rfl rfl
  rw [Step.attach.injEq] at same
  exact same.2.1

end Stencil.Code
