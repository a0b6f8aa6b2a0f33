import Stencil.Proofs.Code.Grafting
import Stencil.Proofs.Code.Feeding

/-!
# What a construction makes

After every step of an orderly construction the store holds *loose* bundles:
what is not attached to anything, with all that is attached to it. `Standing`
is that invariant. Each step keeps it: an object that is made is a new loose
bundle, feeding a body changes no bundle, and an object that is attached is
loose, so its bundle moves below the package's directory and is grafted onto the
package's bundle (`standing_attach`).
-/

namespace Stencil.Code

variable {Label : Type} [DecidableEq Label]

/-- The object of a label. -/
def Calls (steps : List (Step Label)) (site : Site Label) (label : Label) : Prop :=
  (∀ name, .module label name ∈ steps →
    site.refs.lookup label = some (.module (number steps label))) ∧
  ∀ name, .package label name ∈ steps →
    site.refs.lookup label = some (.package (shelf steps label))

/-- A construction has made loose bundles of all its objects. The numbers of its modules, packages
and bodies are those of its steps; bodies are numbered from a ground on. -/
structure Standing (steps : List (Step Label)) (ground : Nat) (site : Site Label)
    (loose : List (Bundle Label)) : Prop where
  calls : ∀ label, Calls steps site label
  moduleCount : site.store.modules.size = (created steps).length
  packageCount : site.store.packages.size = (shelved steps).length
  bodyCount : site.store.blocks.size = ground + (created steps).length
  stand : ∀ bundle ∈ loose, Stands steps ground site.store .nothing bundle
  described : ∀ bundle ∈ loose, Describes steps bundle
  covered : (loose.flatMap Bundle.labels).Perm (created steps)
  alone : ∀ bundle ∈ loose, ∀ parent, ¬Below steps bundle.label parent

variable {steps more : List (Step Label)} {step : Step Label} {ground : Nat} {site : Site Label}
  {store : Store} {loose : List (Bundle Label)} {bundle : Bundle Label} {above : Path}
  {label : Label}

/-! ## Bundles under further steps -/

/-- An object keeps its number. -/
theorem number_append (made : label ∈ created steps) :
    number (steps ++ more) label = number steps label := by
  rw [number, created, List.filterMap_append]
  exact List.idxOf_append_of_mem made

/-- A package keeps its number. -/
theorem shelf_append (made : label ∈ shelved steps) :
    shelf (steps ++ more) label = shelf steps label := by
  rw [shelf, shelved, List.filterMap_append]
  exact List.idxOf_append_of_mem made

/-- A bundle keeps its object. -/
theorem stands_ref (stands : Stands steps ground store above bundle) :
    bundle.ref (steps ++ more) = bundle.ref steps := by
  cases stands with
  | module made => rw [Bundle.ref, Bundle.ref, number_append (module_created made)]
  | package made => rw [Bundle.ref, Bundle.ref, shelf_append (mem_shelved.mpr ⟨_, made⟩)]

/-- A bundle stands when further steps are counted. -/
theorem stands_append (stands : Stands steps ground store above bundle) :
    Stands (steps ++ more) ground store above bundle := by
  induction stands with
  | module made stored =>
    refine .module (List.mem_append_left _ made) ?_
    rw [number_append (module_created made), stored]
  | @package above own name modules packages made stored root inner inductionHypothesis =>
    have same (bundles : List (Bundle Label)) (among : ∀ part ∈ bundles, part ∈ modules ++ packages) :
        bundles.map (Bundle.ref (steps ++ more)) = bundles.map (Bundle.ref steps) :=
      List.map_congr_left fun part inside => stands_ref (inner part (among part inside))
    refine .package (List.mem_append_left _ made) ?_ ?_ inductionHypothesis
    · rw [shelf_append (mem_shelved.mpr ⟨_, made⟩), number_append (package_created made), stored,
        same modules fun part => List.mem_append_left _,
        same packages fun part => List.mem_append_right _]
    · rw [number_append (package_created made), root]

/-- A step that attaches nothing to the packages of a bundle leaves the bundle. -/
theorem describes_append (described : Describes steps bundle)
    (apart : ∀ label ∈ bundle.labels, ∀ sort, step.childOf? sort label = none) :
    Describes (steps ++ [step]) bundle := by
  induction described with
  | module made => exact .module (List.mem_append_left _ made)
  | @package own name modules packages made listed nested inner inductionHypothesis =>
    rw [Bundle.labels_package] at apart
    refine .package (List.mem_append_left _ made) ?_ ?_ ?_
    · rw [children_append, apart own (by simp), listed]
      exact List.append_nil _
    · rw [children_append, apart own (by simp), nested]
      exact List.append_nil _
    · intro part among
      refine inductionHypothesis part among fun label inside => ?_
      exact apart label (.tail _ (List.mem_flatMap.mpr ⟨part, among, inside⟩))

/-- The packages of a described bundle are its objects that are made as packages. -/
theorem mem_shelves (orderly : Orderly steps) (described : Describes steps bundle)
    (inside : label ∈ bundle.labels) (boxed : label ∈ shelved steps) : label ∈ bundle.shelves := by
  induction described with
  | module made =>
    rw [Bundle.labels, List.mem_singleton] at inside
    obtain ⟨name, boxed⟩ := mem_shelved.mp boxed
    have same := creation_unique orderly made boxed rfl (inside ▸ rfl)
    cases same
  | package made listed nested inner inductionHypothesis =>
    rw [Bundle.labels_package, List.mem_cons, List.mem_flatMap] at inside
    rw [Bundle.shelves_package, List.mem_cons, List.mem_flatMap]
    rcases inside with rfl | ⟨part, among, within⟩
    · exact .inl rfl
    · exact .inr ⟨part, among, inductionHypothesis part among within⟩

/-- Lists put behind each other are among others put behind each other if each is among its own. -/
theorem flat_sublist {α β : Type} {items : List α} {short long : α → List β}
    (each : ∀ item ∈ items, (short item).Sublist (long item)) :
    (items.flatMap short).Sublist (items.flatMap long) := by
  induction items with
  | nil => simp
  | cons item rest inductionHypothesis =>
    rw [List.flatMap_cons, List.flatMap_cons]
    exact (each item (by simp)).append
      (inductionHypothesis fun other among => each other (.tail _ among))

/-- The packages of a bundle are among its objects, in the same order. -/
theorem shelves_sublist (described : Describes steps bundle) :
    bundle.shelves.Sublist bundle.labels := by
  induction described with
  | module made => simp [Bundle.shelves]
  | @package own name modules packages made listed nested inner inductionHypothesis =>
    rw [Bundle.shelves_package, Bundle.labels_package]
    exact (flat_sublist inductionHypothesis).cons_cons own

/-- Every object of a bundle has a bundle of its own, which stands below the directories of the
packages above it. The induction is on the bundle that stands, with the names of the packages above
it growing on the way down. -/
theorem stands_part {names : List String}
    (stands : Stands steps ground store (.joined names) bundle)
    (described : Describes steps bundle) (ancestry : Ancestry steps bundle.label names) :
    ∀ label ∈ bundle.labels, ∃ part above, part.label = label ∧
      Stands steps ground store (.joined above) part ∧ Describes steps part ∧
      Ancestry steps label above ∧ part.labels.Sublist bundle.labels := by
  generalize place : Path.joined names = above at stands
  induction stands generalizing names with
  | module made stored =>
    intro label inside
    rw [Bundle.labels, List.mem_singleton] at inside
    subst inside place
    exact ⟨_, names, rfl, .module made stored, described, ancestry, .refl _⟩
  | @package above own name modules packages made stored root inner inductionHypothesis =>
    intro label inside
    subst place
    rw [Bundle.labels_package, List.mem_cons, List.mem_flatMap] at inside
    rcases inside with rfl | ⟨part, among, within⟩
    · exact ⟨_, names, rfl, .package made stored root inner, described, ancestry, .refl _⟩
    · cases described with
      | package made' listed nested innerDescribed =>
        have attached : Below steps part.label own := by
          rcases List.mem_append.mp among with inModules | inPackages
          · exact ⟨.module, mem_children.mp (listed ▸ List.mem_map_of_mem inModules)⟩
          · exact ⟨.package, mem_children.mp (nested ▸ List.mem_map_of_mem inPackages)⟩
        obtain ⟨found, place, same, foundStands, foundDescribed, foundAbove, sublist⟩ :=
          inductionHypothesis part among (innerDescribed part among)
            (.attached attached made ancestry) (Path.joined_append names name) label within
        refine ⟨found, place, same, foundStands, foundDescribed, foundAbove, ?_⟩
        rw [Bundle.labels_package]
        refine (sublist.trans ?_).cons own
        exact List.sublist_flatten_of_mem (List.mem_map_of_mem among)

/-! ## Steps -/

/-- Nothing has been made at the start. -/
theorem standing_start (start : Store) (bare : start.modules = #[] ∧ start.packages = #[]) :
    Standing ([] : List (Step Label)) start.blocks.size ⟨start, []⟩ [] := by
  constructor
  · intro label
    constructor <;> intro name member <;> cases member
  · simp [bare.1, created]
  · simp [bare.2, shelved]
  · simp [created]
  · simp
  · simp
  · exact .refl _
  · simp

/-- An object that is made is called by its label, and others are still called by theirs. A label is
made once in an orderly construction, so the new entry hides no other. -/
theorem calls_fresh {ref : Ref} (orderly : Orderly (steps ++ [step]))
    (makes : step.creation? = some label) (calls : ∀ other, Calls steps site other)
    (module : ∀ name, step = .module label name → ref = .module (number (steps ++ [step]) label))
    (package : ∀ name, step = .package label name → ref = .package (shelf (steps ++ [step]) label))
    (store : Store) (other : Label) :
    Calls (steps ++ [step]) ⟨store, (label, ref) :: site.refs⟩ other := by
  have fresh := creation_fresh orderly makes
  constructor
  · intro name member
    rcases List.mem_append.mp member with old | new
    · have known := module_created old
      have apart : (other == label) = false := by
        rw [beq_eq_false_iff_ne]
        rintro rfl
        exact fresh known
      rw [List.lookup_cons, apart, number_append known]
      exact (calls other).1 name old
    · rw [List.mem_singleton] at new
      subst new
      cases makes
      rw [List.lookup_cons, beq_self_eq_true, module name rfl]
  · intro name member
    rcases List.mem_append.mp member with old | new
    · have known := package_created old
      have apart : (other == label) = false := by
        rw [beq_eq_false_iff_ne]
        rintro rfl
        exact fresh known
      rw [List.lookup_cons, apart, shelf_append (mem_shelved.mpr ⟨_, old⟩)]
      exact (calls other).2 name old
    · rw [List.mem_singleton] at new
      subst new
      cases makes
      rw [List.lookup_cons, beq_self_eq_true, package name rfl]

/-- Objects that were made are called as they were after a step that makes nothing. -/
theorem calls_same (quiet : step.creation? = none) (calls : Calls steps site label)
    (store : Store) : Calls (steps ++ [step]) ⟨store, site.refs⟩ label := by
  constructor
  · intro name member
    rcases List.mem_append.mp member with old | new
    · rw [number_append (module_created old)]
      exact calls.1 name old
    · rw [List.mem_singleton] at new
      subst new
      cases quiet
  · intro name member
    rcases List.mem_append.mp member with old | new
    · rw [shelf_append (mem_shelved.mpr ⟨_, old⟩)]
      exact calls.2 name old
    · rw [List.mem_singleton] at new
      subst new
      cases quiet

/-- Loose bundles stay loose when something is made. The new object is a loose bundle of its own.
Numbers are given in the order of creation, so the older objects keep theirs. -/
theorem standing_fresh {fresh : Bundle Label} {ref : Ref} {after : Store}
    (standing : Standing steps ground site loose) (orderly : Orderly (steps ++ [step]))
    (makes : step.creation? = some fresh.label) (quiet : step.attached? = none)
    (single : fresh.labels = [fresh.label])
    (calls : ∀ label, Calls (steps ++ [step]) ⟨after, (fresh.label, ref) :: site.refs⟩ label)
    (moduleCount : after.modules.size = site.store.modules.size + 1)
    (packageCount : after.packages.size = (shelved (steps ++ [step])).length)
    (bodyCount : after.blocks.size = site.store.blocks.size + 1)
    (modules : ∀ id < site.store.modules.size, after.modules[id]? = site.store.modules[id]?)
    (packages : ∀ id < site.store.packages.size, after.packages[id]? = site.store.packages[id]?)
    (stands : Stands (steps ++ [step]) ground after .nothing fresh)
    (described : Describes (steps ++ [step]) fresh) :
    Standing (steps ++ [step]) ground ⟨after, (fresh.label, ref) :: site.refs⟩ (fresh :: loose) := by
  have makesList : created (steps ++ [step]) = created steps ++ [fresh.label] := by
    rw [created_append, makes]
    rfl
  have unattached (sort : Build.Attachment) (label : Label) : step.childOf? sort label = none := by
    cases step with
    | attach other holder child => cases quiet
    | _ => rfl
  constructor
  · exact calls
  · rw [moduleCount, standing.moduleCount, makesList, List.length_append]
    rfl
  · exact packageCount
  · rw [bodyCount, standing.bodyCount, makesList, List.length_append]
    rfl
  · intro bundle among
    rcases List.mem_cons.mp among with rfl | old
    · exact stands
    · have stood := standing.stand bundle old
      refine stands_append (stands_same stood ⟨?_, ?_⟩)
      · intro label inside
        refine modules _ ?_
        rw [standing.moduleCount]
        exact List.idxOf_lt_length_of_mem (stands_created stood label inside)
      · intro label inside
        refine packages _ ?_
        rw [standing.packageCount]
        exact List.idxOf_lt_length_of_mem (stands_shelved stood label inside).1
  · intro bundle among
    rcases List.mem_cons.mp among with rfl | old
    · exact described
    · exact describes_append (standing.described bundle old) fun label _ sort =>
        unattached sort label
  · rw [List.flatMap_cons, single, makesList]
    exact (List.perm_append_comm).trans (standing.covered.append_right _)
  · intro bundle among parent below
    have old : Below steps bundle.label parent := by
      rcases below_append.mp below with old | ⟨sort, rfl⟩
      · exact old
      · cases quiet
    rcases List.mem_cons.mp among with rfl | known
    · exact creation_fresh orderly makes (below_created (orderly_before orderly) old).1
    · exact standing.alone bundle known parent old

/-- The next object has the next number. -/
theorem number_fresh (standing : Standing steps ground site loose)
    (orderly : Orderly (steps ++ [step])) (makes : step.creation? = some label) :
    number (steps ++ [step]) label = site.store.modules.size ∧
      ground + number (steps ++ [step]) label = site.store.blocks.size := by
  have fresh := creation_fresh orderly makes
  have last : number (steps ++ [step]) label = (created steps).length := by
    rw [number, created_append, makes, List.idxOf_append_of_notMem fresh]
    simp
  rw [last, standing.moduleCount, standing.bodyCount]
  exact ⟨rfl, rfl⟩

/-- A module that is made. -/
theorem after_module (site : Site Label) (label : Label) (name : String) :
    site.after (.module label name) =
      ⟨{ site.store with
          blocks := site.store.blocks.push []
          modules := site.store.modules.push ⟨.ofText (name ++ ".py"), site.store.blocks.size⟩ },
        (label, .module site.store.modules.size) :: site.refs⟩ := rfl

/-- A package that is made, with its root module below its directory. -/
theorem after_package (site : Site Label) (label : Label) (name : String) :
    site.after (.package label name) =
      ⟨{ site.store with
          blocks := site.store.blocks.push []
          modules := site.store.modules.push
            ⟨(Path.ofText name).join (.ofText "__init__.py"), site.store.blocks.size⟩
          packages := site.store.packages.push
            ⟨.ofText name, site.store.modules.size, [], []⟩ },
        (label, .package site.store.packages.size) :: site.refs⟩ := by
  have moved : (site.store.modules.push
      ⟨.ofText ("__init__" ++ ".py"), site.store.blocks.size⟩).modify site.store.modules.size
        (fun item => { item with path := (Path.ofText name).join item.path }) =
      site.store.modules.push
        ⟨(Path.ofText name).join (.ofText "__init__.py"), site.store.blocks.size⟩ := by
    apply Array.ext_getElem?
    intro id
    rw [Array.getElem?_modify, Array.getElem?_push, Array.getElem?_push]
    by_cases last : site.store.modules.size = id
    · simp [last]
    · simp [last, Ne.symm last]
  rw [← moved]
  rfl

/-- Making a module makes a loose one. -/
theorem standing_module (standing : Standing steps ground site loose) {name : String}
    (orderly : Orderly (steps ++ [.module label name])) :
    Standing (steps ++ [.module label name]) ground (site.after (.module label name))
      (.module label name :: loose) := by
  have makes : (Step.module label name).creation? = some label := rfl
  obtain ⟨numbered, body⟩ := number_fresh standing orderly makes
  have made : .module label name ∈ steps ++ [Step.module label name] := by simp
  rw [after_module]
  refine standing_fresh standing orderly rfl rfl (by simp [Bundle.labels, Bundle.label]) ?_ ?_ ?_ ?_
    ?_ ?_ (.module made ?_) (.module made)
  · refine calls_fresh orderly rfl standing.calls ?_ ?_ _
    · intro other same
      rw [numbered]
    · intro other same
      cases same
  · exact Array.size_push _
  · rw [shelved_append]
    exact standing.packageCount.trans (by simp [Step.package?])
  · exact Array.size_push _
  · intro id inside
    rw [Array.getElem?_push, if_neg (Nat.ne_of_lt inside)]
  · intro id inside
    rfl
  · rw [body, numbered, Path.nothing_join]
    exact Array.getElem?_push_size

/-- Making a package makes a loose one without parts. -/
theorem standing_package (standing : Standing steps ground site loose) {name : String}
    (orderly : Orderly (steps ++ [.package label name])) :
    Standing (steps ++ [.package label name]) ground (site.after (.package label name))
      (.package label name [] [] :: loose) := by
  have makes : (Step.package label name).creation? = some label := rfl
  obtain ⟨numbered, body⟩ := number_fresh standing orderly makes
  have fresh := creation_fresh orderly makes
  have made : .package label name ∈ steps ++ [Step.package label name] := by simp
  have unboxed : label ∉ shelved steps := by
    intro boxed
    obtain ⟨other, member⟩ := mem_shelved.mp boxed
    exact fresh (package_created member)
  have boxNumber : shelf (steps ++ [.package label name]) label = site.store.packages.size := by
    rw [shelf, shelved_append, standing.packageCount, List.idxOf_append_of_notMem unboxed]
    simp [Step.package?]
  have childless (sort : Build.Attachment) :
      children sort (steps ++ [.package label name]) label = [] := by
    rw [children_append]
    refine List.append_eq_nil_iff.mpr ⟨List.eq_nil_iff_forall_not_mem.mpr fun child among => ?_, rfl⟩
    exact unboxed (below_created (orderly_before orderly) ⟨sort, mem_children.mp among⟩).2
  rw [after_package]
  refine standing_fresh standing orderly rfl rfl (by simp [Bundle.labels, Bundle.label]) ?_ ?_ ?_ ?_
    ?_ ?_ (.package made ?_ ?_ (by simp)) (.package made (childless _) (childless _) (by simp))
  · refine calls_fresh orderly rfl standing.calls ?_ ?_ _
    · intro other same
      cases same
    · intro other same
      rw [boxNumber]
  · exact Array.size_push _
  · rw [shelved_append, List.length_append, ← standing.packageCount]
    exact Array.size_push _
  · exact Array.size_push _
  · intro id inside
    rw [Array.getElem?_push, if_neg (Nat.ne_of_lt inside)]
  · intro id inside
    rw [Array.getElem?_push, if_neg (Nat.ne_of_lt inside)]
  · rw [numbered, boxNumber, Path.nothing_join]
    exact Array.getElem?_push_size
  · rw [body, numbered, Path.nothing_join]
    exact Array.getElem?_push_size

/-- A step that makes nothing and attaches nothing keeps the bundles if it keeps modules and
packages. All that the bundles say is about modules, packages and labels. -/
theorem standing_same {after : Store} (standing : Standing steps ground site loose)
    (makes : step.creation? = none) (quiet : step.attached? = none)
    (modules : after.modules = site.store.modules) (packages : after.packages = site.store.packages)
    (bodies : after.blocks.size = site.store.blocks.size) :
    Standing (steps ++ [step]) ground ⟨after, site.refs⟩ loose := by
  have unattached (sort : Build.Attachment) (label : Label) : step.childOf? sort label = none := by
    cases step with
    | attach other holder child => cases quiet
    | _ => rfl
  have unboxed : step.package? = none := by
    cases step with
    | package label name => cases makes
    | _ => rfl
  have same : created (steps ++ [step]) = created steps := by
    rw [created_append, makes]
    exact List.append_nil _
  constructor
  · exact fun label => calls_same makes (standing.calls label) after
  · rw [modules, standing.moduleCount, same]
  · rw [packages, standing.packageCount, shelved_append, unboxed]
    exact (congrArg List.length (List.append_nil _)).symm
  · rw [bodies, standing.bodyCount, same]
  · intro bundle among
    refine stands_append (stands_same (standing.stand bundle among) ⟨?_, ?_⟩)
    · intro label inside
      rw [modules]
    · intro label inside
      rw [packages]
  · intro bundle among
    exact describes_append (standing.described bundle among) fun label _ sort =>
      unattached sort label
  · rw [same]
    exact standing.covered
  · intro bundle among parent below
    rcases below_append.mp below with old | ⟨sort, rfl⟩
    · exact standing.alone bundle among parent old
    · cases quiet

/-- No object is in two bundles or in one bundle twice. -/
theorem standing_distinct (standing : Standing steps ground site loose) (orderly : Orderly steps) :
    (loose.flatMap Bundle.labels).Nodup :=
  standing.covered.nodup_iff.mpr orderly.fresh

/-- Every object has a bundle of its own, below the directories of the packages above it, which is
part of a loose bundle. -/
theorem standing_part (standing : Standing steps ground site loose) (orderly : Orderly steps)
    (made : label ∈ created steps) :
    ∃ part above, part.label = label ∧ Stands steps ground site.store (.joined above) part ∧
      Describes steps part ∧ Ancestry steps label above ∧ part.labels.Nodup := by
  have inside := standing.covered.mem_iff.mpr made
  obtain ⟨bundle, among, within⟩ := List.mem_flatMap.mp inside
  have top : Ancestry steps bundle.label [] := .loose (standing.alone bundle among)
  obtain ⟨part, above, same, stands, described, ancestry, sublist⟩ :=
    stands_part (standing.stand bundle among) (standing.described bundle among) top label within
  have nested := List.sublist_flatten_of_mem (List.mem_map_of_mem (f := Bundle.labels) among)
  refine ⟨part, above, same, stands, described, ancestry, ?_⟩
  exact (sublist.trans nested).nodup (standing_distinct standing orderly)

/-! ## Attaching -/

/-- What is attached is loose before. -/
theorem loose_child (standing : Standing steps ground site loose) {sort : Build.Attachment}
    {parent child : Label} (orderly : Orderly (steps ++ [.attach sort parent child])) :
    ∃ part ∈ loose, part.label = child := by
  obtain ⟨_, made, _⟩ := ready_last orderly
  obtain ⟨part, among, inside⟩ := List.mem_flatMap.mp (standing.covered.mem_iff.mpr made)
  rcases (below_top (standing.described part among) child inside).cases_head with same | below
  · exact ⟨part, among, same.symm⟩
  · obtain ⟨other, attached, _⟩ := below
    exact absurd attached (attached_once orderly other)

/-- An object is not attached below itself: the package is in another bundle. -/
theorem parent_outside {sort : Build.Attachment} {parent : Label} {part : Bundle Label}
    (orderly : Orderly (steps ++ [.attach sort parent part.label]))
    (described : Describes steps part) : parent ∉ part.labels := by
  intro inside
  have kept : Below steps ≤ Below (steps ++ [.attach sort parent part.label]) := by
    intro child holder below
    exact below_append.mpr (.inl below)
  have upward : Relation.ReflTransGen (Below (steps ++ [.attach sort parent part.label])) parent
      part.label := Relation.ReflTransGen.mono kept _ _ (below_top described parent inside)
  exact orderly.acyclic part.label (.head' (below_append.mpr (.inr ⟨sort, rfl⟩)) upward)

/-- The bound of the walk suffices for every bundle. -/
theorem shelves_bound {part : Bundle Label}
    (stands : Stands steps ground store above part) (described : Describes steps part)
    (distinct : part.labels.Nodup) : part.shelves.length ≤ (shelved steps).length :=
  (List.subperm_of_subset ((shelves_sublist described).nodup distinct)
    fun label inside => (stands_shelved stands label inside).1).length_le

/-- Bundles onto one of which another is grafted have its objects besides their own. -/
theorem covered_graft {sort : Build.Attachment} {parent : Label} {part : Bundle Label}
    {bundles : List (Bundle Label)} (orderly : Orderly steps)
    (described : ∀ bundle ∈ bundles, Describes steps bundle)
    (distinct : (bundles.flatMap Bundle.labels).Nodup) (boxed : parent ∈ shelved steps)
    (inside : parent ∈ bundles.flatMap Bundle.labels) :
    ((bundles.map (·.graft sort parent part)).flatMap Bundle.labels).Perm
      (part.labels ++ bundles.flatMap Bundle.labels) := by
  have once : (bundles.flatMap Bundle.shelves).count parent = 1 := by
    have sublist : (bundles.flatMap Bundle.shelves).Sublist (bundles.flatMap Bundle.labels) :=
      flat_sublist fun bundle among => shelves_sublist (described bundle among)
    refine List.count_eq_one_of_mem (sublist.nodup distinct) ?_
    obtain ⟨bundle, among, within⟩ := List.mem_flatMap.mp inside
    exact List.mem_flatMap.mpr
      ⟨bundle, among, mem_shelves orderly (described bundle among) within boxed⟩
  refine List.perm_iff_count.mpr fun label => ?_
  rw [count_flat_graft fun bundle among => count_labels_graft (described bundle among) label, once,
    List.count_append]
  omega

omit [DecidableEq Label] in
/-- When no object is in two bundles or in one bundle twice, the other bundles have none of a
bundle's objects. -/
theorem bundles_apart {front back : List (Bundle Label)} {part : Bundle Label}
    (distinct : ((front ++ part :: back).flatMap Bundle.labels).Nodup) :
    part.labels.Nodup ∧ ((front ++ back).flatMap Bundle.labels).Nodup ∧
      ∀ bundle ∈ front ++ back, bundle.labels.Disjoint part.labels := by
  have spread : (part.labels ++ (front ++ back).flatMap Bundle.labels).Nodup :=
    (List.perm_middle.flatMap_right Bundle.labels).nodup_iff.mp distinct
  obtain ⟨own, others, apart⟩ := List.nodup_append'.mp spread
  refine ⟨own, others, fun bundle member label inside inPart => ?_⟩
  exact apart inPart (List.mem_flatMap.mpr ⟨bundle, member, inside⟩)

/-- A package is stored under its number. -/
theorem package_stored (standing : Standing steps ground site loose) (orderly : Orderly steps)
    (boxed : label ∈ shelved steps) :
    ∃ held, site.store.packages[shelf steps label]? = some held := by
  obtain ⟨name, making⟩ := mem_shelved.mp boxed
  obtain ⟨holder, above, same, stands, _⟩ :=
    standing_part standing orderly (package_created making)
  cases stands with
  | module other => cases creation_unique orderly making other rfl (congrArg some same)
  | package other stored =>
    cases same
    exact ⟨_, stored⟩

/-- The label of a bundle names its object. -/
theorem bundle_named (standing : Standing steps ground site loose)
    (described : Describes steps bundle) :
    site.refs.lookup bundle.label = some (bundle.ref steps) := by
  cases described with
  | module making => exact (standing.calls _).1 _ making
  | package making => exact (standing.calls _).2 _ making

/-- A package that has one part more. -/
def Store.adopting (store : Store) (id : Nat) (ref : Ref) (sort : Build.Attachment) : Store :=
  { store with packages := store.packages.modify id (·.adding ref sort) }

/-- The package that has one part more. -/
theorem adopting_package {sort : Build.Attachment} {id : Nat} {ref : Ref} {held : Package}
    (stored : store.packages[id]? = some held) :
    (store.adopting id ref sort).packages[id]? = some (held.adding ref sort) := by
  rw [Store.adopting, Array.getElem?_modify, if_pos rfl, stored]
  rfl

/-- The other packages have the parts they had. -/
theorem adopting_others {sort : Build.Attachment} {parent : Label} {ref : Ref}
    (boxed : parent ∈ shelved steps) (other : label ≠ parent) :
    (store.adopting (shelf steps parent) ref sort).packages[shelf steps label]? =
      store.packages[shelf steps label]? := by
  have different : shelf steps parent ≠ shelf steps label := fun same =>
    other (shelf_inj boxed same).symm
  rw [Store.adopting, Array.getElem?_modify, if_neg different]

/-- Attaching is moving below the package's directory, and then having one part more. -/
theorem attach_run {sort : Build.Attachment} {id : Nat} {ref : Ref} {held : Package}
    {store after : Store} (stored : store.packages[id]? = some held)
    (moved : (Build.move held.path (store.packages.size + 1) ref).Yields store () after) :
    ((Build.attach sort (.object (.package id)) (.object ref)).run.run store).2 =
      after.adopting id ref sort := by
  have attached : (Build.attach sort (.object (.package id)) (.object ref)).Yields store
      (.object (.package id)) (after.adopting id ref sort) := by
    unfold Build.attach
    refine Build.bind_yields (Build.get_yields store) ?_
    rw [stored]
    refine Build.bind_yields (Build.get_yields store) ?_
    refine Build.bind_yields moved ?_
    cases sort <;> rfl
  rw [attached]

/-- A part has moved below a package's directory and the package has it as one part more: a bundle
with no object of the part stands with the part grafted onto it. -/
theorem adopted_stands {sort : Build.Attachment} {parent : Label} {part : Bundle Label}
    {held : Package} {after : Store} (boxed : parent ∈ shelved steps)
    (stored : store.packages[shelf steps parent]? = some held) (outside : parent ∉ part.labels)
    (changed : Moves steps part.labels store after)
    (placed : Stands steps ground after held.path part)
    (stands : Stands steps ground store above bundle)
    (apart : bundle.labels.Disjoint part.labels) :
    Stands steps ground (after.adopting (shelf steps parent) (part.ref steps) sort) above
      (bundle.graft sort parent part) := by
  have unmoved : after.packages[shelf steps parent]? = some held := by
    rw [changed.packages parent boxed outside, stored]
  have entries := moves_same changed stands apart
  refine stands_graft stands entries.modules ?_ ?_
  · intro label within other
    rw [adopting_others boxed other]
    exact entries.packages label within
  · intro row found
    cases stored.symm.trans found
    refine ⟨adopting_package unmoved, stands_same placed ⟨fun _ _ => rfl, ?_⟩⟩
    intro label inside
    have inPart := (stands_shelved placed label inside).2
    exact adopting_others boxed fun same => outside (same ▸ inPart)

/-- What is attached moves below the package's directory and is grafted onto the package's bundle;
the other bundles are as they were. Only modules and packages change. What is attached is loose, as
it is attached once and never below itself, so it shares no object with the bundle of the package.
It is moved below the package's directory, then the package gets one part more, and the two bundles
become one. -/
theorem standing_attach (standing : Standing steps ground site loose) {sort : Build.Attachment}
    {parent child : Label} (orderly : Orderly (steps ++ [.attach sort parent child])) :
    ∃ bundles after, Standing (steps ++ [.attach sort parent child]) ground
      ⟨after, site.refs⟩ bundles ∧ site.after (.attach sort parent child) = ⟨after, site.refs⟩ ∧
      after = { site.store with modules := after.modules, packages := after.packages } := by
  have before := orderly_before orderly
  obtain ⟨boxed, _, _⟩ := ready_last orderly
  obtain ⟨part, among, rfl⟩ := loose_child standing orderly
  obtain ⟨front, back, rfl⟩ := List.append_of_mem among
  have partStands := standing.stand part among
  have partDescribed := standing.described part among
  have outside := parent_outside orderly partDescribed
  obtain ⟨partDistinct, othersDistinct, apart⟩ :=
    bundles_apart (standing_distinct standing before)
  have others (bundle : Bundle Label) (member : bundle ∈ front ++ back) :
      bundle ∈ front ++ part :: back := by
    rcases List.mem_append.mp member with inFront | inBack
    · exact List.mem_append_left _ inFront
    · exact List.mem_append_right _ (.tail _ inBack)
  -- The package, its directory and the move.
  obtain ⟨name, making⟩ := mem_shelved.mp boxed
  obtain ⟨held, stored⟩ := package_stored standing before boxed
  have enough : part.shelves.length ≤ site.store.packages.size + 1 := by
    have bound := shelves_bound partStands partDescribed partDistinct
    rw [← standing.packageCount] at bound
    omega
  obtain ⟨after, moved, placed, changed⟩ := move_stands held.path partStands site.store
    (site.store.packages.size + 1) ⟨fun _ _ => rfl, fun _ _ => rfl⟩ partDistinct enough
  rw [Path.join_nothing] at placed
  have run : site.after (.attach sort parent part.label) =
      ⟨after.adopting (shelf steps parent) (part.ref steps) sort, site.refs⟩ := by
    rw [Site.after, Site.doing, Site.named, Site.named, (standing.calls parent).2 name making,
      bundle_named standing partDescribed]
    exact congrArg (Site.mk · site.refs) (attach_run stored moved)
  have same : created (steps ++ [.attach sort parent part.label]) = created steps := by
    rw [created_append]
    exact List.append_nil _
  refine ⟨(front ++ back).map (·.graft sort parent part), _, ?_, run, ?_⟩
  swap
  · rw [Store.adopting, changed.others]
  constructor
  · exact fun label => calls_same rfl (standing.calls label) _
  · exact (changed.moduleCount.trans standing.moduleCount).trans (congrArg List.length same.symm)
  · exact (Array.size_modify.trans (changed.packageCount.trans standing.packageCount)).trans
      (by rw [shelved_append]; exact congrArg List.length (List.append_nil _).symm)
  · rw [Store.adopting, changed.others]
    exact standing.bodyCount.trans (congrArg (ground + List.length ·) same.symm)
  · intro bundle member
    obtain ⟨old, inside, rfl⟩ := List.mem_map.mp member
    exact stands_append (adopted_stands boxed stored outside changed placed
      (standing.stand old (others old inside)) (apart old inside))
  · intro bundle member
    obtain ⟨old, inside, rfl⟩ := List.mem_map.mp member
    refine describes_graft (standing.described old (others old inside)) ?_
    refine describes_append partDescribed fun label within kind => ?_
    have other : parent ≠ label := fun same => outside (same ▸ within)
    simp [Step.childOf?, other]
  · have elsewhere : parent ∈ (front ++ back).flatMap Bundle.labels := by
      have known := standing.covered.mem_iff.mpr (package_created making)
      rw [(List.perm_middle.flatMap_right Bundle.labels).mem_iff, List.flatMap_cons,
        List.mem_append] at known
      exact known.resolve_left outside
    rw [same]
    refine (covered_graft before (fun bundle member => standing.described bundle
      (others bundle member)) othersDistinct boxed elsewhere).trans (.trans ?_ standing.covered)
    exact (List.perm_middle.flatMap_right Bundle.labels).symm
  · intro bundle member other below
    obtain ⟨old, inside, rfl⟩ := List.mem_map.mp member
    rw [Bundle.label_graft] at below
    rcases below_append.mp below with known | ⟨kind, same⟩
    · exact standing.alone old (others old inside) other known
    · have equal : part.label = old.label := by
        rw [Step.attach.injEq] at same
        exact same.2.2
      exact apart old inside old.label_mem (equal ▸ part.label_mem)

end Stencil.Code
