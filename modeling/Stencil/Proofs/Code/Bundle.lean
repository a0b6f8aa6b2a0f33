import Stencil.Proofs.Code.Construction

/-!
# Bundles

A bundle is a module, or a package with all that is attached to it. `Describes`
reads the bundles off a construction, `Stands` says that the store holds a
bundle below a directory, with all paths begun by that directory.

Putting a bundle below another directory is a walk over the whole bundle. It
succeeds, since no object is in a bundle twice and so the bound of the walk
suffices; it puts the directory before every path in the bundle, and it changes
nothing else (`move_stands`). Paths in the bundle stay joined of names because
joining is associative.
-/

namespace Stencil.Code

/-- A module, or a package with what is attached to it. -/
inductive Bundle (Label : Type) where
  | module (label : Label) (name : String)
  | package (label : Label) (name : String) (modules packages : List (Bundle Label))

namespace Bundle

variable {Label : Type}

/-- The label of a bundle's own object. -/
def label : Bundle Label → Label
  | .module label _ | .package label .. => label

/-- The labels of all objects in a bundle: a package, then its modules in order, then what is in
each of its packages. -/
def labels : Bundle Label → List Label
  | .module label _ => [label]
  | .package label _ modules packages =>
    label :: (modules.flatMap labels ++ packages.flatMap labels)

/-- The labels of the packages in a bundle. -/
def shelves : Bundle Label → List Label
  | .module .. => []
  | .package label _ modules packages =>
    label :: (modules.flatMap shelves ++ packages.flatMap shelves)

/-- The objects in a package are the package and what is in its parts. -/
theorem labels_package (label : Label) (name : String) (modules packages : List (Bundle Label)) :
    (package label name modules packages).labels =
      label :: (modules ++ packages).flatMap labels := by
  rw [labels, List.flatMap_append]

/-- The packages in a package are the package and those in its parts. -/
theorem shelves_package (label : Label) (name : String) (modules packages : List (Bundle Label)) :
    (package label name modules packages).shelves =
      label :: (modules ++ packages).flatMap shelves := by
  rw [shelves, List.flatMap_append]

/-- A bundle's own object is in it. -/
theorem label_mem (bundle : Bundle Label) : bundle.label ∈ bundle.labels := by
  cases bundle <;> simp [label, labels]

end Bundle

variable {Label : Type} [DecidableEq Label]

/-- The number of an object's module: modules, and packages with their root modules, are numbered
as they are made. -/
def number (steps : List (Step Label)) (label : Label) : Nat := (created steps).idxOf label

/-- The number of a package. -/
def shelf (steps : List (Step Label)) (label : Label) : Nat := (shelved steps).idxOf label

/-- The stored object of a bundle. -/
def Bundle.ref (steps : List (Step Label)) : Bundle Label → Ref
  | .module label _ => .module (number steps label)
  | .package label .. => .package (shelf steps label)

/-- A bundle is what a construction makes of its objects: it has their names, and what is attached
to each package in order. -/
inductive Describes (steps : List (Step Label)) : Bundle Label → Prop where
  | module {label : Label} {name : String} (made : .module label name ∈ steps) :
      Describes steps (.module label name)
  | package {label : Label} {name : String} {modules packages : List (Bundle Label)}
      (made : .package label name ∈ steps)
      (listed : children .module steps label = modules.map Bundle.label)
      (nested : children .package steps label = packages.map Bundle.label)
      (inner : ∀ bundle ∈ modules ++ packages, Describes steps bundle) :
      Describes steps (.package label name modules packages)

/-- A store holds a bundle below a directory. Bodies are numbered from a ground on. All entries of
the bundle's objects are said in full: the path, the body's number, and for a package its parts in
order. Nothing is said of what the bodies hold. -/
inductive Stands (steps : List (Step Label)) (ground : Nat) (store : Store) :
    Path → Bundle Label → Prop where
  | module {above : Path} {label : Label} {name : String} (made : .module label name ∈ steps)
      (stored : store.modules[number steps label]? =
        some ⟨above.join (.ofText (name ++ ".py")), ground + number steps label⟩) :
      Stands steps ground store above (.module label name)
  | package {above : Path} {label : Label} {name : String} {modules packages : List (Bundle Label)}
      (made : .package label name ∈ steps)
      (stored : store.packages[shelf steps label]? =
        some ⟨above.join (.ofText name), number steps label, modules.map (Bundle.ref steps),
          packages.map (Bundle.ref steps)⟩)
      (root : store.modules[number steps label]? =
        some ⟨(above.join (.ofText name)).join (.ofText "__init__.py"),
          ground + number steps label⟩)
      (inner : ∀ bundle ∈ modules ++ packages,
        Stands steps ground store (above.join (.ofText name)) bundle) :
      Stands steps ground store above (.package label name modules packages)

variable {steps : List (Step Label)} {ground : Nat} {store current after : Store} {above : Path}
  {bundle : Bundle Label}

/-- Different objects have different modules. -/
theorem number_inj {label other : Label} (made : label ∈ created steps)
    (same : number steps label = number steps other) : label = other :=
  (List.idxOf_inj made).mp same

/-- Different packages have different numbers. -/
theorem shelf_inj {label other : Label} (made : label ∈ shelved steps)
    (same : shelf steps label = shelf steps other) : label = other :=
  (List.idxOf_inj made).mp same

/-- The objects of a bundle that stands are made by the construction. -/
theorem stands_created (stands : Stands steps ground store above bundle) :
    ∀ label ∈ bundle.labels, label ∈ created steps := by
  induction stands with
  | module made stored =>
    intro label member
    rw [Bundle.labels, List.mem_singleton] at member
    exact member ▸ module_created made
  | package made stored root inner inductionHypothesis =>
    intro label member
    rw [Bundle.labels_package, List.mem_cons, List.mem_flatMap] at member
    rcases member with rfl | ⟨part, among, inside⟩
    · exact package_created made
    · exact inductionHypothesis part among label inside

/-- The packages of a bundle that stands are made as packages, and are among its objects. -/
theorem stands_shelved (stands : Stands steps ground store above bundle) :
    ∀ label ∈ bundle.shelves, label ∈ shelved steps ∧ label ∈ bundle.labels := by
  induction stands with
  | module made stored =>
    intro label member
    rw [Bundle.shelves] at member
    cases member
  | package made stored root inner inductionHypothesis =>
    intro label member
    rw [Bundle.shelves_package, List.mem_cons, List.mem_flatMap] at member
    rw [Bundle.labels_package, List.mem_cons, List.mem_flatMap]
    rcases member with rfl | ⟨part, among, inside⟩
    · exact ⟨mem_shelved.mpr ⟨_, made⟩, .inl rfl⟩
    · obtain ⟨shelved, inLabels⟩ := inductionHypothesis part among label inside
      exact ⟨shelved, .inr ⟨part, among, inLabels⟩⟩

/-- Two stores have the same entries for the objects of a bundle. -/
structure Bundle.Same (steps : List (Step Label)) (bundle : Bundle Label)
    (before after : Store) : Prop where
  modules : ∀ label ∈ bundle.labels,
    after.modules[number steps label]? = before.modules[number steps label]?
  packages : ∀ label ∈ bundle.shelves,
    after.packages[shelf steps label]? = before.packages[shelf steps label]?

/-- What two stores have the same for a package they have the same for its parts. -/
theorem same_part {label : Label} {name : String} {modules packages : List (Bundle Label)}
    (same : (Bundle.package label name modules packages).Same steps store after)
    {part : Bundle Label} (among : part ∈ modules ++ packages) : part.Same steps store after := by
  obtain ⟨sameModules, samePackages⟩ := same
  rw [Bundle.labels_package] at sameModules
  rw [Bundle.shelves_package] at samePackages
  constructor
  · intro inner inside
    exact sameModules inner (.tail _ (List.mem_flatMap.mpr ⟨part, among, inside⟩))
  · intro inner inside
    exact samePackages inner (.tail _ (List.mem_flatMap.mpr ⟨part, among, inside⟩))

/-- A bundle stands in every store that has the same entries for it. -/
theorem stands_same (stands : Stands steps ground store above bundle)
    (same : bundle.Same steps store after) : Stands steps ground after above bundle := by
  induction stands with
  | module made stored =>
    refine .module made ?_
    rw [same.modules _ (by simp [Bundle.labels]), stored]
  | package made stored root inner inductionHypothesis =>
    refine .package made ?_ ?_ ?_
    · rw [same.packages _ (by simp [Bundle.shelves]), stored]
    · rw [same.modules _ (by simp [Bundle.labels]), root]
    · intro part among
      exact inductionHypothesis part among (same_part same among)

/-- A store differs from another in the entries of some objects only. -/
structure Moves (steps : List (Step Label)) (labels : List Label) (before after : Store) : Prop where
  modules : ∀ label ∈ created steps, label ∉ labels →
    after.modules[number steps label]? = before.modules[number steps label]?
  packages : ∀ label ∈ shelved steps, label ∉ labels →
    after.packages[shelf steps label]? = before.packages[shelf steps label]?
  moduleCount : after.modules.size = before.modules.size
  packageCount : after.packages.size = before.packages.size
  others : after = { before with modules := after.modules, packages := after.packages }

/-- Entries that are changed in two turns. -/
theorem moves_trans {labels more : List Label} (first : Moves steps labels store current)
    (second : Moves steps more current after) : Moves steps (labels ++ more) store after := by
  constructor
  · intro label made outside
    rw [List.mem_append, not_or] at outside
    rw [second.modules label made outside.2, first.modules label made outside.1]
  · intro label made outside
    rw [List.mem_append, not_or] at outside
    rw [second.packages label made outside.2, first.packages label made outside.1]
  · rw [second.moduleCount, first.moduleCount]
  · rw [second.packageCount, first.packageCount]
  · rw [second.others, first.others]

/-- Changes leave the entries of a bundle that has none of the changed objects. -/
theorem moves_same {labels : List Label} (moves : Moves steps labels current after)
    (stands : Stands steps ground store above bundle) (apart : bundle.labels.Disjoint labels) :
    bundle.Same steps current after := by
  constructor
  · intro label inside
    exact moves.modules label (stands_created stands label inside) (apart inside)
  · intro label inside
    obtain ⟨made, inLabels⟩ := stands_shelved stands label inside
    exact moves.packages label made (apart inLabels)

/-- Moving a bundle below a directory succeeds in every store that has the same entries for it: the
bundle then stands below that directory, and nothing else has changed. -/
def Movable (steps : List (Step Label)) (ground : Nat) (directory : Path) (store : Store)
    (above : Path) (bundle : Bundle Label) : Prop :=
  ∀ (current : Store) (fuel : Nat), bundle.Same steps store current → bundle.labels.Nodup →
    bundle.shelves.length ≤ fuel →
    ∃ after, (Build.move directory fuel (bundle.ref steps)).Yields current () after ∧
      Stands steps ground after (directory.join above) bundle ∧
      Moves steps bundle.labels current after

/-- Bundles that have no object in common are moved one after the other. -/
theorem move_all {directory : Path} {bundles : List (Bundle Label)}
    (stand : ∀ bundle ∈ bundles, Stands steps ground store above bundle)
    (movable : ∀ bundle ∈ bundles, Movable steps ground directory store above bundle)
    (same : ∀ bundle ∈ bundles, bundle.Same steps store current)
    (distinct : (bundles.flatMap Bundle.labels).Nodup) {fuel : Nat}
    (enough : (bundles.flatMap Bundle.shelves).length ≤ fuel) :
    ∃ after, ((bundles.map (Bundle.ref steps)).forM (Build.move directory fuel)).Yields
        current () after ∧
      (∀ bundle ∈ bundles, Stands steps ground after (directory.join above) bundle) ∧
      Moves steps (bundles.flatMap Bundle.labels) current after := by
  induction bundles generalizing current with
  | nil => exact ⟨current, rfl, by simp, ⟨by simp, by simp, rfl, rfl, rfl⟩⟩
  | cons bundle rest inductionHypothesis =>
    rw [List.flatMap_cons, List.nodup_append'] at distinct
    obtain ⟨once, others, apart⟩ := distinct
    rw [List.flatMap_cons, List.length_append] at enough
    obtain ⟨middle, moved, placed, changed⟩ := movable bundle (by simp) current fuel
      (same bundle (by simp)) once (by omega)
    -- The others have the entries that they had: they have no object in common with the first.
    have kept : ∀ other ∈ rest, other.Same steps store middle := by
      intro other among
      have before := same other (.tail _ among)
      have unchanged := moves_same changed (stand other (.tail _ among)) (by
        intro label inside inFirst
        exact apart inFirst (List.mem_flatMap.mpr ⟨other, among, inside⟩))
      constructor
      · intro label inside
        rw [unchanged.modules label inside, before.modules label inside]
      · intro label inside
        rw [unchanged.packages label inside, before.packages label inside]
    obtain ⟨after, movedRest, placedRest, changedRest⟩ := inductionHypothesis
      (fun other among => stand other (.tail _ among))
      (fun other among => movable other (.tail _ among)) kept others (by omega)
    refine ⟨after, Build.bind_yields moved movedRest, ?_, moves_trans changed changedRest⟩
    intro other among
    rcases List.mem_cons.mp among with rfl | behind
    · exact stands_same placed (moves_same changedRest placed apart)
    · exact placedRest other behind

/-- A package's own entries are changed before its parts are moved. -/
theorem package_moves (directory : Path) {label : Label} (made : label ∈ shelved steps)
    (known : label ∈ created steps) (store : Store) :
    Moves steps [label] store
      { store with
        packages := store.packages.modify (shelf steps label) fun item =>
          { item with path := directory.join item.path }
        modules := store.modules.modify (number steps label) fun item =>
          { item with path := directory.join item.path } } := by
  constructor
  · intro other created outside
    have apart : number steps label ≠ number steps other := fun same =>
      outside (List.mem_singleton.mpr (number_inj known same).symm)
    simp [Array.getElem?_modify, apart]
  · intro other created outside
    have apart : shelf steps label ≠ shelf steps other := fun same =>
      outside (List.mem_singleton.mpr (shelf_inj made same).symm)
    simp [Array.getElem?_modify, apart]
  · simp
  · simp
  · rfl

/-- A bundle can be moved. The induction is on the bundle: a package's own entries change first,
then its modules and packages move in turn. -/
theorem move_stands (directory : Path) (stands : Stands steps ground store above bundle) :
    Movable steps ground directory store above bundle := by
  induction stands with
  | @module above label name made stored =>
    intro current fuel same distinct enough
    have known := module_created made
    have entry := same.modules label (by simp [Bundle.labels])
    rw [stored] at entry
    refine ⟨{ current with modules := current.modules.modify (number steps label) fun item =>
      { item with path := directory.join item.path } }, ?_, ?_, ?_⟩
    · cases fuel <;> rfl
    · refine .module made ?_
      simp [Array.getElem?_modify, entry, Path.join_join]
    · constructor
      · intro other created outside
        have apart : number steps label ≠ number steps other := fun equal =>
          outside (by simp [Bundle.labels, number_inj known equal])
        simp [Array.getElem?_modify, apart]
      · simp
      · simp
      · rfl
      · rfl
  | @package above label name modules packages made stored root inner inductionHypothesis =>
    intro current fuel same distinct enough
    rw [Bundle.labels_package, List.nodup_cons] at distinct
    rw [Bundle.shelves_package, List.length_cons] at enough
    obtain ⟨fuel, rfl⟩ : ∃ less, fuel = less + 1 := ⟨fuel - 1, by omega⟩
    have known := package_created made
    have boxed := mem_shelved.mpr ⟨name, made⟩
    have row := same.packages label (by simp [Bundle.shelves])
    rw [stored] at row
    have entry := same.modules label (by simp [Bundle.labels])
    rw [root] at entry
    have changed := package_moves directory boxed known current
    generalize middleIs : ({ current with
      packages := current.packages.modify (shelf steps label) fun item =>
        { item with path := directory.join item.path }
      modules := current.modules.modify (number steps label) fun item =>
        { item with path := directory.join item.path } } : Store) = middle at changed
    have kept : ∀ part ∈ modules ++ packages, part.Same steps store middle := by
      intro part among
      have before := same_part same among
      have unchanged := moves_same changed (inner part among) (by
        intro other inside alone
        rw [List.mem_singleton] at alone
        exact distinct.1 (alone ▸ List.mem_flatMap.mpr ⟨part, among, inside⟩))
      constructor
      · intro other inside
        rw [unchanged.modules other inside, before.modules other inside]
      · intro other inside
        rw [unchanged.packages other inside, before.packages other inside]
    have bound : ((modules ++ packages).flatMap Bundle.shelves).length ≤ fuel := by omega
    obtain ⟨after, moved, placed, changedParts⟩ := move_all inner inductionHypothesis kept
      distinct.2 bound
    have outside : label ∉ (modules ++ packages).flatMap Bundle.labels := distinct.1
    refine ⟨after, ?_, .package made ?_ ?_ ?_, ?_⟩
    · rw [List.map_append, List.forM_eq_forM, List.forM_append] at moved
      subst middleIs
      unfold Build.move Bundle.ref
      refine Build.bind_yields (Build.get_yields current) ?_
      rw [row]
      have changing (change : Store → Store) (store : Store) :
          (modify change : Build Unit).Yields store () (change store) := rfl
      exact Build.bind_yields (changing _ _) (Build.bind_yields (changing _ _) moved)
    · rw [changedParts.packages label boxed outside, ← middleIs]
      simp [Array.getElem?_modify, row, Path.join_join]
    · rw [changedParts.modules label known outside, ← middleIs]
      simp [Array.getElem?_modify, entry, Path.join_join]
    · rw [Path.join_join]
      exact placed
    · rw [Bundle.labels_package]
      exact moves_trans changed changedParts

end Stencil.Code
