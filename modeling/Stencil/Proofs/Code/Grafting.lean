import Mathlib.Data.List.Count
import Mathlib.Data.List.Perm.Basic
import Stencil.Proofs.Code.Bundle

/-!
# Grafting

Attaching an object to a package is grafting one bundle onto another: the
package, wherever it is in its bundle, has one part more. The objects of the two
bundles are then in one (`count_labels_graft`), the bundle is still what the
construction describes (`describes_graft`), and it stands in the store if the
part stands below the package's directory (`stands_graft`).
-/

namespace Stencil.Code

variable {Label : Type} [DecidableEq Label]

/-- A package with one part more. -/
def Package.adding (package : Package) (ref : Ref) : Build.Attachment → Package
  | .module => { package with modules := package.modules ++ [ref] }
  | .package => { package with packages := package.packages ++ [ref] }

namespace Bundle

/-- A bundle with one part more in the package of a label. -/
def graft (bundle : Bundle Label) (sort : Build.Attachment) (parent : Label)
    (part : Bundle Label) : Bundle Label :=
  match bundle with
  | .module label name => .module label name
  | .package label name modules packages =>
    .package label name
      (modules.map (·.graft sort parent part) ++
        if label = parent ∧ sort = .module then [part] else [])
      (packages.map (·.graft sort parent part) ++
        if label = parent ∧ sort = .package then [part] else [])

variable {sort : Build.Attachment} {parent : Label} {part : Bundle Label}

/-- Grafting keeps a bundle's own label. -/
@[simp] theorem label_graft (bundle : Bundle Label) :
    (bundle.graft sort parent part).label = bundle.label := by
  cases bundle <;> simp [graft, label]

/-- Grafting keeps a bundle's own object. -/
@[simp] theorem ref_graft (steps : List (Step Label)) (bundle : Bundle Label) :
    (bundle.graft sort parent part).ref steps = bundle.ref steps := by
  cases bundle <;> simp [graft, ref]

/-- The parts of a package after grafting are its grafted parts, and the new part at its parent. -/
theorem graft_parts (label : Label) (modules packages : List (Bundle Label)) :
    ((modules.map (·.graft sort parent part) ++
        if label = parent ∧ sort = .module then [part] else []) ++
      (packages.map (·.graft sort parent part) ++
        if label = parent ∧ sort = .package then [part] else [])).Perm
      ((modules ++ packages).map (·.graft sort parent part) ++
        if label = parent then [part] else []) := by
  rw [List.map_append]
  by_cases here : label = parent
  · cases sort
    · have moved (others : List (Bundle Label)) : ([part] ++ others).Perm (others ++ [part]) :=
        List.perm_append_comm
      simpa [here] using (moved _).append_left _
    · simp [here]
  · simp [here]

end Bundle

variable {steps : List (Step Label)} {ground : Nat} {store after : Store} {above : Path}
  {bundle part : Bundle Label} {sort : Build.Attachment} {parent : Label}

/-- Counting in lists put behind each other, if each of them has so many more of an object for each
package of another label. -/
theorem count_flat_graft {label : Label} {bundles : List (Bundle Label)} {more : Nat}
    (each : ∀ bundle ∈ bundles, (bundle.graft sort parent part).labels.count label =
      bundle.labels.count label + bundle.shelves.count parent * more) :
    ((bundles.map (·.graft sort parent part)).flatMap Bundle.labels).count label =
      (bundles.flatMap Bundle.labels).count label +
        (bundles.flatMap Bundle.shelves).count parent * more := by
  induction bundles with
  | nil => simp
  | cons bundle rest inductionHypothesis =>
    have first := each bundle (by simp)
    have others := inductionHypothesis fun other among => each other (.tail _ among)
    simp only [List.map_cons, List.flatMap_cons, List.count_append, first, others, Nat.add_mul]
    omega

/-- Every package of the parent's label gives a bundle the objects of the part. The induction is on
what describes the bundle; the package itself counts once more where it is the parent. -/
theorem count_labels_graft (described : Describes steps bundle) (label : Label) :
    (bundle.graft sort parent part).labels.count label =
      bundle.labels.count label + bundle.shelves.count parent * part.labels.count label := by
  induction described with
  | module made => simp [Bundle.graft, Bundle.shelves]
  | @package own name modules packages made listed nested inner inductionHypothesis =>
    have parts := (@Bundle.graft_parts _ _ sort parent part own modules packages).flatMap_right
      Bundle.labels
    have inside := count_flat_graft inductionHypothesis
    rw [Bundle.graft, Bundle.labels_package, Bundle.labels_package, Bundle.shelves_package,
      List.count_cons, parts.count_eq, List.flatMap_append, List.count_append, inside,
      List.count_cons, List.count_cons]
    by_cases here : own = parent
    · simp only [here, if_true, List.flatMap_singleton, beq_self_eq_true, Nat.add_mul, Nat.one_mul]
      omega
    · simp [here]
      omega

/-- An object in a bundle is the bundle's own object, or it is attached below it. -/
theorem below_top (described : Describes steps bundle) :
    ∀ label ∈ bundle.labels, Relation.ReflTransGen (Below steps) label bundle.label := by
  induction described with
  | module made =>
    intro label inside
    rw [Bundle.labels, List.mem_singleton] at inside
    exact inside ▸ .refl
  | @package own name modules packages made listed nested inner inductionHypothesis =>
    intro label inside
    rw [Bundle.labels_package, List.mem_cons, List.mem_flatMap] at inside
    rcases inside with rfl | ⟨child, among, within⟩
    · exact .refl
    · refine (inductionHypothesis child among label within).tail ?_
      rcases List.mem_append.mp among with inModules | inPackages
      · exact ⟨.module, mem_children.mp (listed ▸ List.mem_map_of_mem inModules)⟩
      · exact ⟨.package, mem_children.mp (nested ▸ List.mem_map_of_mem inPackages)⟩

/-- A construction that attaches one object more describes the grafted bundles. -/
theorem describes_graft (described : Describes steps bundle)
    (more : Describes (steps ++ [.attach sort parent part.label]) part) :
    Describes (steps ++ [.attach sort parent part.label]) (bundle.graft sort parent part) := by
  induction described with
  | module made =>
    rw [Bundle.graft]
    exact .module (List.mem_append_left _ made)
  | @package own name modules packages made listed nested inner inductionHypothesis =>
    have names (bundles : List (Bundle Label)) :
        (bundles.map (·.graft sort parent part)).map Bundle.label =
          bundles.map Bundle.label := by simp
    have flipped : parent = own ↔ own = parent := eq_comm
    rw [Bundle.graft]
    refine .package (List.mem_append_left _ made) ?_ ?_ ?_
    · rw [children_append, listed, List.map_append, names]
      cases sort <;> by_cases here : own = parent <;>
        simp [Step.childOf?, flipped, here]
    · rw [children_append, nested, List.map_append, names]
      cases sort <;> by_cases here : own = parent <;>
        simp [Step.childOf?, flipped, here]
    · intro child among
      have listed := (Bundle.graft_parts own modules packages).mem_iff.mp among
      rcases List.mem_append.mp listed with old | new
      · obtain ⟨before, inside, rfl⟩ := List.mem_map.mp old
        exact inductionHypothesis before inside
      · by_cases here : own = parent
        · rw [if_pos here, List.mem_singleton] at new
          exact new ▸ more
        · simp [here] at new

/-- A grafted bundle stands in a store in which the parent has one part more, which stands below the
parent's directory, and all other entries for the bundle are the same. The induction is on the
bundle that stands. Only the parent has another entry, and what is attached to it stands where the
parent's directory is. -/
theorem stands_graft (stands : Stands steps ground store above bundle)
    (modules : ∀ label ∈ bundle.labels,
      after.modules[number steps label]? = store.modules[number steps label]?)
    (packages : ∀ label ∈ bundle.shelves, label ≠ parent →
      after.packages[shelf steps label]? = store.packages[shelf steps label]?)
    (grown : ∀ held, store.packages[shelf steps parent]? = some held →
      after.packages[shelf steps parent]? = some (held.adding (part.ref steps) sort) ∧
        Stands steps ground after held.path part) :
    Stands steps ground after above (bundle.graft sort parent part) := by
  induction stands with
  | module made stored =>
    rw [Bundle.graft]
    refine .module made ?_
    rw [modules _ (by simp [Bundle.labels]), stored]
  | @package above own name inModules inPackages made stored root inner inductionHypothesis =>
    rw [Bundle.labels_package] at modules
    rw [Bundle.shelves_package] at packages
    have refs (bundles : List (Bundle Label)) :
        (bundles.map (·.graft sort parent part)).map (Bundle.ref steps) =
          bundles.map (Bundle.ref steps) := by simp
    rw [Bundle.graft]
    refine .package made ?_ ?_ ?_
    · rw [List.map_append, List.map_append, refs, refs]
      by_cases here : own = parent
      · subst here
        rw [(grown _ stored).1]
        cases sort <;> simp [Package.adding]
      · rw [packages own (by simp) here, stored]
        simp [here]
    · rw [modules own (by simp), root]
    · intro child among
      have listed := (Bundle.graft_parts own inModules inPackages).mem_iff.mp among
      rcases List.mem_append.mp listed with old | new
      · obtain ⟨before, inside, rfl⟩ := List.mem_map.mp old
        refine inductionHypothesis before inside ?_ ?_
        · intro label within
          exact modules label (.tail _ (List.mem_flatMap.mpr ⟨before, inside, within⟩))
        · intro label within
          exact packages label (.tail _ (List.mem_flatMap.mpr ⟨before, inside, within⟩))
      · by_cases here : own = parent
        · rw [if_pos here, List.mem_singleton] at new
          subst here
          exact new ▸ (grown _ stored).2
        · simp [here] at new

end Stencil.Code
