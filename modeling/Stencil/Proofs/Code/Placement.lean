import Stencil.Proofs.Code.Course
import Stencil.Proofs.Outcome

/-!
# Where files go

After every step each object's path is joined of the names of the packages above
it and its own (`Placed`). The files of an object are those of its bundle, in the
order of the bundle: a package's root module, then its modules, then what is in
its packages.

So the files do not depend on the order of construction. Two constructions that
make the same objects and put the same, in the same order, into each package and
into each body have the same files, however their steps are mixed.
-/

namespace Stencil.Code

variable {Label : Type} [DecidableEq Label]

/-- Each object lies below the packages above it. The names come from the steps, by `Ancestry`,
while the paths come from the store. -/
structure Placed (steps : List (Step Label)) (site : Site Label) : Prop where
  module : ∀ label name, .module label name ∈ steps → ∃ above, Ancestry steps label above ∧
    site.path? label = some (.joined (above ++ [name ++ ".py"]))
  package : ∀ label name, .package label name ∈ steps → ∃ above, Ancestry steps label above ∧
    site.directory? label = some (.joined (above ++ [name])) ∧
    site.path? label = some (.joined (above ++ [name, "__init__.py"]))

/-- Two constructions make the same objects, attach the same to each package in the same order, feed
each body with the same in the same order, and draw on each iterator in the same order. -/
structure Rearranged (steps others : List (Step Label)) : Prop where
  makes : ∀ step : Step Label, step.creation?.isSome → (step ∈ steps ↔ step ∈ others)
  attaches : ∀ sort parent, children sort steps parent = children sort others parent
  feeds : ∀ label, feeds steps label = feeds others label
  draws : ∀ id, draws steps id = draws others id

variable {steps others : List (Step Label)} {ground : Nat} {site : Site Label}
  {start store : Store} {loose : List (Bundle Label)} {bundle other : Bundle Label} {above : Path}
  {label : Label}

/-! ## Paths -/

/-- The objects of a standing construction lie below the packages above them. Each object is a part
of a loose bundle and stands below the directories of the packages above it, whose names its path is
joined of. -/
theorem placed_of_standing (standing : Standing steps ground site loose)
    (orderly : Orderly steps) : Placed steps site := by
  constructor
  · intro label name making
    obtain ⟨part, above, same, stands, _, ancestry, _⟩ :=
      standing_part standing orderly (module_created making)
    refine ⟨above, ancestry, ?_⟩
    cases stands with
    | @module _ own other made stored =>
      obtain rfl : own = label := same
      cases creation_unique orderly made making rfl rfl
      rw [Site.path?, Site.home?, (standing.calls _).1 name making, Option.bind_some, stored,
        Path.joined_append]
      rfl
    | package made =>
      cases same
      cases creation_unique orderly made making rfl rfl
  · intro label name making
    obtain ⟨part, above, same, stands, _, ancestry, _⟩ :=
      standing_part standing orderly (package_created making)
    refine ⟨above, ancestry, ?_⟩
    cases stands with
    | module made =>
      cases same
      cases creation_unique orderly made making rfl rfl
    | @package _ own other modules packages made stored root inner =>
      obtain rfl : own = label := same
      cases creation_unique orderly made making rfl rfl
      have called := (standing.calls _).2 name making
      constructor
      · rw [Site.directory?, called]
        dsimp only
        rw [stored, Path.joined_append]
        rfl
      · rw [List.append_cons, Path.joined_append, Path.joined_append, Site.path?, Site.home?,
          called]
        dsimp only
        rw [stored, Option.map_some, Option.bind_some, root]
        rfl

/-! ## Files -/

/-- What was attached as a module is one. -/
theorem module_part (orderly : Orderly steps) {parent : Label} (described : Describes steps bundle)
    (attached : bundle.label ∈ children .module steps parent) :
    ∃ label name, bundle = .module label name := by
  cases described with
  | module made => exact ⟨_, _, rfl⟩
  | @package label name modules packages made listed nested inner =>
    exfalso
    obtain ⟨before, after, cut⟩ := List.append_of_mem (mem_children.mp attached)
    obtain ⟨_, known, sorted⟩ := orderly.ready before _ after cut
    refine sorted rfl (mem_shelved.mpr ⟨name, ?_⟩)
    have early (step : Step Label) (inside : step ∈ before) : step ∈ steps :=
      cut ▸ List.mem_append_left _ inside
    rcases mem_created.mp known with ⟨other, member⟩ | ⟨other, member⟩
    · cases creation_unique orderly (early _ member) made rfl rfl
    · cases creation_unique orderly (early _ member) made rfl rfl
      exact member

/-- Items of which each gives a value give all those values. -/
theorem values_of_each {α β : Type} {items : List α} {step : α → Except Fault β} {value : α → β}
    (each : ∀ item ∈ items, step item = .ok (value item)) :
    items.mapM step = .ok (items.map value) := by
  induction items with
  | nil => rfl
  | cons item rest inductionHypothesis =>
    rw [List.mapM_cons, each item (by simp),
      inductionHypothesis fun other member => each other (.tail _ member)]
    rfl

/-- The objects whose files a bundle has are its own, in order. The bound suffices if the bundle has
no more packages. The induction is on the bundle. Each package takes one of the bound, and the
packages in it are fewer than its own. -/
theorem files_of_stands (orderly : Orderly steps)
    (stands : Stands steps ground store above bundle) (described : Describes steps bundle) {fuel : Nat}
    (enough : bundle.shelves.length ≤ fuel) :
    store.filesOf fuel (bundle.ref steps) =
      .ok (bundle.labels.map fun label => .module (number steps label)) := by
  induction stands generalizing fuel with
  | module made stored =>
    rw [Bundle.labels, Bundle.ref]
    cases fuel <;> rfl
  | @package above label name modules packages made stored root inner inductionHypothesis =>
    cases described with
    | package _ listed nested described =>
      rw [Bundle.shelves, List.length_cons, List.length_append] at enough
      obtain ⟨bound, rfl⟩ : ∃ bound, fuel = bound + 1 := ⟨fuel - 1, by omega⟩
      -- The modules are files of their own.
      have files : modules.map (Bundle.ref steps) =
          (modules.flatMap Bundle.labels).map fun label => Ref.module (number steps label) := by
        rw [List.map_flatMap, List.map_eq_flatMap]
        refine List.flatMap_congr fun part among => ?_
        obtain ⟨own, title, rfl⟩ := module_part orderly
          (described part (List.mem_append_left _ among))
          (listed ▸ List.mem_map_of_mem among)
        rw [Bundle.labels, Bundle.ref]
        rfl
      have inside : ∀ part ∈ packages, store.filesOf bound (part.ref steps) =
          .ok (part.labels.map fun label => .module (number steps label)) := by
        intro part among
        have here := List.mem_append_right modules among
        refine inductionHypothesis part here (described part here) ?_
        have within := (List.sublist_flatten_of_mem
          (List.mem_map_of_mem (f := Bundle.shelves) among)).length_le
        rw [← List.flatMap_def] at within
        omega
      have nestedFiles : (packages.map (Bundle.ref steps)).mapM (store.filesOf bound) =
          .ok (packages.map fun part => part.labels.map fun label => .module (number steps label)) := by
        rw [List.mapM_map]
        exact values_of_each inside
      rw [Bundle.ref, Store.filesOf, stored]
      dsimp only
      have flat : (packages.map fun part =>
            part.labels.map fun label => Ref.module (number steps label)).flatten =
          (packages.flatMap Bundle.labels).map fun label => .module (number steps label) := by
        rw [List.map_flatMap, List.flatMap_def]
      rw [nestedFiles, files, Bundle.labels, List.map_cons, List.map_append, ← flat]
      rfl

/-- The module of a label has the label's number, and so has its body. -/
theorem home_of (standing : Standing steps ground site loose) (orderly : Orderly steps)
    (made : label ∈ created steps) :
    site.home? label = some (number steps label) ∧
      ∃ path, site.store.modules[number steps label]? = some ⟨path, ground + number steps label⟩ := by
  obtain ⟨part, above, same, stands, _⟩ := standing_part standing orderly made
  cases stands with
  | @module _ own name making stored =>
    obtain rfl : own = label := same
    rw [Site.home?, (standing.calls _).1 name making]
    exact ⟨rfl, _, stored⟩
  | @package _ own name modules packages making stored root inner =>
    obtain rfl : own = label := same
    rw [Site.home?, (standing.calls _).2 name making]
    dsimp only
    rw [stored]
    exact ⟨rfl, _, root⟩

/-- The file of a label is that of its numbered module. -/
theorem file_of (standing : Standing steps ground site loose) (orderly : Orderly steps)
    (made : label ∈ created steps) :
    site.file label = site.store.file (.module (number steps label)) := by
  rw [Site.file, (home_of standing orderly made).1]

/-- The files of a label are those of its bundle's objects, in order. -/
theorem files_of_bundle (standing : Standing steps ground site loose) (orderly : Orderly steps)
    (stands : Stands steps ground site.store above bundle) (described : Describes steps bundle)
    (distinct : bundle.labels.Nodup) :
    site.files bundle.label = bundle.labels.mapM site.file := by
  have called : site.named bundle.label = .object (bundle.ref steps) := by
    cases described with
    | module making => rw [Site.named, Bundle.label, (standing.calls _).1 _ making, Bundle.ref]
    | package making => rw [Site.named, Bundle.label, (standing.calls _).2 _ making, Bundle.ref]
  have bound := shelves_bound stands described distinct
  rw [← standing.packageCount] at bound
  rw [Site.files, called, Store.files, Store.fileRefs,
    files_of_stands orderly stands described (Nat.le_succ_of_le bound)]
  change (bundle.labels.map _).mapM site.store.file = _
  rw [List.mapM_map]
  refine same_of_each fun label inside => ?_
  exact (file_of standing orderly (stands_created stands label inside)).symm

/-- An object's files are those of a bundle that has no object twice. -/
theorem files_of_label (bare : start.Bare) (orderly : Orderly steps) (made : label ∈ created steps) :
    ∃ bundle, Describes steps bundle ∧ bundle.label = label ∧ bundle.labels.Nodup ∧
      (∀ inner ∈ bundle.labels, inner ∈ created steps) ∧
      (construct start steps).files label = bundle.labels.mapM (construct start steps).file := by
  obtain ⟨loose, standing⟩ := standing_run bare orderly
  obtain ⟨part, above, rfl, stands, described, _, distinct⟩ := standing_part standing orderly made
  exact ⟨part, described, rfl, distinct, stands_created stands,
    files_of_bundle standing orderly stands described distinct⟩

/-! ## What is in a bundle -/

/-- What is attached to an object of a bundle is in the bundle. -/
theorem labels_closed (orderly : Orderly steps) (described : Describes steps bundle)
    {child parent : Label} (below : Below steps child parent) (inside : parent ∈ bundle.labels) :
    child ∈ bundle.labels := by
  induction described with
  | module made =>
    rw [Bundle.labels, List.mem_singleton] at inside
    subst inside
    obtain ⟨name, boxed⟩ := mem_shelved.mp (below_created orderly below).2
    cases creation_unique orderly made boxed rfl rfl
  | @package own name modules packages made listed nested inner inductionHypothesis =>
    rw [Bundle.labels_package, List.mem_cons, List.mem_flatMap] at inside ⊢
    right
    rcases inside with rfl | ⟨part, among, within⟩
    · obtain ⟨sort, attached⟩ := below
      have child : child ∈ (modules ++ packages).map Bundle.label := by
        rw [List.map_append, ← listed, ← nested, List.mem_append]
        cases sort with
        | module => exact .inl (mem_children.mpr attached)
        | package => exact .inr (mem_children.mpr attached)
      obtain ⟨part, among, rfl⟩ := List.mem_map.mp child
      exact ⟨part, among, part.label_mem⟩
    · exact ⟨part, among, inductionHypothesis part among within⟩

/-- The objects of a bundle are those below its own object. -/
theorem mem_labels_iff (orderly : Orderly steps) (described : Describes steps bundle) :
    label ∈ bundle.labels ↔ Relation.ReflTransGen (Below steps) label bundle.label := by
  constructor
  · exact below_top described label
  · intro upward
    induction upward using Relation.ReflTransGen.head_induction_on with
    | refl => exact bundle.label_mem
    | head below _ inside => exact labels_closed orderly described below inside

/-- Lists with the same images are the same if items with the same image are. -/
theorem eq_of_map_eq {α β : Type} {items others : List α} {image : α → β}
    (same : items.map image = others.map image)
    (each : ∀ item ∈ items, ∀ other ∈ others, image item = image other → item = other) :
    items = others := by
  induction items generalizing others with
  | nil => exact (List.map_eq_nil_iff.mp same.symm).symm
  | cons item rest inductionHypothesis =>
    cases others with
    | nil => cases same
    | cons other more =>
      rw [List.map_cons, List.map_cons, List.cons.injEq] at same
      rw [each item (by simp) other (by simp) same.1,
        inductionHypothesis same.2 fun first inFirst second inSecond =>
          each first (.tail _ inFirst) second (.tail _ inSecond)]

/-- Rearranged constructions make the same bundles. The induction is on the first description: both
constructions have the same children of a label, in the same order, and each child is described in
both. -/
theorem describes_unique (orderly : Orderly others) (rearranged : Rearranged steps others)
    (described : Describes steps bundle) (again : Describes others other)
    (same : bundle.label = other.label) : bundle = other := by
  induction described generalizing other with
  | @module label name made =>
    have known := (rearranged.makes _ rfl).mp made
    cases again with
    | module making =>
      cases same
      cases creation_unique orderly known making rfl rfl
      rfl
    | package making =>
      cases same
      cases creation_unique orderly known making rfl rfl
  | @package label name modules packages made listed nested inner inductionHypothesis =>
    have known := (rearranged.makes _ rfl).mp made
    cases again with
    | module making =>
      cases same
      cases creation_unique orderly known making rfl rfl
    | @package _ _ otherModules otherPackages making otherListed otherNested otherInner =>
      obtain rfl : label = _ := same
      cases creation_unique orderly known making rfl rfl
      rw [rearranged.attaches, otherListed] at listed
      rw [rearranged.attaches, otherNested] at nested
      have sameModules := eq_of_map_eq listed.symm fun part among whole within =>
        inductionHypothesis part (List.mem_append_left _ among)
          (otherInner whole (List.mem_append_left _ within))
      have samePackages := eq_of_map_eq nested.symm fun part among whole within =>
        inductionHypothesis part (List.mem_append_right _ among)
          (otherInner whole (List.mem_append_right _ within))
      rw [sameModules, samePackages]

/-! ## Rearranged constructions -/

/-- The same objects are attached to the same packages. -/
theorem below_rearranged (rearranged : Rearranged steps others) {child parent : Label} :
    Below steps child parent ↔ Below others child parent := by
  constructor
  · rintro ⟨sort, member⟩
    rw [← mem_children, rearranged.attaches] at member
    exact ⟨sort, mem_children.mp member⟩
  · rintro ⟨sort, member⟩
    rw [← mem_children, ← rearranged.attaches] at member
    exact ⟨sort, mem_children.mp member⟩

/-- The names above an object are the same in rearranged constructions. -/
theorem ancestry_unique (orderly : Orderly others) (rearranged : Rearranged steps others)
    {names more : List String} (ancestry : Ancestry steps label names)
    (again : Ancestry others label more) : names = more := by
  induction ancestry generalizing more with
  | loose alone =>
    cases again with
    | loose => rfl
    | attached below => exact absurd ((below_rearranged rearranged).mpr below) (alone _)
  | attached below named upward inductionHypothesis =>
    have known := (below_rearranged rearranged).mp below
    cases again with
    | loose alone => exact absurd known (alone _)
    | attached again title upwardAgain =>
      obtain rfl := below_unique orderly known again
      cases creation_unique orderly ((rearranged.makes _ rfl).mp named) title rfl rfl
      rw [inductionHypothesis upwardAgain]

/-- The file of a label is at its path, and has the statements that the draft has for it. -/
theorem file_written (bare : start.Bare) (closed : start.Closed)
    (standing : Standing steps start.blocks.size site loose) (orderly : Orderly steps)
    (written : Written steps start site.store) (made : label ∈ created steps) {path : Path}
    (placed : site.path? label = some path) :
    site.file label = (do
      let outlines ← ((drafted start (servings steps)).bodies label).mapM start.outline
      return ⟨path, Outline.fileText (Outline.linesOf 0 outlines)⟩) := by
  obtain ⟨home, place, stored⟩ := home_of standing orderly made
  rw [Site.path?, home, Option.bind_some, stored, Option.map_some, Option.some.injEq] at placed
  obtain rfl : place = path := placed
  have outline : site.store.outline = start.outline := by
    funext ref
    rw [Store.outline, Store.outline, written.grown.statements,
      outline_grown closed bare written.grown]
  have body : site.store.block (start.blocks.size + number steps label) =
      (drafted start (servings steps)).bodies label := by
    rw [Store.block, written.bodies label made]
    rfl
  rw [file_of standing orderly made, Store.file, Store.filePath]
  simp only [Store.moduleText, Store.sourceWith]
  rw [stored]
  simp only [Option.map_some, Option.getD_some, body, outline]
  cases ((drafted start (servings steps)).bodies label).mapM start.outline <;> rfl

/-- Rearranged constructions write the same draft. -/
theorem drafted_same (rearranged : Rearranged steps others) :
    drafted start (servings steps) = drafted start (servings others) :=
  drafted_rearranged rearranged.feeds rearranged.draws _

/-- Rearranged constructions feed bodies with the same values. -/
theorem served_rearranged (rearranged : Rearranged steps others) {given : Label × Feed}
    (served : given ∈ servings others) : given ∈ servings steps := by
  have inside : given ∈ feeds others given.1 := List.mem_filter.mpr ⟨served, by simp⟩
  rw [← rearranged.feeds] at inside
  exact (List.mem_filter.mp inside).1

/-- Rearranged constructions place an object's file at the same path. -/
theorem path_rearranged {again : Site Label} (placed : Placed steps site)
    (placedAgain : Placed others again) (orderly : Orderly others)
    (rearranged : Rearranged steps others) (made : label ∈ created steps) :
    ∃ path, site.path? label = some path ∧ again.path? label = some path := by
  rcases mem_created.mp made with ⟨name, making⟩ | ⟨name, making⟩
  · obtain ⟨above, ancestry, path⟩ := placed.module label name making
    obtain ⟨names, ancestryAgain, pathAgain⟩ :=
      placedAgain.module label name ((rearranged.makes _ rfl).mp making)
    rw [ancestry_unique orderly rearranged ancestry ancestryAgain] at path
    exact ⟨_, path, pathAgain⟩
  · obtain ⟨above, ancestry, _, path⟩ := placed.package label name making
    obtain ⟨names, ancestryAgain, _, pathAgain⟩ :=
      placedAgain.package label name ((rearranged.makes _ rfl).mp making)
    rw [ancestry_unique orderly rearranged ancestry ancestryAgain] at path
    exact ⟨_, path, pathAgain⟩

/-- Rearranged constructions make the same objects. -/
theorem created_rearranged (rearranged : Rearranged steps others) (made : label ∈ created steps) :
    label ∈ created others := by
  rcases mem_created.mp made with ⟨name, making⟩ | ⟨name, making⟩
  · exact module_created ((rearranged.makes _ rfl).mp making)
  · exact package_created ((rearranged.makes _ rfl).mp making)

/-- Rearranged constructions give an object the same file. -/
theorem file_rearranged (bare : start.Bare) (closed : start.Closed) (orderly : Orderly steps)
    (orderlyOthers : Orderly others) (rearranged : Rearranged steps others)
    (beyond : ∀ given ∈ servings steps, given.2.Over start.blocks.size)
    (made : label ∈ created steps) :
    (construct start steps).file label = (construct start others).file label := by
  obtain ⟨loose, standing⟩ := standing_run bare orderly
  obtain ⟨bundles, standingOthers⟩ := standing_run bare orderlyOthers
  have written := written_run bare orderly closed.walks beyond
  have writtenOthers := written_run bare orderlyOthers closed.walks fun given served =>
    beyond given (served_rearranged rearranged served)
  obtain ⟨path, placed, placedOthers⟩ := path_rearranged (placed_of_standing standing orderly)
    (placed_of_standing standingOthers orderlyOthers) orderlyOthers rearranged made
  rw [file_written bare closed standing orderly written made placed,
    file_written bare closed standingOthers orderlyOthers writtenOthers
      (created_rearranged rearranged made) placedOthers,
    drafted_same rearranged]

/-- **Paths and files do not depend on the order of construction.** After every step each object's
path is joined of the names above it and its own. The files of an object are those of everything
below it, each once, in the order of its bundle. And an object has the same files in every
rearrangement of the construction.

A rearrangement mixes the steps differently: packages may be filled before or after they are
attached, at every level. Bodies are fed from what was there at the start.

Proof: the first two parts hold of what a run leaves standing, which is shown by induction on the
steps: each object stands in a loose bundle, as the construction describes it (`standing_run`). A
rearrangement describes the same bundles, since each package takes its parts in the same order; and
the file of an object hangs on the names above it and on its body, which are the same in both
(`file_rearranged`). -/
theorem files_rearranged (start : Store) (steps : List (Step Label)) (bare : start.Bare)
    (orderly : Orderly steps) :
    (∀ before, before <+: steps → Placed before (construct start before)) ∧
    (∀ label ∈ created steps, ∃ bundle, Describes steps bundle ∧ bundle.label = label ∧
      bundle.labels.Nodup ∧
      (∀ other, other ∈ bundle.labels ↔ Relation.ReflTransGen (Below steps) other label) ∧
      (construct start steps).files label = bundle.labels.mapM (construct start steps).file) ∧
    ∀ others, Orderly others → Rearranged steps others → start.Closed →
      (∀ given ∈ servings steps, given.2.Over start.blocks.size) →
      ∀ label ∈ created steps,
        (construct start others).files label = (construct start steps).files label := by
  refine ⟨?_, ?_, ?_⟩
  · rintro before ⟨after, rfl⟩
    have first := orderly_before orderly
    obtain ⟨loose, standing⟩ := standing_run bare first
    exact placed_of_standing standing first
  · intro label made
    obtain ⟨bundle, described, same, distinct, _, files⟩ := files_of_label bare orderly made
    refine ⟨bundle, described, same, distinct, fun other => ?_, files⟩
    rw [mem_labels_iff orderly described, same]
  · intro others orderlyOthers rearranged closed beyond label made
    obtain ⟨bundle, described, same, _, inside, files⟩ := files_of_label bare orderly made
    obtain ⟨other, again, sameOther, _, known, filesOther⟩ :=
      files_of_label bare orderlyOthers (created_rearranged rearranged made)
    obtain rfl := describes_unique orderlyOthers rearranged described again
      (same.trans sameOther.symm)
    rw [files, filesOther]
    refine same_of_each fun inner member => ?_
    exact (file_rearranged bare closed orderly orderlyOthers rearranged beyond
      (inside inner member)).symm

/-- Two statements, and an iterator that gives the second. -/
def twoLines : Store :=
  { Store.empty with
    statements := #[.raw "x = 1", .raw "y = 2"]
    walks := #[.rest [.object (.statement ⟨.raw, 1⟩)]] }

/-- A package, a package in it, and two modules in that. -/
inductive Nest where
  | outer
  | inner
  | blank
  | rooted
deriving DecidableEq

/-- How many packages are below each other. -/
def Nest.height : Nest → Nat
  | outer => 2
  | inner => 1
  | _ => 0

/-- Packages are attached first and filled afterwards. -/
def outermostFirst : List (Step Nest) :=
  [.package .outer "a/./b", .package .inner "..", .attach .package .outer .inner,
    .module .blank "", .attach .module .inner .blank, .module .rooted "/m",
    .attach .module .inner .rooted, .push .blank (.object (.statement ⟨.raw, 0⟩)),
    .extend .inner (.object (.iterator .list 0))]

/-- Packages are filled first and attached afterwards. -/
def innermostFirst : List (Step Nest) :=
  [.module .rooted "/m", .module .blank "", .package .inner "..",
    .extend .inner (.object (.iterator .list 0)), .attach .module .inner .blank,
    .push .blank (.object (.statement ⟨.raw, 0⟩)), .package .outer "a/./b",
    .attach .module .inner .rooted, .attach .package .outer .inner]

/-- Two orders of construction with odd names: a name of several parts, `..`, an empty name and an
absolute one. -/
theorem odd_names_rearranged :
    twoLines.Bare ∧ Orderly outermostFirst ∧ Orderly innermostFirst ∧
      Rearranged outermostFirst innermostFirst ∧ twoLines.Closed ∧
      (∀ given ∈ servings outermostFirst, given.2.Over twoLines.blocks.size) ∧
      (construct twoLines innermostFirst).files .outer =
        (construct twoLines outermostFirst).files .outer := by
  have bare : twoLines.Bare := ⟨rfl, rfl⟩
  have outer : Orderly outermostFirst := by
    refine orderly_of_rank Nest.height (by decide) (by decide) (by decide) ?_
    rintro _ member sort parent child rfl
    simp only [outermostFirst, List.mem_cons, List.not_mem_nil, Step.attach.injEq, reduceCtorEq, or_false,
      false_or] at member
    rcases member with ⟨rfl, rfl, rfl⟩ | ⟨rfl, rfl, rfl⟩ | ⟨rfl, rfl, rfl⟩ <;> decide
  have inner : Orderly innermostFirst := by
    refine orderly_of_rank Nest.height (by decide) (by decide) (by decide) ?_
    rintro _ member sort parent child rfl
    simp only [innermostFirst, List.mem_cons, List.not_mem_nil, Step.attach.injEq, reduceCtorEq, or_false,
      false_or] at member
    rcases member with ⟨rfl, rfl, rfl⟩ | ⟨rfl, rfl, rfl⟩ | ⟨rfl, rfl, rfl⟩ <;> decide
  have rearranged : Rearranged outermostFirst innermostFirst := by
    refine ⟨?_, ?_, ?_, ?_⟩
    · intro step makes
      cases step with
      | module label name | package label name =>
        simp only [outermostFirst, innermostFirst, List.mem_cons, List.not_mem_nil, Step.module.injEq,
          Step.package.injEq, reduceCtorEq, or_false, false_or]
        exact or_comm
      | _ => cases makes
    · intro sort parent
      cases sort <;> cases parent <;> rfl
    · intro label
      cases label <;> rfl
    · intro id
      cases id <;> rfl
  have closed : twoLines.Closed := by
    refine ⟨?_, ?_, ?_⟩
    · intro id statement stored ref mentioned
      match id, stored with
      | 0, rfl => cases mentioned
      | 1, rfl => cases mentioned
    · intro id items stored
      cases stored
    · intro id walk come
      match id, come with
      | 0, rfl => trivial
  have beyond : ∀ given ∈ servings outermostFirst, given.2.Over twoLines.blocks.size := by
    intro given served
    have pair : given ∈ [(Nest.blank, Feed.one (.object (.statement ⟨.raw, 0⟩))),
        (.inner, .all (.object (.iterator .list 0)))] := served
    rcases List.mem_pair.mp pair with rfl | rfl
    · trivial
    · trivial
  exact ⟨bare, outer, inner, rearranged, closed, beyond,
    (files_rearranged twoLines outermostFirst bare outer).2.2 innermostFirst inner rearranged closed
      beyond .outer (by decide)⟩

end Stencil.Code
