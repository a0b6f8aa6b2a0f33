import Stencil.Proofs.Code.Course
import Stencil.Proofs.Outcome

/-!
# What the files of a construction have in common

A construction puts files only at paths that it gets by reading names and by
joining them. So whatever holds of the names, and is kept when a path is joined
below a package's directory, holds of every file (`construct_filed`). Nothing is
asked of the order of the steps: an object may be attached more than once, or
below itself, and a step that fails may have moved some files already.

`Filing` says what has to be kept. `Store.Filed` is the invariant of the store.
It also says that packages refer to modules and packages that are there, so that
no file is missing when the files are listed.
-/

namespace Stencil.Code

/-- A property of directories and one of files that joining below a directory keeps. The root module
of a package has the second. -/
structure Filing (directory file : Path → Prop) : Prop where
  root : file (.ofText "__init__.py")
  deeper : ∀ {outer inner : Path}, directory outer → directory inner → directory (outer.join inner)
  below : ∀ {outer inner : Path}, directory outer → file inner → file (outer.join inner)

/-- The paths that are read from a step's name have the properties. -/
def Step.Filed {Label : Type} (directory file : Path → Prop) : Step Label → Prop
  | .module _ name => file (.ofText (name ++ ".py"))
  | .package _ name => directory (.ofText name)
  | _ => True

/-- An object is a module or a package of a store. -/
def Ref.OnFile (store : Store) : Ref → Prop
  | .module id => id < store.modules.size
  | .package id => id < store.packages.size
  | _ => False

/-- The paths of a store's modules and packages have the properties, and what belongs to a package is
there. -/
structure Store.Filed (directory file : Path → Prop) (store : Store) : Prop where
  modules : ∀ (id : Nat) (item : Module), store.modules[id]? = some item → file item.path
  packages : ∀ (id : Nat) (item : Package), store.packages[id]? = some item → directory item.path
  roots : ∀ (id : Nat) (item : Package), store.packages[id]? = some item →
    item.root < store.modules.size
  parts : ∀ (id : Nat) (item : Package), store.packages[id]? = some item →
    ∀ ref ∈ item.modules ++ item.packages, ref.OnFile store

/-- A store has as many modules and packages as another, and keeps the properties. -/
structure Store.Refiled (directory file : Path → Prop) (before after : Store) : Prop where
  modules : after.modules.size = before.modules.size
  packages : after.packages.size = before.packages.size
  filed : before.Filed directory file → after.Filed directory file

/-- A step keeps the properties on a store, whether or not it succeeds. -/
def Build.Refiles (directory file : Path → Prop) {α : Type} (step : Build α) (store : Store) :
    Prop :=
  store.Refiled directory file (step.run.run store).2

/-- The properties hold of what a construction has made, and its labels call what is there. -/
structure Site.Filed {Label : Type} (directory file : Path → Prop) (site : Site Label) : Prop where
  store : site.store.Filed directory file
  refs : ∀ held ∈ site.refs, held.2.OnFile site.store

variable {Label : Type} {directory file : Path → Prop} {store before middle after : Store}

/-! ## Steps that make nothing -/

/-- What is there is there in a store that is as large. -/
theorem on_file_after {ref : Ref} (stored : ref.OnFile before)
    (modules : before.modules.size ≤ after.modules.size)
    (packages : before.packages.size ≤ after.packages.size) : ref.OnFile after := by
  cases ref with
  | module id => exact Nat.lt_of_lt_of_le stored modules
  | package id => exact Nat.lt_of_lt_of_le stored packages
  | _ => cases stored

/-- A store keeps the properties that it has. -/
theorem refiled_refl (store : Store) : store.Refiled directory file store := ⟨rfl, rfl, id⟩

/-- What is kept twice is kept. -/
theorem refiled_trans (first : before.Refiled directory file middle)
    (second : middle.Refiled directory file after) : before.Refiled directory file after where
  modules := second.modules.trans first.modules
  packages := second.packages.trans first.packages
  filed held := second.filed (first.filed held)

/-- A store with the same modules and packages keeps the properties. -/
theorem refiled_same (modules : after.modules = before.modules)
    (packages : after.packages = before.packages) : before.Refiled directory file after := by
  refine ⟨by rw [modules], by rw [packages], fun filed => ⟨?_, ?_, ?_, ?_⟩⟩
  · rw [modules]
    exact filed.modules
  · rw [packages]
    exact filed.packages
  · rw [modules, packages]
    exact filed.roots
  · intro id item found ref member
    rw [packages] at found
    exact on_file_after (filed.parts id item found ref member) (Nat.le_of_eq (by rw [modules]))
      (Nat.le_of_eq (by rw [packages]))

/-- A step that changes nothing keeps the properties. -/
theorem refiles_still {α : Type} {step : Build α} (still : (step.run.run store).2 = store) :
    step.Refiles directory file store := by
  rw [Build.Refiles, still]
  exact refiled_refl store

/-- A chain keeps the properties if its steps do. -/
theorem refiles_bind {α β : Type} {step : Build α} {next : α → Build β}
    (first : step.Refiles directory file store)
    (behind : ∀ value middle, step.Yields store value middle →
      (next value).Refiles directory file middle) :
    (step >>= next).Refiles directory file store := by
  rw [Build.Refiles] at first ⊢
  rw [ExceptT.run_bind, StateT.run_bind]
  rcases ran : step.run.run store with ⟨result, middle⟩
  rw [ran] at first
  cases result with
  | error fault => exact first
  | ok value => exact refiled_trans first (behind value middle ran)

/-- A chain that looks at the store first keeps the properties if what follows does. -/
theorem refiles_get {β : Type} {next : Store → Build β}
    (behind : (next store).Refiles directory file store) :
    (get >>= next).Refiles directory file store := behind

/-- A loop keeps the properties if its steps do. -/
theorem refiles_each {α : Type} {step : α → Build Unit} (items : List α)
    (each : ∀ item store, (step item).Refiles directory file store) (store : Store) :
    (items.forM step).Refiles directory file store := by
  induction items generalizing store with
  | nil => exact refiles_still rfl
  | cons item rest inductionHypothesis =>
    exact refiles_bind (each item store) fun _ middle _ => inductionHypothesis middle

/-! ## Moving -/

section Moving

variable (filing : Filing directory file) {above : Path} (inside : directory above)

include filing inside

/-- Moving a module below a directory keeps the properties. -/
theorem move_module_refiles (id : Nat) (store : Store) :
    (Build.moveModule above id).Refiles directory file store := by
  refine ⟨Array.size_modify, rfl, fun filed => ⟨?_, filed.packages, ?_, ?_⟩⟩
  · intro other item found
    have here : (store.modules.modify id fun item =>
        { item with path := above.join item.path })[other]? = some item := found
    rw [Array.getElem?_modify] at here
    split at here
    · obtain ⟨old, there, rfl⟩ := Option.map_eq_some_iff.mp here
      exact filing.below inside (filed.modules other old there)
    · exact filed.modules other item here
  · intro other item found
    exact Nat.lt_of_lt_of_eq (filed.roots other item found) Array.size_modify.symm
  · intro other item found ref member
    exact on_file_after (filed.parts other item found ref member)
      (Nat.le_of_eq Array.size_modify.symm) (Nat.le_refl _)

/-- Moving a package's own directory below a directory keeps the properties. -/
theorem move_directory_refiles (id : Nat) (store : Store) :
    (modify fun store : Store =>
      { store with
        packages := store.packages.modify id fun item =>
          { item with path := above.join item.path } } : Build Unit).Refiles
      directory file store := by
  have parts (other : Nat) (item : Package)
      (found : (store.packages.modify id fun item =>
        { item with path := above.join item.path })[other]? = some item) :
      ∃ old, store.packages[other]? = some old ∧
        (item = old ∨ item = { old with path := above.join old.path }) := by
    rw [Array.getElem?_modify] at found
    split at found
    · obtain ⟨old, there, rfl⟩ := Option.map_eq_some_iff.mp found
      exact ⟨old, there, .inr rfl⟩
    · exact ⟨item, found, .inl rfl⟩
  refine ⟨rfl, Array.size_modify, fun filed => ⟨filed.modules, ?_, ?_, ?_⟩⟩
  · intro other item found
    obtain ⟨old, there, rfl | rfl⟩ := parts other item found
    · exact filed.packages other item there
    · exact filing.deeper inside (filed.packages other old there)
  · intro other item found
    obtain ⟨old, there, rfl | rfl⟩ := parts other item found
    · exact filed.roots other item there
    · exact filed.roots other old there
  · intro other item found ref member
    have held : ref.OnFile store := by
      obtain ⟨old, there, rfl | rfl⟩ := parts other item found
      · exact filed.parts other item there ref member
      · exact filed.parts other old there ref member
    exact on_file_after held (Nat.le_refl _) (Nat.le_of_eq Array.size_modify.symm)

/-- Moving an object with all that is attached to it keeps the properties, even where it gives up.
The induction is on the bound. -/
theorem move_refiles (fuel : Nat) (ref : Ref) (store : Store) :
    (Build.move above fuel ref).Refiles directory file store := by
  induction fuel generalizing ref store with
  | zero =>
    cases ref with
    | module id => exact move_module_refiles filing inside id store
    | _ => exact refiles_still rfl
  | succ fuel inductionHypothesis =>
    cases ref with
    | module id => exact move_module_refiles filing inside id store
    | package id =>
      refine refiles_get ?_
      cases store.packages[id]? with
      | none => exact refiles_still rfl
      | some item =>
        refine refiles_bind (move_directory_refiles filing inside id store) fun _ first _ => ?_
        refine refiles_bind (move_module_refiles filing inside item.root first) fun _ second _ => ?_
        exact refiles_bind (refiles_each item.modules inductionHypothesis second) fun _ third _ =>
          refiles_each item.packages inductionHypothesis third
    | _ => exact refiles_still rfl

end Moving

/-! ## Steps of a construction -/

/-- What a package gets attached is there. -/
theorem add_filed (filed : store.Filed directory file) {ref : Ref} (stored : ref.OnFile store)
    (sort : Build.Attachment) (id : Nat) :
    Store.Filed directory file { store with
      packages := store.packages.modify id fun item => match sort with
        | .module => { item with modules := item.modules ++ [ref] }
        | .package => { item with packages := item.packages ++ [ref] } } := by
  have parts (other : Nat) (item : Package)
      (found : (store.packages.modify id fun item => match sort with
        | .module => { item with modules := item.modules ++ [ref] }
        | .package => { item with packages := item.packages ++ [ref] })[other]? = some item) :
      ∃ old, store.packages[other]? = some old ∧ item.path = old.path ∧ item.root = old.root ∧
        ∀ part ∈ item.modules ++ item.packages, part ∈ old.modules ++ old.packages ∨ part = ref := by
    rw [Array.getElem?_modify] at found
    split at found
    · obtain ⟨old, there, rfl⟩ := Option.map_eq_some_iff.mp found
      refine ⟨old, there, by cases sort <;> rfl, by cases sort <;> rfl, fun part member => ?_⟩
      cases sort <;> simp only [List.mem_append, List.mem_singleton] at member ⊢ <;> tauto
    · exact ⟨item, found, rfl, rfl, fun part member => .inl member⟩
  refine ⟨filed.modules, ?_, ?_, ?_⟩
  · intro other item found
    obtain ⟨old, there, path, _, _⟩ := parts other item found
    rw [path]
    exact filed.packages other old there
  · intro other item found
    obtain ⟨old, there, _, root, _⟩ := parts other item found
    rw [root]
    exact filed.roots other old there
  · intro other item found part member
    have held : part.OnFile store := by
      obtain ⟨old, there, _, _, among⟩ := parts other item found
      rcases among part member with old' | rfl
      · exact filed.parts other old there part old'
      · exact stored
    exact on_file_after held (Nat.le_refl _) (Nat.le_of_eq Array.size_modify.symm)

/-- Attaching to a package keeps the properties, if what is attached is there. -/
theorem attach_refiles (filing : Filing directory file) (filed : store.Filed directory file)
    (sort : Build.Attachment) (target : Value) {child : Value}
    (stored : ∀ ref, child = .object ref → ref.OnFile store) :
    (Build.attach sort target child).Refiles directory file store := by
  unfold Build.attach
  split
  · rename_i id
    refine refiles_get ?_
    cases found : store.packages[id]? with
    | none => exact refiles_still rfl
    | some item =>
      cases child with
      | object ref =>
        refine refiles_get (refiles_bind (move_refiles filing (filed.packages id item found) _ ref
          store) fun _ middle moved => ?_)
        have kept := move_refiles filing (filed.packages id item found) (store.packages.size + 1)
          ref store
        rw [Build.Refiles, moved] at kept
        have there := on_file_after (stored ref rfl) (Nat.le_of_eq kept.modules.symm)
          (Nat.le_of_eq kept.packages.symm)
        refine refiles_bind ⟨rfl, Array.size_modify, fun _ => ?_⟩ fun _ _ _ => refiles_still rfl
        exact add_filed (kept.filed filed) there sort id
      | _ => exact refiles_still rfl
  · exact refiles_still rfl

/-- A module that is made has the second property. -/
theorem module_filed (filed : store.Filed directory file) {path : Path} (fits : file path)
    (body : Nat) (blocks : Array (List StatementRef)) :
    Store.Filed directory file { store with
      blocks := blocks, modules := store.modules.push ⟨path, body⟩ } := by
  refine ⟨?_, filed.packages, ?_, ?_⟩
  · intro id item found
    have here : (store.modules.push ⟨path, body⟩)[id]? = some item := found
    rw [Array.getElem?_push] at here
    split at here
    · cases here
      exact fits
    · exact filed.modules id item here
  · intro id item found
    have inside := filed.roots id item found
    change item.root < (store.modules.push ⟨path, body⟩).size
    rw [Array.size_push]
    omega
  · intro id item found ref member
    refine on_file_after (filed.parts id item found ref member) ?_ (Nat.le_refl _)
    change store.modules.size ≤ (store.modules.push ⟨path, body⟩).size
    rw [Array.size_push]
    omega

/-- A package that is made, with a root module that is there, has the first property. -/
theorem package_filed (filed : store.Filed directory file) {path : Path} (fits : directory path)
    {root : Nat} (rooted : root < store.modules.size) :
    Store.Filed directory file { store with
      packages := store.packages.push ⟨path, root, [], []⟩ } := by
  have parts (id : Nat) (item : Package)
      (found : (store.packages.push ⟨path, root, [], []⟩)[id]? = some item) :
      item = ⟨path, root, [], []⟩ ∨ store.packages[id]? = some item := by
    rw [Array.getElem?_push] at found
    split at found
    · cases found
      exact .inl rfl
    · exact .inr found
  refine ⟨filed.modules, ?_, ?_, ?_⟩
  · intro id item found
    rcases parts id item found with rfl | old
    · exact fits
    · exact filed.packages id item old
  · intro id item found
    rcases parts id item found with rfl | old
    · exact rooted
    · exact filed.roots id item old
  · intro id item found ref member
    rcases parts id item found with rfl | old
    · cases member
    · refine on_file_after (filed.parts id item old ref member) (Nat.le_refl _) ?_
      change store.packages.size ≤ (store.packages.push ⟨path, root, [], []⟩).size
      rw [Array.size_push]
      omega

/-- Modules and packages take statements into a body. -/
theorem body_of_filed {ref : Ref} (there : ref.OnFile store) :
    (∀ id, ref ≠ .cell id) ∧ ∃ block, (Build.bodyOf? ref).Yields store (some block) store := by
  cases ref with
  | module id => exact ⟨fun _ => Ref.noConfusion, _, rfl⟩
  | package id => exact ⟨fun _ => Ref.noConfusion, _, rfl⟩
  | _ => cases there

section Steps

variable [DecidableEq Label] {site : Site Label}

/-- The object of a label is there, if the label calls any. -/
theorem named_filed (filed : site.Filed directory file) (label : Label) :
    site.named label = .none ∨
      ∃ ref, site.named label = .object ref ∧ ref.OnFile site.store := by
  unfold Site.named
  cases called : site.refs.lookup label with
  | none => exact .inl rfl
  | some ref =>
    obtain ⟨before, after, whole, _⟩ := List.lookup_eq_some_iff.mp called
    refine .inr ⟨ref, rfl, filed.refs (label, ref) ?_⟩
    rw [whole]
    exact List.mem_append_right _ List.mem_cons_self

omit [DecidableEq Label] in
/-- A step that works on what is there keeps the properties if the building step does. -/
theorem doing_filed (filed : site.Filed directory file) {step : Build Value}
    (refiles : step.Refiles directory file site.store) : (site.doing step).Filed directory file where
  store := refiles.filed filed.store
  refs held member := on_file_after (filed.refs held member) (Nat.le_of_eq refiles.modules.symm)
    (Nat.le_of_eq refiles.packages.symm)

/-- Feeding the body of an object keeps the properties. -/
theorem feed_refiles (block : Nat) (feed : Feed) (store : Store) :
    store.Refiled directory file ((feed.act block).run.run store).2 := by
  obtain ⟨modules, packages, _⟩ := feed_frame store block feed
  exact refiled_same modules packages

/-- What is put onto the object of a label changes no path. -/
theorem push_filed (filed : site.Filed directory file) (label : Label) (value : Value) :
    (site.after (.push label value)).Filed directory file := by
  refine doing_filed filed ?_
  rcases named_filed filed label with none | ⟨ref, named, there⟩
  · rw [none]
    exact refiles_still rfl
  · obtain ⟨_, block, body⟩ := body_of_filed there
    rw [named, Build.Refiles, push_onto_run body]
    exact feed_refiles block (.one value) site.store

/-- What the object of a label is extended by changes no path. -/
theorem extend_filed (filed : site.Filed directory file) (label : Label) (values : Value) :
    (site.after (.extend label values)).Filed directory file := by
  refine doing_filed filed ?_
  rcases named_filed filed label with none | ⟨ref, named, there⟩
  · rw [none]
    exact refiles_still rfl
  · obtain ⟨notCell, block, body⟩ := body_of_filed there
    rw [named, Build.Refiles, extend_onto_run notCell body]
    exact feed_refiles block (.all values) site.store

/-- A step of a construction keeps the properties, if the paths that are read from its name have
them. What is made gets paths read from its name; feeding touches no path, and attaching only joins
paths below the package's directory, also where it fails half way. -/
theorem after_filed (filing : Filing directory file) (filed : site.Filed directory file)
    {step : Step Label} (named : step.Filed directory file) :
    (site.after step).Filed directory file := by
  cases step with
  | push label value => exact push_filed filed label value
  | extend label values => exact extend_filed filed label values
  | module label name =>
    rw [after_module]
    have made := module_filed filed.store named site.store.blocks.size (site.store.blocks.push [])
    refine ⟨made, fun held member => ?_⟩
    rcases List.mem_cons.mp member with rfl | old
    · change site.store.modules.size < (site.store.modules.push _).size
      rw [Array.size_push]
      omega
    · refine on_file_after (filed.refs held old) ?_ (Nat.le_refl _)
      change site.store.modules.size ≤ (site.store.modules.push _).size
      rw [Array.size_push]
      omega
  | package label name =>
    rw [after_package]
    have first := module_filed filed.store (filing.below named filing.root) site.store.blocks.size
      (site.store.blocks.push [])
    have rooted : site.store.modules.size <
        (site.store.modules.push ⟨(Path.ofText name).join (.ofText "__init__.py"),
          site.store.blocks.size⟩).size := by
      rw [Array.size_push]
      omega
    refine ⟨package_filed first named rooted, fun held member => ?_⟩
    rcases List.mem_cons.mp member with rfl | old
    · change site.store.packages.size < (site.store.packages.push _).size
      rw [Array.size_push]
      omega
    · refine on_file_after (filed.refs held old) (Nat.le_of_lt rooted) ?_
      change site.store.packages.size ≤ (site.store.packages.push _).size
      rw [Array.size_push]
      omega
  | attach sort parent child =>
    refine doing_filed filed (attach_refiles filing filed.store sort _ fun ref is => ?_)
    rcases named_filed filed child with none | ⟨other, named, there⟩
    · rw [none] at is
      cases is
    · rw [named] at is
      cases is
      exact there

/-- What a construction makes has the properties, if the paths that are read from its names have
them. The induction is on the steps, the last one apart. -/
theorem construct_filed (filing : Filing directory file) {steps : List (Step Label)}
    (named : ∀ step ∈ steps, step.Filed directory file) :
    (construct Store.empty steps).Filed directory file := by
  induction steps using List.reverseRecOn with
  | nil =>
    refine ⟨⟨?_, ?_, ?_, ?_⟩, fun held none => nomatch none⟩ <;> intro id item found <;> cases found
  | append_singleton steps step inductionHypothesis =>
    rw [construct_append]
    refine after_filed filing (inductionHypothesis fun other member => ?_) (named step ?_)
    · exact named other (List.mem_append_left _ member)
    · exact List.mem_concat_self

end Steps

/-! ## Files -/

/-- The modules whose files an object has are there. The induction is on the bound. -/
theorem files_of_filed (filed : store.Filed directory file) {fuel : Nat} {ref : Ref}
    (there : ref.OnFile store) {refs : List Ref} (found : store.filesOf fuel ref = .ok refs) :
    ∀ part ∈ refs, part.OnFile store := by
  induction fuel generalizing ref refs with
  | zero =>
    cases ref with
    | module id =>
      cases found
      exact fun part member => List.mem_singleton.mp member ▸ there
    | _ => cases found
  | succ fuel inductionHypothesis =>
    cases ref with
    | module id =>
      cases found
      exact fun part member => List.mem_singleton.mp member ▸ there
    | package id =>
      unfold Store.filesOf at found
      cases held : store.packages[id]? with
      | none =>
        rw [held] at found
        cases found
        exact fun part none => nomatch none
      | some item =>
        rw [held] at found
        obtain ⟨inner, listed, is⟩ := bind_ok found
        cases is
        have parts := filed.parts id item held
        intro part member
        rcases List.mem_append.mp member with own | nested
        · rcases List.mem_cons.mp own with rfl | attached
          · exact filed.roots id item held
          · exact parts part (List.mem_append_left _ attached)
        · obtain ⟨below, given, among⟩ := List.mem_flatten.mp nested
          obtain ⟨package, there, is⟩ := each_ok listed given
          exact inductionHypothesis (parts package (List.mem_append_right _ there)) is part among
    | _ => cases found

/-- The files of what a construction has made are at paths that have the second property. -/
theorem construct_files [DecidableEq Label] (filing : Filing directory file)
    {steps : List (Step Label)} (named : ∀ step ∈ steps, step.Filed directory file) {label : Label}
    {files : List OutputFile} (found : (construct Store.empty steps).files label = .ok files) :
    ∀ item ∈ files, file item.path := by
  have filed := construct_filed filing named
  obtain ⟨refs, listed, written⟩ := bind_ok found
  intro item member
  obtain ⟨part, among, made⟩ := each_ok written member
  obtain ⟨path, placed, behind⟩ := bind_ok made
  have there : part.OnFile (construct Store.empty steps).store := by
    rcases named_filed filed label with none | ⟨ref, called, held⟩
    · rw [none] at listed
      cases listed
    · rw [called] at listed
      exact files_of_filed filed.store held listed part among
  cases part with
  | module id =>
    obtain ⟨text, _, is⟩ := bind_ok behind
    cases is
    cases placed
    obtain ⟨module, stored⟩ : ∃ module, (construct Store.empty steps).store.modules[id]? =
        some module := ⟨_, Array.getElem?_eq_getElem there⟩
    rw [stored]
    exact filed.store.modules id module stored
  | _ => cases placed

end Stencil.Code
