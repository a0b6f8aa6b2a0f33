import Stencil.Disk.Change
import Stencil.Proofs.Outcome

/-!
# Where paths lead

The names of a path say which place it leads to, whatever the disk holds
(`Disk.goal`): `..` takes the last name away, any other name is put at the end.
What the disk holds only decides whether the path can be followed so far
(`resolve_goal`). A path that can be followed can still be followed when more
directories and other files are there (`resolve_kept`).

A disk is a tree when everything on it lies in a directory, also the current
directory itself (`Disk.Tree`). On a tree, a path that leads to anything other
than a directory ends in the name of what it leads to (`ends_in_name`).
-/

namespace Stencil.Disk

open Code

/-- The place that a name leads to from a place, if nothing is in the way. -/
def Place.beside (place : Place) (name : String) : Place :=
  if name = ".." then place.dropLast else place ++ [name]

namespace Disk

/-- The place that a path's names lead to, if nothing is in the way. -/
def goal (disk : Disk) (path : Path) : Place := path.parts.foldl Place.beside (disk.start path)

/-- A disk has the current directory, the directories and the room for calls of another one. -/
structure Keeps (before after : Disk) : Prop where
  current : after.current = before.current
  room : after.room = before.room
  directories : ∀ place, before.at? place = some .directory → after.at? place = some .directory

/-- Everything on a disk lies in a directory, and the current directory is one. It is kept by
everything that a run does to a disk. -/
structure Tree (disk : Disk) : Prop where
  current : disk.at? disk.current = some .directory
  above : ∀ place entry, disk.at? place = some entry → disk.at? place.dropLast = some .directory

variable {disk before after : Disk}

/-! ## What is at a place -/

/-- The root is always there. -/
@[simp] theorem at_root (disk : Disk) : disk.at? [] = some .directory := if_pos rfl

/-- Looking for a place meets the first entry or goes on behind it. -/
theorem lookup_first (key place : Place) (entry : Entry) (rest : List (Place × Entry)) :
    ((key, entry) :: rest).lookup place =
      if place = key then some entry else rest.lookup place := by
  by_cases same : place = key
  · rw [if_pos same, same]
    exact List.lookup_cons_self
  · rw [if_neg same, List.lookup_cons, beq_false_of_ne same]

/-- Putting an entry in the stead of those at a place changes what is found there, if anything is,
and nothing else. -/
theorem lookup_replaced (entries : List (Place × Entry)) (place other : Place) (entry : Entry) :
    (entries.map fun held => if held.1 == place then (place, entry) else held).lookup other =
      if other = place then (entries.lookup place).map fun _ => entry
      else entries.lookup other := by
  induction entries with
  | nil => simp
  | cons held rest inductionHypothesis =>
    obtain ⟨key, kept⟩ := held
    by_cases here : key = place
    · subst here
      rw [List.map_cons, if_pos (beq_self_eq_true key), lookup_first, lookup_first, lookup_first,
        inductionHypothesis]
      split <;> simp
    · rw [List.map_cons, if_neg (by simpa using here), lookup_first, lookup_first, lookup_first,
        inductionHypothesis, if_neg (Ne.symm here)]
      by_cases first : other = key
      · rw [if_pos first, if_neg (first ▸ here), if_pos first]
      · rw [if_neg first, if_neg first]

/-- What is put at a place is found there, and all else is as before. -/
theorem at_put (disk : Disk) {place : Place} (inside : place ≠ []) (entry : Entry)
    (other : Place) :
    (disk.put place entry).at? other = if other = place then some entry else disk.at? other := by
  by_cases root : other = []
  · rw [root, if_neg (Ne.symm inside), at_root, at_root]
  · rw [at?, at?, if_neg root, if_neg root, put]
    split
    · rename_i held
      obtain ⟨⟨key, kept⟩, member, is⟩ := List.any_eq_true.mp held
      have there : (disk.entries.lookup place).isSome = true :=
        List.lookup_isSome_iff.mpr ⟨(key, kept), member, by simpa using (beq_iff_eq.mp is).symm⟩
      obtain ⟨old, found⟩ := Option.isSome_iff_exists.mp there
      rw [lookup_replaced, found]
      rfl
    · rename_i absent
      have none : disk.entries.lookup place = none := by
        refine List.lookup_eq_none_iff.mpr fun held member => ?_
        simpa using fun same : place = held.1 =>
          absent (List.any_eq_true.mpr ⟨held, member, beq_iff_eq.mpr same.symm⟩)
      rw [List.lookup_append, lookup_first]
      by_cases same : other = place
      · rw [same, none, if_pos rfl, if_pos rfl]
        rfl
      · rw [if_neg same, if_neg same]
        exact Option.or_none

/-- What is at a place other than the root is one of the entries. -/
theorem at_entry {place : Place} {entry : Entry} (inside : place ≠ [])
    (found : disk.at? place = some entry) : (place, entry) ∈ disk.entries := by
  rw [at?, if_neg inside] at found
  obtain ⟨before, after, whole, _⟩ := List.lookup_eq_some_iff.mp found
  rw [whole]
  exact List.mem_append_right _ List.mem_cons_self

/-! ## Following a path -/

/-- A name is followed from a directory, to the place that it leads to. -/
theorem follow_ok {place next : Place} {name : String} (led : disk.follow place name = .ok next) :
    disk.at? place = some .directory ∧ next = place.beside name := by
  unfold follow at led
  split at led
  · rename_i found
    refine ⟨found, ?_⟩
    unfold Place.beside
    split at led
    · rename_i up
      cases led
      rw [if_pos up]
    · rename_i down
      split at led
      · cases led
      · cases led
        rw [if_neg down]
  · cases led
  · cases led

/-- A name that is followed is still followed when more is there. -/
theorem follow_kept (keeps : Keeps before after) {place next : Place} {name : String}
    (led : before.follow place name = .ok next) : after.follow place name = .ok next := by
  have found := (follow_ok led).1
  have still := keeps.directories place found
  unfold follow at led ⊢
  rw [found] at led
  rw [still]
  exact led

/-- Names that are followed lead to the place that they name. -/
theorem names_goal {names : List String} {place last : Place}
    (led : names.foldlM disk.follow place = .ok last) : last = names.foldl Place.beside place := by
  induction names generalizing place with
  | nil =>
    cases led
    rfl
  | cons name rest inductionHypothesis =>
    obtain ⟨next, first, behind⟩ := bind_ok led
    rw [List.foldl_cons, ← (follow_ok first).2]
    exact inductionHypothesis behind

/-- Names that are followed are still followed when more is there. -/
theorem names_kept (keeps : Keeps before after) {names : List String} {place last : Place}
    (led : names.foldlM before.follow place = .ok last) :
    names.foldlM after.follow place = .ok last := by
  induction names generalizing place with
  | nil => exact led
  | cons name rest inductionHypothesis =>
    obtain ⟨next, first, behind⟩ := bind_ok led
    rw [List.foldlM_cons, follow_kept keeps first]
    exact inductionHypothesis behind

/-- Paths start from the same place on disks with one current directory. -/
theorem start_same (same : after.current = before.current) (path : Path) :
    after.start path = before.start path := by
  rw [start, start, same]

/-- Paths name the same places on disks with one current directory. -/
theorem goal_same (same : after.current = before.current) (path : Path) :
    after.goal path = before.goal path := by
  rw [goal, goal, start_same same]

/-- A path that ends in a name leads to a place of that name. -/
theorem goal_named {path : Path} {names : List String} {name : String}
    (parts : path.parts = names ++ [name]) (down : name ≠ "..") :
    disk.goal path = names.foldl Place.beside (disk.start path) ++ [name] := by
  rw [goal, parts, List.foldl_append, List.foldl_cons, List.foldl_nil, Place.beside, if_neg down]

/-- A path that can be followed is short enough, and so are the steps of following it. -/
theorem resolve_ok {path : Path} {place : Place} (led : disk.resolve path = .ok place) :
    ¬pathLimit ≤ byteCount path.text ∧
      path.parts.foldlM disk.follow (disk.start path) = .ok place := by
  unfold resolve at led
  split at led
  · cases led
  · rename_i short
    exact ⟨short, led⟩

/-- A path that can be followed leads to the place that it names. -/
theorem resolve_goal {path : Path} {place : Place} (led : disk.resolve path = .ok place) :
    place = disk.goal path := names_goal (resolve_ok led).2

/-- A path that can be followed can still be followed when more is there. -/
theorem resolve_kept (keeps : Keeps before after) {path : Path} {place : Place}
    (led : before.resolve path = .ok place) : after.resolve path = .ok place := by
  obtain ⟨short, names⟩ := resolve_ok led
  rw [resolve, if_neg short, start_same keeps.current]
  exact names_kept keeps names

/-- A path leads to what is at the place that it names, if it can be followed. -/
theorem stat_ok_iff {path : Path} {entry : Entry} :
    disk.stat path = .ok entry ↔
      disk.resolve path = .ok (disk.goal path) ∧ disk.at? (disk.goal path) = some entry := by
  constructor
  · intro found
    obtain ⟨place, led, there⟩ := bind_ok found
    have is := resolve_goal led
    subst is
    refine ⟨led, ?_⟩
    split at there
    · rename_i held is
      cases there
      exact is
    · cases there
  · rintro ⟨led, there⟩
    rw [stat, ok_bind led, there]
    rfl

/-! ## Trees -/

/-- A disk is a tree if each of its entries lies in a directory. -/
theorem tree_of_entries (current : disk.at? disk.current = some .directory)
    (above : ∀ held ∈ disk.entries, disk.at? held.1.dropLast = some .directory) : disk.Tree := by
  refine ⟨current, fun place entry found => ?_⟩
  by_cases root : place = []
  · rw [root]
    exact at_root disk
  · exact above _ (at_entry root found)

/-- What a path leads to on a tree lies in a directory, or would if it were there. -/
theorem names_above (tree : disk.Tree) {names : List String} {place last : Place}
    (start : disk.at? place.dropLast = some .directory)
    (led : names.foldlM disk.follow place = .ok last) :
    disk.at? last.dropLast = some .directory := by
  induction names generalizing place with
  | nil =>
    cases led
    exact start
  | cons name rest inductionHypothesis =>
    obtain ⟨next, first, behind⟩ := bind_ok led
    refine inductionHypothesis ?_ behind
    obtain ⟨found, is⟩ := follow_ok first
    rw [is, Place.beside]
    split
    · exact tree.above _ _ (tree.above _ _ found)
    · rw [List.dropLast_concat]
      exact found

/-- Paths start from a directory of a tree. -/
theorem start_directory (tree : disk.Tree) (path : Path) :
    disk.at? (disk.start path) = some .directory := by
  unfold start
  split
  · exact tree.current
  · exact at_root disk

/-- What a path leads to on a tree lies in a directory, or would if it were there. -/
theorem resolve_above (tree : disk.Tree) {path : Path} {place : Place}
    (led : disk.resolve path = .ok place) : disk.at? place.dropLast = some .directory :=
  names_above tree (tree.above _ _ (start_directory tree path)) (resolve_ok led).2

/-- On a tree, a path that leads to no directory ends in a name, and what it leads to has the name
and lies in the place that the names before it lead to. -/
theorem ends_in_name (tree : disk.Tree) {path : Path} {place : Place}
    (led : disk.resolve path = .ok place) (none : disk.at? place ≠ some .directory) :
    ∃ names name, path.parts = names ++ [name] ∧ name ≠ ".." ∧
      place = names.foldl Place.beside (disk.start path) ++ [name] := by
  have names := (resolve_ok led).2
  rcases List.eq_nil_or_concat path.parts with empty | ⟨before, name, whole⟩
  · rw [empty] at names
    cases names
    exact absurd (start_directory tree path) none
  · rw [whole, List.concat_eq_append, List.foldlM_append] at names
    obtain ⟨last, first, behind⟩ := bind_ok names
    obtain ⟨next, step, done⟩ := bind_ok behind
    cases done
    obtain ⟨found, is⟩ := follow_ok step
    rw [Place.beside] at is
    by_cases up : name = ".."
    · rw [if_pos up] at is
      exact absurd (is ▸ tree.above _ _ found) none
    · rw [if_neg up] at is
      exact ⟨before, name, by rw [whole, List.concat_eq_append], up, by rw [is, names_goal first]⟩

end Disk

end Stencil.Disk
