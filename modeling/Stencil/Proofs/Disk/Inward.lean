import Mathlib.Data.Set.Finite.Basic
import Mathlib.Data.List.Infix
import Stencil.Proofs.Disk.Following
import Stencil.Proofs.Code.Pathnames

/-!
# Paths that stay below their root

A path below no root is inward if its names, followed one after another, never
lead above where they start (`Path.Inward`). Seen from any directory an inward
path leads to a place in that directory, whatever `..` it holds, and no other
path does so from every directory (`inward_iff`). Inward paths joined to each
other are inward, however deep the nesting.
-/

namespace Stencil.Code.Path

/-- How many levels below a place a name leads, from some levels below it, unless it leads above the
place. -/
def levelBeside? (level : Nat) (name : String) : Option Nat :=
  if name = ".." then if level = 0 then none else some (level - 1) else some (level + 1)

/-- How many levels below a place names lead, from some levels below it, unless one of them leads
above the place. -/
def level? (level : Nat) (names : List String) : Option Nat := names.foldlM levelBeside? level

/-- A path below no root never leads above where it starts. It is a property of the path's names
alone, so it can be asked of names before there is a disk. -/
structure Inward (path : Path) : Prop where
  unrooted : path.root = .relative
  inside : ∃ level, level? 0 path.parts = some level

/-- A path is inward if it has a last level. -/
theorem inward_of_level {path : Path}
    (found : path.root = .relative ∧ (level? 0 path.parts).isSome = true) : path.Inward :=
  ⟨found.1, Option.isSome_iff_exists.mp found.2⟩

/-- Whether a path is inward can be computed. -/
instance (path : Path) : Decidable path.Inward :=
  decidable_of_iff (path.root = .relative ∧ (level? 0 path.parts).isSome = true)
    ⟨inward_of_level, fun inward => ⟨inward.unrooted, Option.isSome_iff_exists.mpr inward.inside⟩⟩

variable {level last : Nat} {names : List String} {name : String}

/-- Names are followed part by part. -/
theorem level_append (level : Nat) (names others : List String) :
    level? level (names ++ others) = (level? level names).bind fun middle => level? middle others :=
  List.foldlM_append

/-- Names are followed one by one. -/
theorem level_cons (level : Nat) (name : String) (rest : List String) :
    level? level (name :: rest) =
      (levelBeside? level name).bind fun middle => level? middle rest := List.foldlM_cons

/-- A name that leads to a place leads as far from further below. -/
theorem level_beside_deeper (found : levelBeside? level name = some last) (more : Nat) :
    levelBeside? (level + more) name = some (last + more) := by
  unfold levelBeside? at found ⊢
  split at found
  · rename_i up
    rw [if_pos up]
    split at found
    · cases found
    · rename_i deep
      cases found
      rw [if_neg (by omega)]
      exact congrArg some (by omega)
  · rename_i down
    cases found
    rw [if_neg down]
    exact congrArg some (by omega)

/-- Names that never lead above a place do not do so from further below. -/
theorem level_deeper (found : level? level names = some last) (more : Nat) :
    level? (level + more) names = some (last + more) := by
  induction names generalizing level with
  | nil =>
    cases found
    rfl
  | cons name rest inductionHypothesis =>
    rw [level_cons, Option.bind_eq_some_iff] at found
    obtain ⟨middle, first, behind⟩ := found
    rw [level_cons, level_beside_deeper first]
    exact inductionHypothesis behind

/-- The names before others never lead above a place if all together do not. -/
theorem level_before {others : List String} (found : level? level (names ++ others) = some last) :
    ∃ middle, level? level names = some middle := by
  rw [level_append, Option.bind_eq_some_iff] at found
  obtain ⟨middle, before, _⟩ := found
  exact ⟨middle, before⟩

/-- An inward path seen from an inward path is inward. -/
theorem inward_join {outer inner : Path} (one : outer.Inward) (other : inner.Inward) :
    (outer.join inner).Inward := by
  obtain ⟨unrooted, level, found⟩ := one
  obtain ⟨relative, further, behind⟩ := other
  have joined : outer.join inner = ⟨outer.root, outer.parts ++ inner.parts⟩ := by
    rw [join, relative]
  rw [joined]
  refine ⟨unrooted, further + level, ?_⟩
  have deeper := level_deeper behind level
  rw [Nat.zero_add] at deeper
  rw [level_append, found]
  exact deeper

end Stencil.Code.Path

namespace Stencil.Disk

open Code

/-- Names that never lead above a place lead from below it to below it. -/
theorem below_of_level {level last : Nat} {names : List String}
    (found : Path.level? level names = some last) (base : Place) {more : Place}
    (depth : more.length = level) :
    ∃ left, left.length = last ∧ names.foldl Place.beside (base ++ more) = base ++ left := by
  induction names generalizing level more with
  | nil =>
    cases found
    exact ⟨more, depth, rfl⟩
  | cons name rest inductionHypothesis =>
    rw [Path.level_cons, Option.bind_eq_some_iff] at found
    obtain ⟨middle, first, behind⟩ := found
    rw [List.foldl_cons, Place.beside]
    unfold Path.levelBeside? at first
    split at first
    · rename_i up
      rw [if_pos up]
      split at first
      · cases first
      · rename_i deep
        cases first
        have some : more ≠ [] := fun none => deep (by rw [← depth, none, List.length_nil])
        rw [List.dropLast_append_of_ne_nil some]
        exact inductionHypothesis behind (by rw [List.length_dropLast, depth])
    · rename_i down
      cases first
      rw [if_neg down, List.append_assoc]
      exact inductionHypothesis behind (by rw [List.length_append, depth, List.length_singleton])

/-- A name other than the last one of a place leads into the place only from inside of it. -/
theorem beside_apart {base place : Place} {fresh name : String} (other : name ≠ fresh)
    (outside : ¬base ++ [fresh] <+: place) : ¬base ++ [fresh] <+: place.beside name := by
  unfold Place.beside
  split
  · exact fun inside => outside (inside.trans (List.dropLast_prefix place))
  · intro inside
    rcases List.prefix_concat_iff.mp inside with whole | before
    · exact other (List.append_singleton_inj.mp whole).2.symm
    · exact outside before

/-- Names other than the last one of a place lead into the place only from inside of it. -/
theorem names_apart {base place : Place} {fresh : String} {names : List String}
    (others : fresh ∉ names) (outside : ¬base ++ [fresh] <+: place) :
    ¬base ++ [fresh] <+: names.foldl Place.beside place := by
  induction names generalizing place with
  | nil => exact outside
  | cons name rest inductionHypothesis =>
    rw [List.mem_cons, not_or] at others
    exact inductionHypothesis others.2 (beside_apart (Ne.symm others.1) outside)

/-- Names that lead above a place end outside of it, unless one of them is the place's last. The
induction is on the names. Once they have led out of the place, only its own last name leads back,
and that is not among them. -/
theorem outside_of_level {level : Nat} {names : List String}
    (lost : Path.level? level names = none) {base : Place} {fresh : String}
    (others : fresh ∉ names) {more : Place} (depth : more.length = level) :
    ¬base ++ [fresh] <+: names.foldl Place.beside (base ++ [fresh] ++ more) := by
  induction names generalizing level more with
  | nil => cases lost
  | cons name rest inductionHypothesis =>
    rw [List.mem_cons, not_or] at others
    rw [Path.level_cons] at lost
    rw [List.foldl_cons, Place.beside]
    unfold Path.levelBeside? at lost
    split at lost
    · rename_i up
      rw [if_pos up]
      split at lost
      · -- the path leaves the place here
        rename_i top
        rw [List.length_eq_zero_iff.mp (depth.trans top), List.append_nil, List.dropLast_concat]
        refine names_apart others.2 fun inside => ?_
        have longer := inside.length_le
        rw [List.length_append, List.length_singleton] at longer
        omega
      · rename_i deep
        have some : more ≠ [] := fun none => deep (by rw [← depth, none, List.length_nil])
        rw [List.dropLast_append_of_ne_nil some]
        exact inductionHypothesis lost others.2 (by rw [List.length_dropLast, depth])
    · rename_i down
      rw [if_neg down, List.append_assoc]
      exact inductionHypothesis lost others.2
        (by rw [List.length_append, depth, List.length_singleton])

/-- There is a name that none of some names is, and that can be read. -/
theorem fresh_name (names : List String) :
    ∃ fresh : String, fresh ∉ names ∧ fresh ≠ ".." ∧ Path.isName fresh.toList = true ∧
      '/' ∉ fresh.toList := by
  let long (count : Nat) : String := String.ofList (List.replicate (count + 2) 'a')
  have different : Function.Injective long := by
    intro one other same
    have lengths := congrArg List.length (String.ofList_injective same)
    rw [List.length_replicate, List.length_replicate] at lengths
    omega
  obtain ⟨_, ⟨count, rfl⟩, other⟩ :=
    (Set.infinite_range_of_injective different).exists_notMem_finite (List.finite_toSet names)
  have letters (c : Char) (member : c ∈ (long count).toList) : c = 'a' := by
    rw [String.toList_ofList] at member
    exact List.eq_of_mem_replicate member
  refine ⟨long count, other, ?_, ?_, ?_⟩
  · intro up
    exact absurd (letters '.' (by rw [up]; decide)) (by decide)
  · rw [String.toList_ofList]
    exact Path.name_of_long (by rw [List.length_replicate]; omega)
  · exact fun slash => absurd (letters '/' slash) (by decide)

/-- Paths joined below no root start where the outer one leads. -/
theorem goal_join (disk : Disk) (outer : Path) {inner : Path} (unrooted : inner.root = .relative) :
    disk.goal (outer.join inner) = inner.parts.foldl Place.beside (disk.goal outer) := by
  rw [Disk.goal, Disk.goal, Path.join, unrooted, ← List.foldl_append]
  rfl

/-- A rooted path that is joined to another leads where it does from the top. -/
theorem goal_rooted (disk : Disk) (outer : Path) {inner : Path} (rooted : inner.root ≠ .relative) :
    disk.goal (outer.join inner) = inner.parts.foldl Place.beside [] := by
  obtain ⟨root, parts⟩ := inner
  cases root with
  | relative => exact absurd rfl rooted
  | single => rfl
  | double => rfl

/-- Names that never lead above a directory lead into it. -/
theorem goal_below (disk : Disk) (root : Path) {names : List String}
    (inside : ∃ level, Path.level? 0 names = some level) :
    disk.goal root <+: names.foldl Place.beside (disk.goal root) := by
  obtain ⟨level, found⟩ := inside
  obtain ⟨more, _, goal⟩ := below_of_level found (disk.goal root) List.length_nil
  rw [List.append_nil] at goal
  rw [goal]
  exact List.prefix_append _ more

/-- The paths that lead into a directory from whichever directory they are seen are the inward ones.
For the one direction a path that is not inward is seen from a directory whose name does not occur
in it, so that it cannot lead back there (`outside_of_level`). -/
theorem inward_iff {path : Path} :
    path.Inward ↔
      ∀ (disk : Disk) (root : String),
        disk.goal (.ofText root) <+: disk.goal ((Path.ofText root).join path) := by
  constructor
  · intro inward disk root
    rw [goal_join disk _ inward.unrooted]
    exact goal_below disk _ inward.inside
  · intro within
    obtain ⟨fresh, others, down, named, plain⟩ := fresh_name path.parts
    have read : Path.ofText (Path.text ⟨.single, [fresh]⟩) = ⟨.single, [fresh]⟩ :=
      Path.of_text_text fun name member => by
        rw [List.mem_singleton.mp member]
        exact ⟨named, plain⟩
    have inside := within Disk.fresh (Path.text ⟨.single, [fresh]⟩)
    have base : Disk.fresh.goal ⟨.single, [fresh]⟩ = [fresh] := if_neg down
    rw [read, base] at inside
    by_cases relative : path.root = .relative
    · refine ⟨relative, ?_⟩
      rw [goal_join _ _ relative, base] at inside
      cases found : Path.level? 0 path.parts with
      | some level => exact ⟨level, rfl⟩
      | none => exact absurd inside (@outside_of_level 0 path.parts found [] fresh others [] rfl)
    · -- a rooted path leads there from everywhere
      rw [goal_rooted _ _ relative] at inside
      exact absurd inside (@names_apart [] [] fresh path.parts others (by simp))

end Stencil.Disk
