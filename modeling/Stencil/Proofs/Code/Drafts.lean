import Mathlib.Logic.Function.Basic
import Stencil.Proofs.Code.Construction
import Stencil.Proofs.Code.Feeding

/-!
# Drafts

A draft is what a construction writes, apart from the objects that it makes: the
statements of each label's body, and how far the iterators have come. Bodies are
told apart by labels here and not by numbers, so the drafts of two constructions
can be compared.

Serving a body touches that body and the iterator that is drawn on. So servings
of different bodies that draw on different iterators can change places, and the
draft is settled by the order in which each body is served and each iterator is
drawn on (`drafted_rearranged`).
-/

namespace Stencil.Code

variable {Label : Type}

/-- The body that a step feeds, and with what. -/
def Step.serving? : Step Label → Option (Label × Feed)
  | .push label value => some (label, .one value)
  | .extend label values => some (label, .all values)
  | _ => none

/-- What a construction feeds bodies with, in order. -/
def servings (steps : List (Step Label)) : List (Label × Feed) :=
  steps.filterMap Step.serving?

/-- The servings of a body. -/
def feeds [DecidableEq Label] (steps : List (Step Label)) (label : Label) : List (Label × Feed) :=
  (servings steps).filter (·.1 = label)

/-- The servings that draw on an iterator. -/
def draws (steps : List (Step Label)) (id : Nat) : List (Label × Feed) :=
  (servings steps).filter (·.2.walk? = some id)

/-- The statements of each label's body, and how far the iterators have come. It is made from the
steps and from what was there at the start, without the objects that the steps make. -/
@[ext]
structure Draft (Label : Type) where
  walks : Array Walk
  bodies : Label → List StatementRef

namespace Draft

/-- Nothing is in a body yet, and the iterators are where a store has them. -/
def blank (start : Store) : Draft Label := ⟨start.walks, fun _ => []⟩

/-- What a body is fed with where the iterators have come as far as in a draft. -/
def intake (start : Store) (draft : Draft Label) (feed : Feed) : List Value :=
  { start with walks := draft.walks }.intake feed

/-- A draft after a serving. -/
def serving [DecidableEq Label] (start : Store) (draft : Draft Label) (given : Label × Feed) :
    Draft Label where
  walks := match given.2.walk? with
    | some id => draft.walks.modify id (Walk.walked (draft.intake start given.2))
    | none => draft.walks
  bodies := Function.update draft.bodies given.1
    (draft.bodies given.1 ++ taken (draft.intake start given.2))

end Draft

/-- The draft after servings. -/
def drafted [DecidableEq Label] (start : Store) (all : List (Label × Feed)) : Draft Label :=
  all.foldl (Draft.serving start) (Draft.blank start)

/-- Two servings have neither the body nor an iterator in common. -/
def Apart (first second : Label × Feed) : Prop :=
  first.1 ≠ second.1 ∧ ∀ id, first.2.walk? = some id → second.2.walk? ≠ some id

variable {start : Store} {draft : Draft Label}

/-- A feed looks at no iterator but its own. -/
theorem intake_walks {walks : Array Walk} {feed : Feed}
    (same : ∀ id, feed.walk? = some id → walks[id]? = draft.walks[id]?) :
    { start with walks := walks }.intake feed = draft.intake start feed := by
  cases feed with
  | one value => rfl
  | all values =>
    cases supplied : Build.supply values with
    | error fault => simp only [Draft.intake, Store.intake, supplied]
    | ok supply =>
      cases supply with
      | walk id =>
        have come := same id (by simp [Feed.walk?, supplied])
        simp only [Draft.intake, Store.intake, supplied, come]
        cases draft.walks[id]?.getD (.rest []) <;> rfl
      | items items => simp only [Draft.intake, Store.intake, supplied]
      | cell id =>
        simp only [Draft.intake, Store.intake, supplied]
        rfl
      | block id =>
        simp only [Draft.intake, Store.intake, supplied]
        rfl

variable [DecidableEq Label] {first second : Label × Feed}

/-- The iterator that a serving draws on comes as far as its items are taken; others stay. -/
theorem serving_walks (id : Nat) :
    (draft.serving start first).walks[id]? =
      if first.2.walk? = some id then
        draft.walks[id]?.map (Walk.walked (draft.intake start first.2))
      else draft.walks[id]? := by
  rw [Draft.serving]
  cases first.2.walk? with
  | none => simp
  | some drawn => simp [Array.getElem?_modify]

/-- A serving is fed the same when one that is apart from it has gone before. -/
theorem serving_intake (apart : Apart first second) :
    (draft.serving start first).intake start second.2 = draft.intake start second.2 := by
  refine intake_walks fun id drawn => ?_
  rw [serving_walks, if_neg fun same => apart.2 id same drawn]

/-- Servings that are apart can change places. -/
theorem serving_swapped (apart : Apart first second) :
    (draft.serving start first).serving start second =
      (draft.serving start second).serving start first := by
  have back : Apart second first :=
    ⟨apart.1.symm, fun id drawn same => apart.2 id same drawn⟩
  have sameFirst : (draft.serving start second).intake start first.2 = _ := serving_intake back
  have sameSecond : (draft.serving start first).intake start second.2 = _ := serving_intake apart
  ext1
  · apply Array.ext_getElem?
    intro id
    rw [serving_walks, serving_walks, serving_walks, serving_walks, sameFirst, sameSecond]
    by_cases drawn : second.2.walk? = some id
    · have other : first.2.walk? ≠ some id := fun same => apart.2 id same drawn
      rw [if_pos drawn, if_neg other, if_neg other, if_pos drawn]
    · rw [if_neg drawn, if_neg drawn]
  · simp only [Draft.serving]
    rw [← Draft.serving, ← Draft.serving, sameFirst, sameSecond,
      Function.update_of_ne apart.1.symm, Function.update_of_ne apart.1,
      Function.update_comm apart.1]

/-- A serving can come before others that are all apart from it. -/
theorem serving_first {others : List (Label × Feed)} (apart : ∀ other ∈ others, Apart other first)
    (draft : Draft Label) :
    (others ++ [first]).foldl (Draft.serving start) draft =
      (first :: others).foldl (Draft.serving start) draft := by
  induction others generalizing draft with
  | nil => rfl
  | cons other rest inductionHypothesis =>
    rw [List.cons_append, List.foldl_cons,
      inductionHypothesis (fun more member => apart more (.tail _ member)), List.foldl_cons,
      List.foldl_cons, List.foldl_cons, serving_swapped (apart other (by simp))]

/-- An item that is taken out of two lists at its first place leaves what they had alike alike. -/
theorem filter_removed {α : Type} {p : α → Bool} {item : α} {rest early late : List α}
    (same : (item :: rest).filter p = (early ++ item :: late).filter p)
    (first : p item = true → early.filter p = []) :
    rest.filter p = (early ++ late).filter p := by
  rw [List.filter_append] at same ⊢
  by_cases holds : p item = true
  · rw [List.filter_cons_of_pos holds, List.filter_cons_of_pos holds, first holds,
      List.nil_append, List.cons.injEq] at same
    rw [first holds, List.nil_append]
    exact same.2
  · rw [List.filter_cons_of_neg holds, List.filter_cons_of_neg holds] at same
    exact same

/-- Servings with the same order for each body and each iterator make the same draft. The induction
is on the first servings: the first serving of the second list for the same body is the same, and
it can come first there, since nothing before it shares its body or its iterator. -/
theorem drafted_rearranged {all others : List (Label × Feed)}
    (bodies : ∀ label, all.filter (·.1 = label) = others.filter (·.1 = label))
    (walks : ∀ id, all.filter (·.2.walk? = some id) = others.filter (·.2.walk? = some id))
    (draft : Draft Label) :
    all.foldl (Draft.serving start) draft = others.foldl (Draft.serving start) draft := by
  induction all generalizing others draft with
  | nil =>
    cases others with
    | nil => rfl
    | cons other rest => simpa using bodies other.1
  | cons first rest inductionHypothesis =>
    have own := (bodies first.1).symm
    rw [List.filter_cons_of_pos (by simp), List.filter_eq_cons_iff] at own
    obtain ⟨early, late, rfl, before, _, behind⟩ := own
    have apart : ∀ other ∈ early, Apart other first := by
      intro other member
      constructor
      · simpa using before other member
      · intro id drawn same
        have order := walks id
        rw [List.filter_cons_of_pos (by simpa using same), List.filter_append] at order
        have inside : other ∈ early.filter (·.2.walk? = some id) :=
          List.mem_filter.mpr ⟨member, by simpa using drawn⟩
        obtain ⟨head, tail, cut⟩ := List.exists_cons_of_ne_nil (List.ne_nil_of_mem inside)
        rw [cut, List.cons_append, List.cons.injEq] at order
        have known : head ∈ early := (List.mem_filter.mp (cut ▸ List.mem_cons_self)).1
        exact before head known (by simp [order.1])
    have moved : (early ++ first :: late).foldl (Draft.serving start) draft =
        (early ++ late).foldl (Draft.serving start) (draft.serving start first) := by
      rw [List.append_cons, List.foldl_append, serving_first apart, List.foldl_cons,
        ← List.foldl_append]
    rw [moved, List.foldl_cons]
    refine inductionHypothesis (fun label => ?_) (fun id => ?_) _
    · refine filter_removed (bodies label) fun served => ?_
      rw [List.filter_eq_nil_iff]
      intro other member same
      exact before other member (by simp_all)
    · refine filter_removed (walks id) fun drawn => ?_
      rw [List.filter_eq_nil_iff]
      intro other member same
      exact (apart other member).2 id (by simpa using same) (by simpa using drawn)

end Stencil.Code
