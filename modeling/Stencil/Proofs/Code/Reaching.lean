import Mathlib.Data.Finset.Card
import Mathlib.Logic.Relation
import Stencil.Proofs.Code.Mentions
import Stencil.Proofs.Code.Rendering
import Stencil.Proofs.Code.Reserving
import Stencil.Proofs.Outcome

/-!
# What renderings depend on

The parts of a stored object are what it mentions, so far as that shows in it. It
reaches its parts, the parts of those, and so on. The rendering of a value depends
on the objects that the value reaches and on no others: two stores that agree on a
set of objects with all their parts render the same what mentions only these
(`render_alike`).

There may be any number of other objects. Names and outlines are found under bounds
that count the objects of a store; more of a bound changes nothing, so the bounds of
the larger store serve for both (`name_settled`, `outline_settled`).
-/

namespace Stencil.Code

namespace Store

/-- The objects that show in a stored object, or that it gives. A package shows how many modules and
packages it has, and none of them. -/
def parts (store : Store) : Ref → List Ref
  | .statement ref => (store.statements[ref.id]?.map Statement.mentions).getD []
  | .block id => (store.block id).map .statement
  | .module id => (store.modules[id]?.map fun item => [.block item.body]).getD []
  | .package _ | .template _ => []
  | .iterator _ id => Value.mentionsAll (store.left id)
  | .cell id => Value.mentionsAll (store.cell id)

/-- An object is another, or a part of it, or a part of a part and so on. The way may go through any
number of objects; only what shows in a rendering counts as a part. -/
def Reaches (store : Store) : Ref → Ref → Prop :=
  Relation.ReflTransGen fun whole part => part ∈ store.parts whole

/-- All parts of certain objects are such objects too. -/
def Whole (store : Store) (seen : Ref → Prop) : Prop :=
  ∀ ref, seen ref → ∀ part ∈ store.parts ref, seen part

/-- Two stores agree on certain objects. Iterators do not count: they have no text of their own. -/
structure Alike (seen : Ref → Prop) (store other : Store) : Prop where
  statements : ∀ ref : StatementRef, seen (.statement ref) →
    other.statements[ref.id]? = store.statements[ref.id]?
  blocks : ∀ id, seen (.block id) → other.blocks[id]? = store.blocks[id]?
  modules : ∀ id, seen (.module id) → other.modules[id]? = store.modules[id]?
  packages : ∀ id, seen (.package id) → other.packages[id]? = store.packages[id]?
  templates : ∀ id, seen (.template id) → other.templates[id]? = store.templates[id]?
  cells : ∀ id, seen (.cell id) → other.cells[id]? = store.cells[id]?

end Store

/-- An object is mentioned in a value, or it is part of what is. -/
def Value.Reaches (store : Store) (value : Value) (ref : Ref) : Prop :=
  ∃ first ∈ value.mentions, store.Reaches first ref

variable {store other : Store} {seen : Ref → Prop}

/-- What a value mentions it reaches. -/
theorem reaches_mentioned {value : Value} {ref : Ref} (mentioned : ref ∈ value.mentions) :
    value.Reaches store ref :=
  ⟨ref, mentioned, .refl⟩

/-- What a value reaches has its parts among what the value reaches. -/
theorem reached_whole (store : Store) (value : Value) : store.Whole (value.Reaches store) :=
  fun _ ⟨first, mentioned, reached⟩ _ inside => ⟨first, mentioned, reached.tail inside⟩

/-- From certain objects only such objects are reached, if these have all their parts. -/
theorem reached_inside (whole : store.Whole seen) {first ref : Ref} (inside : seen first)
    (reached : store.Reaches first ref) : seen ref := by
  induction reached with
  | refl => exact inside
  | tail _ part inductionHypothesis => exact whole _ inductionHypothesis _ part

/-- The parts of what a sound store holds are held too. -/
theorem sound_whole (sound : store.Sound) : store.Whole (Ref.Held store) := by
  have all {items : List Value} (held : ∀ item ∈ items, item.Held store) :
      ∀ part ∈ Value.mentionsAll items, part.Held store := by
    intro part mentioned
    obtain ⟨item, member, inside⟩ := mem_mentions_all.mp mentioned
    exact held item member part inside
  intro ref held part inside
  cases ref with
  | statement ref =>
    obtain ⟨statement, stored, _⟩ := held
    rw [Store.parts, stored] at inside
    exact sound.statements ref.id statement stored part inside
  | block id =>
    obtain ⟨ref, member, rfl⟩ := List.mem_map.mp inside
    exact block_held sound id ref member
  | module id =>
    have stored := Array.getElem?_eq_getElem held
    rw [Store.parts, stored] at inside
    cases List.mem_singleton.mp inside
    exact sound.modules id _ stored
  | package id => cases inside
  | template id => cases inside
  | iterator walked id => exact all (remaining_held sound (walk_held sound id)) part inside
  | cell id => exact all (cell_held sound id) part inside

/-- What is reached from a value that a sound store holds is held too. -/
theorem reached_held (sound : store.Sound) {value : Value} (held : value.Held store) {ref : Ref}
    (reached : value.Reaches store ref) : ref.Held store := by
  obtain ⟨first, mentioned, onward⟩ := reached
  exact reached_inside (sound_whole sound) (held first mentioned) onward

/-! ## Names -/

namespace Store

/-- The number of growing lists that are not among those given. -/
def unlisted (store : Store) (outer : List Nat) : Nat :=
  ((Finset.range store.cells.size).filter (· ∉ outer)).card

/-- One more list is given. -/
theorem unlisted_cons {outer : List Nat} {id : Nat} (inside : id < store.cells.size)
    (new : id ∉ outer) : store.unlisted (id :: outer) < store.unlisted outer := by
  apply Finset.card_lt_card
  rw [Finset.ssubset_iff_of_subset]
  · exact ⟨id, by simp [inside, new], by simp⟩
  · intro item member
    simp only [Finset.mem_filter, List.mem_cons, not_or] at member ⊢
    exact ⟨member.1, member.2.2⟩

/-- Names stay if the bound grows beyond the number of lists that a name can still go into. -/
theorem name_stays {bound : Nat} {outer : List Nat} (enough : store.unlisted outer < bound)
    (ref : Ref) : store.nameOf (bound + 1) outer ref = store.nameOf bound outer ref := by
  induction bound generalizing outer ref with
  | zero => omega
  | succ bound inductionHypothesis =>
    cases ref with
    | cell id =>
      simp only [nameOf]
      split
      · rfl
      · rename_i new
        refine display_same _ fun part mentioned => inductionHypothesis ?_ part
        by_cases inside : id < store.cells.size
        · have fewer := unlisted_cons inside new
          omega
        · -- A list that is not there has no items, and so no item to name.
          have empty : store.cell id = [] := by
            rw [cell, Array.getElem?_eq_none (by omega)]
            rfl
          rw [empty] at mentioned
          cases mentioned
    | _ => simp only [nameOf]

/-- A larger bound gives the same name. Each list that is entered is one less to enter, so the bound
that is one above the number of lists is never used up. -/
theorem name_settled (store : Store) (more : Nat) (ref : Ref) :
    store.nameOf (store.cells.size + 1 + more) [] ref = store.name ref := by
  induction more with
  | zero => rfl
  | succ more inductionHypothesis =>
    have few : store.unlisted [] ≤ store.cells.size := by simp [unlisted]
    have enough : store.unlisted [] < store.cells.size + 1 + more := by omega
    exact (name_stays enough ref).trans inductionHypothesis

/-- A larger bound gives the same outlines. One step more than the number of statements changes
nothing, and then no step behind it does. -/
theorem outline_settled (store : Store) (more : Nat) :
    store.outlineOf (store.statements.size + 1 + more) = store.outline := by
  have stays (more : Nat) : store.outlineOf (store.statements.size + 1 + more) =
      store.outlineOf (store.statements.size + 1 + more + 1) := by
    induction more with
    | zero => exact (outline_stable store).symm
    | succ more inductionHypothesis => exact outline_stays store inductionHypothesis
  induction more with
  | zero => rfl
  | succ more inductionHypothesis => exact (stays more).symm.trans inductionHypothesis

end Store

/-! ## Stores that agree -/

/-- The statements of a body on which stores agree are among those on which they agree. -/
theorem block_inside (whole : store.Whole seen) {id : Nat} (inside : seen (.block id)) :
    ∀ ref ∈ store.block id, seen (.statement ref) :=
  fun _ member => whole _ inside _ (List.mem_map_of_mem member)

section Alike

variable (alike : store.Alike seen other)

include alike

/-- A body is the same in both stores. -/
theorem block_alike {id : Nat} (inside : seen (.block id)) : other.block id = store.block id := by
  rw [Store.block, Store.block, alike.blocks id inside]

/-- A growing list is the same in both stores. -/
theorem cell_alike {id : Nat} (inside : seen (.cell id)) : other.cell id = store.cell id := by
  rw [Store.cell, Store.cell, alike.cells id inside]

variable (whole : store.Whole seen)

include whole

/-- The statements of a body are treated the same, if each on which the stores agree is. -/
theorem each_alike {α : Type} {first second : StatementRef → Except Fault α}
    (same : ∀ ref, seen (.statement ref) → first ref = second ref) {id : Nat}
    (inside : seen (.block id)) : (other.block id).mapM first = (store.block id).mapM second := by
  rw [block_alike alike inside]
  exact same_of_each fun ref member => same ref (block_inside whole inside ref member)

/-- The names of an object are the same. The induction is on the bound of nested lists. -/
theorem name_alike_within (bound : Nat) (outer : List Nat) {ref : Ref} (inside : seen ref) :
    other.nameOf bound outer ref = store.nameOf bound outer ref := by
  induction bound generalizing outer ref with
  | zero => cases ref <;> rfl
  | succ bound inductionHypothesis =>
    cases ref with
    | cell id =>
      simp only [Store.nameOf, cell_alike alike inside]
      split
      · rfl
      · exact display_same _ fun part mentioned =>
          inductionHypothesis (id :: outer) (whole _ inside part mentioned)
    | module id =>
      simp only [Store.nameOf, alike.modules id inside]
      cases stored : store.modules[id]? with
      | none => rfl
      | some item =>
        have body : seen (.block item.body) := whole _ inside _ (by simp [Store.parts, stored])
        simp only [block_alike alike body]
    | package id => simp only [Store.nameOf, alike.packages id inside]
    | template id => simp only [Store.nameOf, alike.templates id inside]
    | _ => rfl

/-- What outlines make of an object as an operand is the same, if the outlines are. -/
theorem source_alike {first second : StatementRef → Except Fault Outline}
    (same : ∀ ref, seen (.statement ref) → first ref = second ref) {ref : Ref}
    (inside : seen ref) : other.sourceWith first ref = store.sourceWith second ref := by
  cases ref with
  | module id =>
    simp only [Store.sourceWith, alike.modules id inside]
    cases stored : store.modules[id]? with
    | none => rfl
    | some item =>
      have body : seen (.block item.body) := whole _ inside _ (by simp [Store.parts, stored])
      simp only [each_alike alike whole same body]
  | _ => rfl

/-- What outlines make of a value as the first body of a conditional is the same, if the outlines
are. -/
theorem body_alike {first second : StatementRef → Except Fault Outline}
    (same : ∀ ref, seen (.statement ref) → first ref = second ref) {body : Value}
    (inside : ∀ ref ∈ body.mentions, seen ref) :
    other.bodyWith first body = store.bodyWith second body := by
  unfold Store.bodyWith
  split
  · exact each_alike alike whole same (List.forall_mem_singleton.mp inside)
  · rw [same _ (List.forall_mem_singleton.mp inside)]
  all_goals rfl

/-- What outlines make of a value as the second body of a conditional is the same, if the outlines
are. -/
theorem else_alike {first second : StatementRef → Except Fault Outline}
    (same : ∀ ref, seen (.statement ref) → first ref = second ref) {body : Value}
    (inside : ∀ ref ∈ body.mentions, seen ref) :
    other.elseWith first body = store.elseWith second body := by
  unfold Store.elseWith
  split
  · exact each_alike alike whole same (List.forall_mem_singleton.mp inside)
  · rfl

variable (lists : store.cells.size ≤ other.cells.size)

include lists

/-- An object is named the same. -/
theorem name_alike {ref : Ref} (inside : seen ref) : other.name ref = store.name ref := by
  obtain ⟨more, size⟩ := Nat.exists_eq_add_of_le lists
  rw [Store.name, name_alike_within alike whole _ [] inside, size, ← Store.name_settled store more,
    Nat.add_right_comm]

/-- The outlines of a statement are the same. The induction is on the bound; the cases are the
statements. -/
theorem outline_alike_within (bound : Nat) {ref : StatementRef} (inside : seen (.statement ref)) :
    other.outlineOf bound ref = store.outlineOf bound ref := by
  induction bound generalizing ref with
  | zero => rfl
  | succ bound inductionHypothesis =>
    have same (part : StatementRef) (within : seen (.statement part)) :=
      @inductionHypothesis part within
    have text (value : Value) (within : ∀ part ∈ value.mentions, seen part) :
        value.textBy ⟨other.name, other.sourceWith (other.outlineOf bound)⟩ =
          value.textBy ⟨store.name, store.sourceWith (store.outlineOf bound)⟩ :=
      text_same value fun part mentioned => ⟨name_alike alike whole lists (within part mentioned),
        source_alike alike whole same (within part mentioned)⟩
    rw [Store.outlineOf, Store.outlineOf, alike.statements ref inside]
    cases stored : store.statements[ref.id]? with
    | none => rfl
    | some statement =>
      have within : ∀ part ∈ statement.mentions, seen part := by
        have known := whole _ inside
        rwa [Store.parts, stored] at known
      cases statement with
      | assignment target value =>
        rw [Statement.mentions, List.forall_mem_append] at within
        simp only [text target within.1, text value within.2]
      | result expression => simp only [text expression within]
      | raw line => rfl
      | function name args body =>
        simp only [each_alike alike whole same (List.forall_mem_singleton.mp within)]
      | conditional condition thenBody elseBody =>
        rw [Statement.mentions, List.forall_mem_append, List.forall_mem_append] at within
        simp only [text condition within.1.1, body_alike alike whole same within.1.2,
          else_alike alike whole same within.2]

variable (statements : store.statements.size ≤ other.statements.size)

include statements

/-- A statement has the same outline. -/
theorem outline_alike {ref : StatementRef} (inside : seen (.statement ref)) :
    other.outline ref = store.outline ref := by
  obtain ⟨more, size⟩ := Nat.exists_eq_add_of_le statements
  rw [Store.outline, outline_alike_within alike whole lists _ inside, size, Nat.add_right_comm,
    Store.outline_settled]

/-- A value that mentions only what two stores agree on has the same rendering in both. The
induction is on the bound of lists inside each other. -/
theorem render_alike (depth : Int) {value : Value} (inside : ∀ ref ∈ value.mentions, seen ref) :
    other.render depth value = store.render depth value := by
  have outlines (ref : StatementRef) (within : seen (.statement ref)) :=
    outline_alike alike whole lists statements within
  have agree (ref : Ref) (within : seen ref) : Look.Agree other.look store.look ref :=
    ⟨name_alike alike whole lists within, source_alike alike whole outlines within⟩
  unfold Store.render
  induction Store.nestingLimit generalizing value with
  | zero => rfl
  | succ bound inductionHypothesis =>
    have items {all : List Value} (within : ∀ ref ∈ Value.mentionsAll all, seen ref) :
        (all.mapM fun item => (do (← other.renderOf depth bound item).parts)) =
          all.mapM fun item => (do (← store.renderOf depth bound item).parts) := by
      refine same_of_each fun item member => ?_
      rw [inductionHypothesis fun ref mentioned =>
        within ref (mem_mentions_all.mpr ⟨item, member, mentioned⟩)]
    simp only [Store.renderOf]
    split
    · rw [Store.statementLines, Store.statementLines,
        outlines _ (List.forall_mem_singleton.mp inside)]
    · rw [Store.blockLines, Store.blockLines,
        each_alike alike whole outlines (List.forall_mem_singleton.mp inside)]
    · rw [Store.moduleText, Store.moduleText,
        source_alike alike whole outlines (List.forall_mem_singleton.mp inside)]
    · rfl
    · rfl
    · rw [Store.text, Store.text, text_same _ fun ref mentioned => agree ref (inside ref mentioned)]
    · rw [items inside]
    · have own := List.forall_mem_singleton.mp inside
      rw [cell_alike alike own, items (whole _ own)]
    · rfl

end Alike

end Stencil.Code
