import Mathlib.Data.List.Sublists
import Stencil.Conversion.Order

/-!
# Merged orders

An order that is merged from lists keeps the order of each (`merge_sublist`),
has nothing that no list has (`merge_source`), and has nothing twice
(`merge_nodup`). All three are by induction on the items taken: an item that is
taken stands behind no head, so it is in none of the lists that are left.
-/

namespace Stencil.Conversion.Order

variable {α : Type} [DecidableEq α] {lists : List (List α)} {order : List α} {fuel : Nat}

/-- What taking an item does to the lists: it was the head of one, and stands in none that is
left. -/
structure Takes (item : α) (lists : List (List α)) : Prop where
  first : ∃ list ∈ lists, list.head? = some item
  gone : ∀ list ∈ lists, item ∉ dropHead item list

/-- The item that is taken is a head that stands behind no head. -/
theorem takes_of_find {item : α}
    (found : (heads lists).find? (fun item => !isBehind lists item) = some item) :
    Takes item lists where
  first := List.mem_filterMap.mp (List.mem_of_find?_eq_some found)
  gone := by
    intro list member there
    have free : isBehind lists item = false := by simpa using List.find?_some found
    have behind : item ∉ list.tail := by
      simpa using List.any_eq_false.mp free list member
    rw [dropHead] at there
    split at there
    · exact behind there
    · rename_i other
      cases list with
      | nil => cases there
      | cons head rest =>
        rcases List.mem_cons.mp there with rfl | later
        · exact other rfl
        · exact behind later

/-- An order that is merged is empty if the lists are, or it has an item that was taken, and then
what is merged from the lists without it. What is taken is the first head that stands in no tail,
and it is then dropped from every list that starts with it. -/
theorem merge_within_cases (merged : mergeWithin fuel lists = .ok order) :
    (order = [] ∧ ∀ list ∈ lists, list = []) ∨
      ∃ item rest less, order = item :: rest ∧ Takes item lists ∧
        mergeWithin less (lists.map (dropHead item)) = .ok rest ∧ less < fuel := by
  have empty (none : heads lists = []) : ∀ list ∈ lists, list = [] := by
    intro list member
    exact List.head?_eq_none_iff.mp (List.filterMap_eq_nil_iff.mp none list member)
  cases fuel with
  | zero =>
    rw [mergeWithin] at merged
    split at merged
    · rename_i none
      cases merged
      exact .inl ⟨rfl, empty none⟩
    · cases merged
  | succ fuel =>
    rw [mergeWithin] at merged
    split at merged
    · rename_i item found
      cases behind : mergeWithin fuel (lists.map (dropHead item)) with
      | error left =>
        rw [behind] at merged
        cases merged
      | ok rest =>
        rw [behind] at merged
        cases merged
        exact .inr ⟨item, rest, fuel, rfl, takes_of_find found, behind, Nat.lt_succ_self fuel⟩
    · split at merged
      · rename_i none
        cases merged
        exact .inl ⟨rfl, empty none⟩
      · cases merged

/-- A list stays in order when an item is taken in front. -/
theorem sublist_of_drop {item : α} {list rest : List α}
    (behind : (dropHead item list).Sublist rest) : list.Sublist (item :: rest) := by
  rw [dropHead] at behind
  split at behind
  · rename_i first
    obtain ⟨tail, rfl⟩ := List.head?_eq_some_iff.mp first
    exact behind.cons_cons item
  · exact behind.cons item

/-- What is left of a list was in it. -/
theorem mem_of_drop {item other : α} {list : List α} (there : other ∈ dropHead item list) :
    other ∈ list := by
  rw [dropHead] at there
  split at there
  · exact List.mem_of_mem_tail there
  · exact there

/-- What was said of a merged order by its items, taken one after another. -/
theorem merge_within_exact (merged : mergeWithin fuel lists = .ok order) :
    (∀ list ∈ lists, list.Sublist order) ∧ (∀ item ∈ order, ∃ list ∈ lists, item ∈ list) ∧
      order.Nodup := by
  induction fuel using Nat.strong_induction_on generalizing lists order with
  | _ fuel inductionHypothesis =>
    rcases merge_within_cases merged with ⟨rfl, empty⟩ | ⟨item, rest, less, rfl, takes, behind, small⟩
    · refine ⟨?_, by simp, List.nodup_nil⟩
      intro list member
      rw [empty list member]
    · obtain ⟨sublists, sources, nodup⟩ := inductionHypothesis less small behind
      refine ⟨?_, ?_, ?_⟩
      · intro list member
        exact sublist_of_drop (sublists _ (List.mem_map_of_mem member))
      · intro other inside
        rcases List.mem_cons.mp inside with rfl | later
        · obtain ⟨list, member, first⟩ := takes.first
          exact ⟨list, member, List.mem_of_head? first⟩
        · obtain ⟨left, member, there⟩ := sources other later
          obtain ⟨list, whole, rfl⟩ := List.mem_map.mp member
          exact ⟨list, whole, mem_of_drop there⟩
      · refine List.nodup_cons.mpr ⟨?_, nodup⟩
        intro again
        obtain ⟨left, member, there⟩ := sources item again
        obtain ⟨list, whole, rfl⟩ := List.mem_map.mp member
        exact takes.gone list whole there

/-- A merged order keeps the order of each list. -/
theorem merge_sublist (merged : merge lists = .ok order) : ∀ list ∈ lists, list.Sublist order :=
  (merge_within_exact merged).1

/-- A merged order has nothing that no list has. -/
theorem merge_source (merged : merge lists = .ok order) :
    ∀ item ∈ order, ∃ list ∈ lists, item ∈ list :=
  (merge_within_exact merged).2.1

/-- A merged order has nothing twice. -/
theorem merge_nodup (merged : merge lists = .ok order) : order.Nodup :=
  (merge_within_exact merged).2.2

end Stencil.Conversion.Order
