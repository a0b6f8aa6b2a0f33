/-!
# Runs at the front of a list

A run is what a list starts with as long as its items have a property. A list of
items with the property is the run at the front of a longer list exactly when
what is behind it *stops*: it does not start with an item of the property.
-/

namespace Stencil

variable {α : Type} (p : α → Bool)

/-- A list does not start with an item of the property. -/
def Stops (rest : List α) : Prop := ∀ item ∈ rest.head?, p item = false

/-- The empty list starts with no item. -/
@[simp] theorem stops_nil : Stops p [] := by simp [Stops]

/-- Only the first item counts. -/
@[simp] theorem stops_cons (item : α) (rest : List α) :
    Stops p (item :: rest) ↔ p item = false := by simp [Stops]

/-- What is behind a run stops. -/
theorem stops_drop (items : List α) : Stops p (items.dropWhile p) := by
  intro item first
  have outside := List.head?_dropWhile_not p items
  rw [Option.mem_def.mp first] at outside
  exact outside

/-- What is in a run has the property. -/
theorem run_inside (items : List α) : ∀ item ∈ items.takeWhile p, p item = true :=
  List.all_eq_true.mp List.all_takeWhile

variable {p}

/-- Items of the property before a list that stops are its run. -/
theorem run_of_stops (run rest : List α) (inside : ∀ item ∈ run, p item = true)
    (stops : Stops p rest) :
    (run ++ rest).takeWhile p = run ∧ (run ++ rest).dropWhile p = rest := by
  have none : rest.takeWhile p = [] ∧ rest.dropWhile p = rest := by
    cases rest with
    | nil => exact ⟨rfl, rfl⟩
    | cons item tail =>
      have outside : p item = false := (stops_cons p item tail).mp stops
      exact ⟨by simp [outside], by simp [outside]⟩
  rw [List.takeWhile_append_of_pos inside, List.dropWhile_append_of_pos inside, none.1, none.2]
  exact ⟨List.append_nil run, rfl⟩

/-- The front of what stops does so as well. -/
theorem stops_front {front rest : List α} (stops : Stops p (front ++ rest)) : Stops p front := by
  cases front with
  | nil => exact stops_nil p
  | cons item front => exact (stops_cons p _ _).mpr ((stops_cons p _ _).mp stops)

/-- Behind its run a list goes on with a list that stops. -/
theorem drop_of_stops (front : List α) {rest : List α} (stops : Stops p rest) :
    (front ++ rest).dropWhile p = front.dropWhile p ++ rest := by
  have none : rest.dropWhile p = rest := (run_of_stops [] rest (by simp) stops).2
  rw [List.dropWhile_append, none]
  split
  · rename_i empty
    rw [List.isEmpty_iff.mp empty]
    rfl
  · rfl

end Stencil
