/-!
# Orders of classes

A class is searched before its bases, bases in the order in which they are
named, and every class before what it is built on itself. `merge` finds the
one order that keeps all of these orders: it takes the first head that stands
behind no other head, again and again. If every head stands behind another one
there is no such order, and the heads are the classes in conflict.
-/

namespace Stencil.Conversion.Order

variable {α : Type} [DecidableEq α]

/-- The first items of lists. -/
def heads (lists : List (List α)) : List α := lists.filterMap List.head?

/-- Whether a class stands behind the head of one of the lists. -/
def isBehind (lists : List (List α)) (item : α) : Bool :=
  lists.any fun list => list.tail.contains item

/-- A list without the given head. -/
def dropHead (item : α) (list : List α) : List α :=
  if list.head? = some item then list.tail else list

/-- The items of a list at their first occurrences. -/
def distinct : List α → List α
  | [] => []
  | item :: rest => item :: (distinct rest).filter (· ≠ item)

/-- Merge lists, taking at most `fuel` items. A failure names the heads that are left. -/
def mergeWithin : (fuel : Nat) → List (List α) → Except (List α) (List α)
  | 0, lists => if heads lists = [] then .ok [] else .error (distinct (heads lists))
  | fuel + 1, lists =>
    match (heads lists).find? (fun item => !isBehind lists item) with
    | some item => do return item :: (← mergeWithin fuel (lists.map (dropHead item)))
    | none => if heads lists = [] then .ok [] else .error (distinct (heads lists))

/-- Merge lists into one that keeps the order of each. Every item taken shortens a list. -/
def merge (lists : List (List α)) : Except (List α) (List α) :=
  mergeWithin lists.flatten.length lists

end Stencil.Conversion.Order
