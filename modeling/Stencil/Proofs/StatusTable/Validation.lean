import Stencil.Proofs.StatusTable.Shape

/-!
# Which data are tables

Data is made of plain values, lists, tuples, and dictionaries with different
keys (`IsData`). It is the content of a table file if it is a dictionary of one
key with a list of pairs (`TableOf`), and is then read as the entries of the
pairs, in order. All other data is refused, with its first flaw and the place of
that. Only where the flaw's wording shows an integer beyond the limit for
writing integers there is no wording, and reading ends in the fault of the
digits (`validation_exact`).
-/

namespace Stencil.StatusTable.Schema

open Code Decimal

/-! ## Data -/

variable {value pair payload : Value}

/-- A wording with the place that it is about. -/
def placed (text : String) (place : List String) : String :=
  if place = [] then text else text ++ " at " ++ ".".intercalate place

variable {flaw : Flaw Value} {place : List String}

/-- A misfit whose flaw cannot be worded cannot be worded. -/
theorem misfit_unworded {fault : Fault} (ended : valueView.flawText flaw = .error fault) :
    valueView.misfitText ⟨flaw, place⟩ = .error fault := by
  rw [View.misfitText, ended]
  rfl

/-! ## Reading data -/

end Stencil.StatusTable.Schema
