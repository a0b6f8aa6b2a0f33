import Stencil.Code.Cast

/-!
# Status code tables

A table lists status codes with their names, in order and with repeats. It is
read from pairs: whatever has two parts is a pair, the first part becomes an
integer and the second a text.
-/

namespace Stencil.StatusTable

open Code

/-- A status code and its name. -/
structure Entry where
  code : Int
  name : String
deriving DecidableEq, Repr

/-- A table of status codes, in order. -/
abbrev Table := List Entry

/-- The entry that a pair stands for. -/
def entryOf (pair : Value) : Build Entry := do
  let (code, name) ← partsOf pair
  let code ← intOf code
  let name ← (← get).text name
  return ⟨code, name⟩

/-- The table of a sequence of pairs. -/
def ofPairs (pairs : Value) : Build Table := do (← itemsOf pairs).mapM entryOf

end Stencil.StatusTable
