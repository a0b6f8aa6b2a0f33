import Stencil.Conversion.Tag

/-!
# Rule tables

The rules of one role, at most one for each pair. A pair keeps the place and
the form in which it was first added. Adding the same function for a pair again
replaces the rule; adding another function is refused and changes nothing.

The parameter `φ` is the type of functions; functions are compared by equality
of `φ`.
-/

namespace Stencil.Conversion

/-- A rule: the function that converts the values of a pair, and who declared it. -/
structure Rule (φ : Type) where
  pair : Pair
  function : φ
  owner : String
deriving Repr

/-- A row of a table: the pair as it was first added, and the rule for it. -/
structure Row (φ : Type) where
  key : Pair
  rule : Rule φ
deriving Repr

/-- The rules of a role. -/
structure Table (φ : Type) where
  role : String
  rows : List (Row φ)
deriving Repr

namespace Table

variable {φ : Type}

/-- A role without rules. -/
def empty (role : String) : Table φ := ⟨role, []⟩

/-- The pairs of a table, in the order in which they were first added. -/
def keys (table : Table φ) : List Pair := table.rows.map Row.key

/-- The rules of a table, in the order of its pairs. -/
def rules (table : Table φ) : List (Rule φ) := table.rows.map Row.rule

/-- How many pairs a table has. -/
def size (table : Table φ) : Nat := table.rows.length

/-- The rule for a pair among rows. -/
def find? (pair : Pair) (rows : List (Row φ)) : Option (Rule φ) :=
  (rows.find? fun row => pair.same row.key).map Row.rule

/-- The rule for a pair. -/
def get? (table : Table φ) (pair : Pair) : Except Fault (Option (Rule φ)) := do
  pair.checkKey
  return find? pair table.rows

/-- Whether a table has a rule for a pair. -/
def contains (table : Table φ) (pair : Pair) : Except Fault Bool :=
  return (← table.get? pair).isSome

/-- Put a rule into the row of its pair, or into a new last row. -/
def place (rule : Rule φ) : List (Row φ) → List (Row φ)
  | [] => [⟨rule.pair, rule⟩]
  | row :: rest =>
    if rule.pair.same row.key then { row with rule } :: rest else row :: place rule rest

/-- The fault of a second function for a pair. -/
def duplicate (table : Table φ) (pair : Pair) : Fault :=
  .duplicateRule table.role pair.input.label pair.output.label

/-- Add a rule. -/
def add [DecidableEq φ] (table : Table φ) (rule : Rule φ) : Except Fault (Table φ) := do
  match ← table.get? rule.pair with
  | some existing => if existing.function ≠ rule.function then throw (table.duplicate rule.pair)
  | none => pure ()
  return { table with rows := place rule table.rows }

/-- The rule for a pair, which has to be there. -/
def resolve (table : Table φ) (pair : Pair) : Except Fault (Rule φ) := do
  match ← table.get? pair with
  | some rule => return rule
  | none => throw (.missingRule table.role pair.input.label pair.output.label)

/-- Check that all pairs have rules; the first that has none is the fault. -/
def require (table : Table φ) : List Pair → Except Fault Unit
  | [] => .ok ()
  | pair :: rest => do
    let _ ← table.resolve pair
    table.require rest

end Table

end Stencil.Conversion
