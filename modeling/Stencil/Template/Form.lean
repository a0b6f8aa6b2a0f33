import Stencil.Template.Location

/-!
# Template forms

What a template says once its text is read: a list of statements whose values
may be left open. An open value is a *point*, written `$(name)`. A point in
statement position is a *splice*: one statement, or a sequence of them.
-/

namespace Stencil.Template

/-- A value in a template. -/
inductive Operand where
  | literal (text : String) (location : Location)
  | reference (name : String) (location : Location)
  | point (name : String) (location : Location)
deriving DecidableEq, Repr

/-- A statement in a template. -/
inductive Form where
  | function (name : String) (args : List String) (body : List Form) (location : Location)
  | conditional (lhs : String) (rhs : Operand) (thenBody elseBody : List Form)
      (location : Location)
  | result (value : Operand) (location : Location)
  | assign (target : String) (value : Operand) (location : Location)
  | raw (text : String) (location : Location)
  | splice (name : String) (many : Bool) (location : Location)
deriving Repr

namespace Operand

/-- The name that a value leaves open. -/
def points : Operand → List String
  | point name _ => [name]
  | _ => []

end Operand

namespace Form

/-- Where a statement starts. -/
def location : Form → Location
  | function _ _ _ location => location
  | conditional _ _ _ _ location => location
  | result _ location => location
  | assign _ _ location => location
  | raw _ location => location
  | splice _ _ location => location

mutual

/-- The names that a statement leaves open, in the order they are written, with repeats. -/
def points : Form → List String
  | function _ _ body _ => pointsOf body
  | conditional _ rhs thenBody elseBody _ => rhs.points ++ pointsOf thenBody ++ pointsOf elseBody
  | result value _ => value.points
  | assign _ value _ => value.points
  | raw _ _ => []
  | splice name _ _ => [name]

/-- The names that a list of statements leaves open, in the order they are written. -/
def pointsOf : List Form → List String
  | [] => []
  | form :: forms => form.points ++ pointsOf forms

end

end Form

/-- The names of a list at their first occurrences. -/
def distinct (names : List String) : List String :=
  names.foldl (fun seen name => if seen.contains name then seen else seen ++ [name]) []

end Stencil.Template
