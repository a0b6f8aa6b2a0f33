import Stencil.Code.Store
import Stencil.Proofs.Code.Decoding

/-!
# What generated code does

A body is run statement by statement. A `return` ends the run with its
expression, and a conditional runs the body that its condition chooses; if that
body does not return, the run goes on behind the conditional. A comparison holds
if both sides stand for the same datum, a literal for what its text says and a
variable for what is given for it.

Only what conditionals and returns do is said here. A body in which a run meets
another statement, or a condition that compares anything else, has no run.
-/

namespace Stencil.Code

/-- What the variables of a run stand for. -/
abbrev Variables := String → Option Datum

/-- The datum that a literal or a variable stands for. -/
def Value.datum? (scope : Variables) : Value → Option Datum
  | .literal inner => match inner.plain with
    | .text source => literal? source
    | _ => .none
  | .reference inner => match inner.plain with
    | .text name => scope name
    | _ => .none
  | _ => .none

/-- Whether a condition holds, if it is a comparison of literals and variables. -/
def Value.holds? (scope : Variables) : Value → Option Bool
  | .equals lhs rhs => do
    let left ← lhs.datum? scope
    let right ← rhs.datum? scope
    return decide (left = right)
  | _ => .none

/-- A run through statements ends with the expression that is returned, or behind the last
statement. -/
inductive Runs (store : Store) (scope : Variables) :
    List StatementRef → Option Value → Prop where
  | ended : Runs store scope [] none
  | result {ref : StatementRef} {expression : Value} {rest : List StatementRef}
      (stored : store.statements[ref.id]? = some (.result expression)) :
      Runs store scope (ref :: rest) (some expression)
  | returned {ref : StatementRef} {condition thenBody elseBody : Value} {truth : Bool}
      {block : Nat} {expression : Value} {rest : List StatementRef}
      (stored : store.statements[ref.id]? = some (.conditional condition thenBody elseBody))
      (decided : condition.holds? scope = some truth)
      (chosen : (if truth then thenBody else elseBody) = .object (.block block))
      (inside : Runs store scope (store.block block) (some expression)) :
      Runs store scope (ref :: rest) (some expression)
  | passed {ref : StatementRef} {condition thenBody elseBody : Value} {truth : Bool}
      {block : Nat} {rest : List StatementRef} {outcome : Option Value}
      (stored : store.statements[ref.id]? = some (.conditional condition thenBody elseBody))
      (decided : condition.holds? scope = some truth)
      (chosen : (if truth then thenBody else elseBody) = .object (.block block))
      (inside : Runs store scope (store.block block) none)
      (behind : Runs store scope rest outcome) : Runs store scope (ref :: rest) outcome

variable {store : Store} {scope : Variables}

/-- A statement that is met twice in a store is the same, and a condition is decided the same way;
so the same body is chosen. -/
theorem chosen_same {id : Nat} {condition condition' thenBody thenBody' elseBody elseBody' : Value}
    {truth truth' : Bool} {block block' : Nat}
    (stored : store.statements[id]? = some (.conditional condition thenBody elseBody))
    (stored' : store.statements[id]? = some (.conditional condition' thenBody' elseBody'))
    (decided : condition.holds? scope = some truth)
    (decided' : condition'.holds? scope = some truth')
    (chosen : (if truth then thenBody else elseBody) = .object (.block block))
    (chosen' : (if truth' then thenBody' else elseBody') = .object (.block block')) :
    block = block' := by
  rw [stored] at stored'
  cases stored'
  rw [decided] at decided'
  cases decided'
  rw [chosen] at chosen'
  cases chosen'
  rfl

/-- A body has one run at most. The induction is on the first run: the statement at the front of
the body decides by which rule the second run starts. -/
theorem runs_same {refs : List StatementRef} {outcome other : Option Value}
    (first : Runs store scope refs outcome) (second : Runs store scope refs other) :
    outcome = other := by
  induction first generalizing other with
  | ended =>
    cases second
    rfl
  | result stored =>
    cases second with
    | result stored' =>
      rw [stored] at stored'
      cases stored'
      rfl
    | returned stored' =>
      rw [stored] at stored'
      cases stored'
    | passed stored' =>
      rw [stored] at stored'
      cases stored'
  | returned stored decided chosen _ inductionHypothesis =>
    cases second with
    | result stored' =>
      rw [stored] at stored'
      cases stored'
    | returned stored' decided' chosen' inside' =>
      obtain rfl := chosen_same stored stored' decided decided' chosen chosen'
      exact inductionHypothesis inside'
    | passed stored' decided' chosen' inside' =>
      obtain rfl := chosen_same stored stored' decided decided' chosen chosen'
      cases inductionHypothesis inside'
  | passed stored decided chosen _ _ insideHypothesis behindHypothesis =>
    cases second with
    | result stored' =>
      rw [stored] at stored'
      cases stored'
    | returned stored' decided' chosen' inside' =>
      obtain rfl := chosen_same stored stored' decided decided' chosen chosen'
      cases insideHypothesis inside'
    | passed _ _ _ _ behind' => exact behindHypothesis behind'

/-- A run that there is, is the only one. -/
theorem runs_iff {refs : List StatementRef} {outcome : Option Value}
    (run : Runs store scope refs outcome) (other : Option Value) :
    Runs store scope refs other ↔ other = outcome := by
  constructor
  · exact fun second => runs_same second run
  · rintro rfl
    exact run

end Stencil.Code
