import Stencil.Output.Plan
import Stencil.Disk.Change

/-!
# Writing

The actions of a plan are carried out one after another. An action that the
file system refuses has failed, which stops none of the others. With a clock
given, a target that holds something is first copied to a backup file, whose
name is the target's with the stamp behind it that the clock shows at that
moment; if the copy fails so does the action.

A clock is all that it shows, moment after moment, and carrying out an action
takes one moment. Nothing is said about how long that is: a clock may show the
same stamp at many moments, or an earlier one later.
-/

namespace Stencil.Output

open Code Disk

/-- What became of an action. -/
inductive Outcome where
  | unchanged
  | written
  | failed (reason : String)
deriving DecidableEq, Repr

/-- What became of a plan. -/
structure Result where
  applied : Int
  failed : Int
  failures : List String
deriving DecidableEq, Repr

/-- Whether nothing failed. -/
def Result.ok (result : Result) : Bool := result.failed = 0

/-- The backup of a target at a stamp. -/
def backupPath (path : Path) (stamp : String) : Path :=
  .ofText (path.text ++ ".bak-" ++ stamp)

/-- The stamps that a clock shows at one moment after another. -/
structure Clock where
  shows : Nat → String

namespace Clock

/-- What a clock shows now. -/
def now (clock : Clock) : String := clock.shows 0

/-- A clock, a moment later. -/
def next (clock : Clock) : Clock := ⟨fun moment => clock.shows (moment + 1)⟩

/-- The clock that shows one stamp at all moments. -/
def still (stamp : String) : Clock := ⟨fun _ => stamp⟩

instance : Coe String Clock := ⟨still⟩

instance : Coe (Option String) (Option Clock) := ⟨Option.map still⟩

end Clock

namespace Action

/-- Write an action's text, after a backup if there is a stamp for one. -/
def write (backup : Option String) (action : Action) : OnDisk Unit := do
  match backup with
  | some stamp =>
    if ← (← get).holds action.path then OnDisk.copy action.path (backupPath action.path stamp)
  | none => pure ()
  OnDisk.writeText action.path action.payload

/-- Carry out an action. A fault of the file system is an outcome. -/
def perform (backup : Option String) (action : Action) : OnDisk Outcome := do
  if action.status = .noop then return .unchanged
  let attempt : OnDisk Outcome := do
    action.write backup
    return .written
  tryCatch attempt fun fault => match fault with
    | .file .. => return .failed ("write failed for " ++ action.path.text ++ ": " ++ fault.message)
    | fault => throw fault

/-- The note of an outcome. -/
def note? (action : Action) : Outcome → Option String
  | .unchanged => none
  | .written => some ("Wrote " ++ action.path.text ++ " (" ++ action.status.text ++ ")")
  | .failed _ => some ("Failed to write " ++ action.path.text)

end Action

/-- Actions carried out, with what became of each. A fault that is no outcome ends the run. -/
structure Execution where
  outcomes : List (Action × Outcome)
  fault : Option Fault
deriving DecidableEq, Repr

namespace Execution

/-- Carry out actions one after another, each at the next moment. -/
def run : (backup : Option Clock) → List Action → StateM Disk Execution
  | _, [] => return ⟨[], none⟩
  | backup, action :: rest => do
    match ← (action.perform (backup.map Clock.now)).run with
    | .ok outcome =>
      let after ← run (backup.map Clock.next) rest
      return { after with outcomes := (action, outcome) :: after.outcomes }
    | .error fault => return ⟨[], some fault⟩

/-- The reasons of the actions that failed. -/
def failures (execution : Execution) : List String :=
  execution.outcomes.filterMap fun (_, outcome) => match outcome with
    | .failed reason => some reason
    | _ => none

/-- What became of the actions, by number. -/
def result (execution : Execution) : Result :=
  let failures := execution.failures
  let written := execution.outcomes.countP fun (_, outcome) => outcome = .written
  ⟨written, failures.length, failures⟩

/-- The notes of a run. -/
def notes (execution : Execution) : List String :=
  execution.outcomes.filterMap fun (action, outcome) => action.note? outcome

end Execution

/-- Carry out a plan. -/
def Plan.execute (backup : Option Clock) (plan : Plan) : OnDisk Result := do
  let execution ← Execution.run backup plan.actions
  match execution.fault with
  | some fault => throw fault
  | none => return execution.result

/-- Plan files below a root and carry out the plan. What the plan could not read has failed, too. -/
def writeInto (backup : Option Clock) (root : Path) (files : List OutputFile) : OnDisk Result := do
  let plan := Plan.build (← get) root files
  let result ← plan.execute backup
  let unread := plan.errors.map fun fault => "cannot read existing output: " ++ fault.message
  return ⟨result.applied, result.failed + unread.length, unread ++ result.failures⟩

end Stencil.Output
