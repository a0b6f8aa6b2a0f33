import Stencil.Disk.Tree
import Stencil.Code.Files
import Stencil.Text.Newline

/-!
# Plans

A plan compares files to be written with what the disk holds at their targets:
a target that holds nothing is to be created, one whose text is the file's is
left alone, any other is to be updated. Texts are compared with line ends made
uniform in what the disk holds. A target that cannot be read, or is no text, is
an error of the plan and gets no action.
-/

namespace Stencil.Output

open Code Disk

/-- What is to be done with a target. -/
inductive Status where
  | noop
  | create
  | update
deriving DecidableEq, Repr

namespace Status

/-- A status's name. -/
def text : Status → String
  | noop => "noop"
  | create => "create"
  | update => "update"

/-- All statuses. -/
def all : List Status := [noop, create, update]

/-- The status of a name. -/
def ofText? (text : String) : Option Status := all.find? (·.text == text)

/-- Why a target has its status. -/
def detail : Status → String
  | noop => "up to date"
  | create => "new file"
  | update => "content changed"

end Status

/-- One file to be written: its target, its path below the root, what is to be done, why, and the
text. -/
structure Action where
  path : Path
  relative : Path
  status : Status
  detail : String
  payload : String
deriving DecidableEq, Repr

/-- The actions for files below a root, and the faults of targets that could not be read. -/
structure Plan where
  root : Path
  actions : List Action
  errors : List Fault
deriving DecidableEq, Repr

/-- The text that the disk holds at a path, if it holds anything. -/
def readText? (disk : Disk) (path : Path) : Except Fault (Option String) := do
  if !(← disk.holds path) then return none
  match Text.decode (← disk.read path) with
  | .ok text => return some (String.ofList (Text.universalNewlines text))
  | .error fault => throw (.encoding fault)

/-- What is to be done with a target that holds a text or nothing. -/
def statusFor (existing : Option String) (payload : String) : Status :=
  match existing with
  | none => .create
  | some text => if text = payload then .noop else .update

/-- The action for a file. -/
def actionFor (disk : Disk) (root : Path) (file : OutputFile) : Except Fault Action := do
  let path := root.join file.path
  let status := statusFor (← readText? disk path) file.text
  return ⟨path, file.path, status, status.detail, file.text⟩

namespace Plan

/-- Plan files in order. -/
def build (disk : Disk) (root : Path) : List OutputFile → Plan
  | [] => ⟨root, [], []⟩
  | file :: rest =>
    let plan := build disk root rest
    match actionFor disk root file with
    | .ok action => { plan with actions := action :: plan.actions }
    | .error fault => { plan with errors := fault :: plan.errors }

/-- Whether every target could be read. -/
def isValid (plan : Plan) : Bool := plan.errors.isEmpty

/-- How many actions have a status. -/
def count (plan : Plan) (status : Status) : Nat :=
  plan.actions.countP fun action => action.status = status

/-- The actions that change something. -/
def pending (plan : Plan) : List Action :=
  plan.actions.filter fun action => action.status ≠ .noop

/-- Counts of a plan by name: of each status, of the actions, of the errors. -/
def summary (plan : Plan) : List (String × Nat) :=
  (Status.all.map fun status => (status.text, plan.count status))
    ++ [("actions", plan.actions.length), ("errors", plan.errors.length)]

/-- The note that a plan was made. -/
def note (plan : Plan) : String :=
  let counts := plan.summary.map fun (name, count) => Text.display name ++ ": " ++ toString count
  "Planned output under " ++ plan.root.text ++ ": \x7b" ++ ", ".intercalate counts ++ "\x7d"

end Plan

end Stencil.Output
