import Stencil.Report.Home
import Stencil.Output.Write

/-!
# Reports

What is reported of a plan, of its execution and of generated code: titled
panels that hold a text, code or a table. Cells may hold markup, which is
written in brackets.
-/

namespace Stencil.Report

open Code Output

/-- A column of a table. The width is free unless it is given. -/
structure Column where
  header : String
  width : Option Nat
  justify : String
  overflow : String
  style : String
deriving DecidableEq, Repr

/-- A column without settings. -/
def Column.plain : Column := ⟨"", none, "left", "ellipsis", ""⟩

/-- A table. -/
structure Table where
  columns : List Column
  rows : List (List String)
  expand : Bool
  showHeader : Bool
deriving DecidableEq, Repr

/-- What a panel holds. -/
inductive Body where
  | text (text : String)
  | source (code : String)
  | table (table : Table)
deriving DecidableEq, Repr

/-- A titled panel with a border in a style. -/
structure Panel where
  title : String
  style : String
  body : Body
deriving DecidableEq, Repr

/-- The blank rows and columns inside the border of every panel. -/
def Panel.padding : List Nat := [0, 1]

/-- The style of a status. -/
def statusStyle : Status → String
  | .create => "green"
  | .update => "cyan"
  | .noop => "dim"

/-- A text in a style. -/
def marked (style text : String) : String := "[" ++ style ++ "]" ++ text ++ "[/" ++ style ++ "]"

/-- How often a line ends in a text. -/
def lineCount (text : String) : Nat := text.toList.count '\n'

/-- The counts of the statuses that occur, in the order of their names. -/
def chips (actions : List Action) : String :=
  let counted := [Status.create, .noop, .update].filterMap fun status =>
    match actions.countP fun action => action.status = status with
    | 0 => none
    | count => some (status.text ++ "=" ++ toString count)
  if counted = [] then "none" else "  ".intercalate counted

/-- The overview of a plan. -/
def overview (home root : Path) (mode : String) (actions : List Action) : Panel :=
  let rows :=
    [["Mode", mode], ["Output", shortenPath home root.text],
      ["Files", toString actions.length], ["Statuses", chips actions]]
  ⟨"plan overview", "blue",
    .table ⟨[{ Column.plain with style := "bold" }, .plain], rows, false, false⟩⟩

/-- The columns of the table of actions. -/
def actionColumns : List Column :=
  [{ Column.plain with header := "Status", width := some 10 },
    { Column.plain with header := "File" },
    { Column.plain with header := "Lines", width := some 8, justify := "right" },
    { Column.plain with header := "Reason" }]

/-- The row of an action. -/
def actionRow (action : Action) : List String :=
  [marked (statusStyle action.status) action.status.text, action.relative.text,
    toString (lineCount action.payload), action.detail]

/-- The actions of a plan. -/
def actionsPanel (actions : List Action) : Panel :=
  if actions = [] then ⟨"files", "dim", .text "No files generated."⟩
  else
    ⟨"generated files", "cyan", .table ⟨actionColumns, actions.map actionRow, true, true⟩⟩

/-- A list of texts under a title, if there are any. -/
def bullets (home : Path) (title : String) (texts : List String) : List Panel :=
  if texts = [] then []
  else
    let lines := texts.map fun text => "- " ++ shortenText home text
    [⟨title, "red", .text ("\n".intercalate lines)⟩]

/-- The report of a plan. -/
def ofPlan (home root : Path) (mode : String) (actions : List Action) (errors : List String) :
    List Panel :=
  [overview home root mode actions, actionsPanel actions] ++ bullets home "errors" errors

/-- The counts of what was written and what failed. -/
def statistics (result : Result) : Panel :=
  let rows :=
    [[marked "bold" "written", toString result.applied],
      [marked "bold" "failed", toString result.failed]]
  ⟨"generate", if result.ok then "green" else "red",
    .table ⟨[.plain, .plain], rows, false, false⟩⟩

/-- The report of an execution. -/
def ofResult (home : Path) (result : Result) : List Panel :=
  statistics result :: bullets home "failures" result.failures

/-- The report of generated code. -/
def ofSource (path code : String) : Panel := ⟨path, "dim", .source code⟩

end Stencil.Report
