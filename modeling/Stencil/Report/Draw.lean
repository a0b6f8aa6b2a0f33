import Stencil.Report.Panel

/-!
# Drawing panels

Panels as lines of text without colours. A panel is its title between rules and
its body; the cells of a table stand in columns as wide as their widest cell,
two blanks apart. Markup in cells is left out.
-/

namespace Stencil.Report

/-- The styles that occur as markup. -/
def markupStyles : List String := ["bold", "green", "cyan", "dim"]

/-- A cell without markup. -/
def unmarked (cell : String) : String :=
  let marks := markupStyles.flatMap fun style => ["[" ++ style ++ "]", "[/" ++ style ++ "]"]
  String.ofList (marks.foldl (fun text mark => replaceFrom mark.toList [] 0 text) cell.toList)

/-- A cell filled up with blanks, on its left or on its right. -/
def padded (column : Column) (width : Nat) (cell : String) : String :=
  let blanks := String.ofList (List.replicate (width - cell.length) ' ')
  if column.justify = "right" then blanks ++ cell else cell ++ blanks

/-- The widest of some cells. -/
def widest (cells : List String) : Nat := (cells.map String.length).foldl max 0

namespace Table

/-- The rows that are drawn. -/
def drawn (table : Table) : List (List String) :=
  let rows := table.rows.map fun row => row.map unmarked
  if table.showHeader then table.columns.map Column.header :: rows else rows

/-- Each column with its width. -/
def measured (table : Table) : List (Column × Nat) :=
  table.columns.zipIdx.map fun (column, place) =>
    (column, widest (table.drawn.filterMap fun row => row[place]?))

/-- A table's lines. -/
def lines (table : Table) : List String :=
  table.drawn.map fun row =>
    "  ".intercalate (List.zipWith (fun (column, width) cell => padded column width cell)
      table.measured row)

end Table

/-- The lines of what a panel holds. -/
def Body.lines : Body → List String
  | .text written => [written]
  | .source code => [code]
  | .table rows => rows.lines

/-- A panel's lines. -/
def Panel.lines (panel : Panel) : List String :=
  ("── " ++ panel.title ++ " ──") :: panel.body.lines

end Stencil.Report
