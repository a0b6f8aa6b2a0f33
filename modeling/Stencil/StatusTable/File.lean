import Stencil.StatusTable.Schema
import Stencil.Yaml.Construction
import Stencil.Text.Newline

/-!
# Table files

A table file is a YAML text in UTF-8. Reading goes through four steps, each with
faults of its own: the bytes become a text, the text a content, the content is
checked to be a table, and the table is built. Every fault names the file,
except that of a scalar whose form promises a value that it does not have.
-/

namespace Stencil.StatusTable.File

open Code

/-- A YAML fault of the file at a path. -/
def ofYaml (path : Path) : Yaml.Fault → Fault
  | .value fault => fault
  | .nestedTooDeep => .tooDeep
  | fault => .malformedYaml path.text fault.message

/-- What a table file's bytes say. -/
def content (path : Path) (bytes : List UInt8) : Except Fault Yaml.Content :=
  match Text.decode bytes with
  | .error fault => .error (.unreadableInput path.text fault.message)
  | .ok text => (Yaml.Content.ofText (Text.universalNewlines text)).mapError (ofYaml path)

/-- The view of the parts of a content. -/
def contentView (content : Yaml.Content) : Schema.View Nat where
  layer id := match content.datum id with
    | .dict entries => .record entries
    | .list items => .list items
    | .atom (.plain (.int number)) => .int number
    | .atom (.plain (.float number)) => .double number
    | .atom (.plain (.text written)) => .text written
    | _ => .other
  shown := content.shown
  text := content.text

/-- The table that a file's bytes write. -/
def table (path : Path) (bytes : List UInt8) : Except Fault Table := do
  let content ← content path bytes
  (contentView content).readTable path content.root

end Stencil.StatusTable.File
