import Stencil.StatusTable.File
import Stencil.Disk.Tree

/-!
# Loading tables

A table is loaded from a file of the disk. A path that leads to nothing, a file
that cannot be read, and every fault of its content name the path.
-/

namespace Stencil.StatusTable

open Code Disk

/-- The table in the file at a path. -/
def load (disk : Disk) (path : Path) : Except Fault Table := do
  if !(← disk.holds path) then throw (.missingInput path.text)
  match disk.read path with
  | .ok bytes => File.table path bytes
  | .error fault => throw (.unreadableInput path.text fault.message)

end Stencil.StatusTable
