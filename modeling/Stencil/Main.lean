import Std.Time.Format
import Stencil.CommandLine.Reach
import Stencil.Report.Draw

/-!
# The program

What the file system holds at the places that a call looks at is taken over
into a disk; the call runs on that disk; what it changed is written back.
Nothing is decided here. Symbolic links on the way to a place are followed, but
`..` leads back the way the path came.
-/

namespace Stencil.Program

open Code Disk CommandLine

/-- A place as a text. -/
def placeText (place : Place) : String := Path.text ⟨.single, place⟩

/-- What the file system holds at a place whose directory is there. -/
def entryAt? (place : Place) : IO (Option Entry) := do
  try
    return some (.file (← IO.FS.readBinFile (placeText place)).toList)
  catch
    | .noFileOrDirectory .. => return none
    | .inappropriateType .. => return some .directory
    | fault => throw fault

/-- Take over what stands at the end of a path and on the way there. -/
def takeOver (disk : Disk) (path : Path) : IO Disk := do
  if holdsNul path then return disk
  let mut disk := disk
  let mut place := disk.start path
  for name in path.parts do
    match disk.follow place name with
    | .error _ => return disk
    | .ok next =>
      place := next
      if (disk.at? next).isNone then
        match ← entryAt? next with
        | some entry => disk := disk.put next entry
        | none => return disk
  return disk

/-- A disk of the current directory. -/
def emptyDisk : IO Disk := do
  let current := (Path.ofText (← IO.currentDir).toString).parts
  let above := (List.range current.length).map fun count =>
    (current.take (count + 1), Entry.directory)
  return ⟨current, above, usualRoom⟩

/-- Write back what changed. -/
def writeBack (before after : Disk) : IO Unit := do
  for (place, entry) in after.entries do
    if before.entries.lookup place ≠ some entry then
      match entry with
      | .directory => IO.FS.createDir (placeText place)
      | .file bytes => IO.FS.writeBinFile (placeText place) ⟨bytes.toArray⟩

/-- What stands around a run. -/
def surroundings : IO Surroundings := do
  let home := (← IO.getEnv "HOME").getD ""
  let now ← Std.Time.PlainDateTime.now
  return ⟨home, now.format "uuuuMMdd-HHmmss"⟩

/-- Call the program. -/
def run (words : List String) : IO UInt32 := do
  let around ← surroundings
  let named ← (namedPaths words).foldlM takeOver (← emptyDisk)
  let disk ← (writtenPaths around words named).foldlM takeOver named
  let report := call around words disk
  for line in report.panels.flatMap Report.Panel.lines do
    IO.println line
  IO.print report.output
  for note in report.notes do
    IO.eprintln note
  IO.eprint report.complaint
  writeBack disk report.disk
  match report.code with
  | .ok code => return code.toUInt32
  | .error fault =>
    IO.eprintln fault.message
    return 1

end Stencil.Program

/-- Call the program with the words of the command line. -/
def main (words : List String) : IO UInt32 := Stencil.Program.run words
