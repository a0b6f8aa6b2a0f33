import Stencil.Disk.Tree

/-!
# Changing the disk

Making directories, writing, copying and removing. A step that fails keeps what
it had already done: directories made on the way to a file stay when the file
cannot be written.
-/

namespace Stencil.Disk

open Code

/-- Steps that change the disk, also when they fail. -/
abbrev OnDisk (α : Type) := ExceptT Fault (StateM Disk) α

namespace Disk

/-- Put something at a place, in the stead of what was there. -/
def put (disk : Disk) (place : Place) (entry : Entry) : Disk :=
  { disk with
    entries :=
      if disk.entries.any fun held => held.1 == place then
        disk.entries.map fun held => if held.1 == place then (place, entry) else held
      else disk.entries ++ [(place, entry)] }

/-- Remove a place and all that is below it. -/
def erase (disk : Disk) (place : Place) : Disk :=
  { disk with entries := disk.entries.filter fun held => !place.isPrefixOf held.1 }

/-- Make one directory. -/
def mkdir (disk : Disk) (path : Path) : Except FileFault Disk := do
  let place ← disk.resolve path
  match disk.at? place with
  | some _ => throw .alreadyThere
  | none => return disk.put place .directory

/-- Write a file. -/
def write (disk : Disk) (path : Path) (bytes : List UInt8) : Except FileFault Disk := do
  let place ← disk.resolve path
  match disk.at? place with
  | some .directory => throw .isDirectory
  | _ => return disk.put place (.file bytes)

/-- Remove what a path leads to. -/
def remove (disk : Disk) (path : Path) : Except FileFault Disk := do
  let place ← disk.resolve path
  match disk.at? place with
  | some _ => return disk.erase place
  | none => throw .notFound

end Disk

namespace OnDisk

/-- Do a change whose fault is one at a path. -/
def change (path : Path) (step : Disk → Except FileFault Disk) : OnDisk Unit := do
  checkNul path
  match step (← get) with
  | .ok disk => set disk
  | .error cause => throw (faultAt path cause)

/-- Make a directory unless it is there. What is in its way is a fault, the one met first. -/
def ensureOne (path : Path) : OnDisk Unit := do
  checkNul path
  match (← get).mkdir path with
  | .ok disk => set disk
  | .error .notFound => throw (faultAt path .notFound)
  | .error cause => if !(← get).isDirectory path then throw (faultAt path cause)

/-- Make a directory and all directories above it, unless they are there. A directory that is
missing above is made by a call within the call, and there is room for so many calls. When the room
is used up nothing has been made yet, and the fault is none of the file system. -/
def ensureWithin : (room : Nat) → Path → OnDisk Unit
  | 0, _ => throw .tooManyCalls
  | room + 1, path => do
    checkNul path
    match (← get).mkdir path with
    | .error .notFound =>
      ensureWithin room path.parent
      ensureOne path
    | _ => ensureOne path

/-- Make a directory and all directories above it, unless they are there. -/
def ensureDirectory (path : Path) : OnDisk Unit := do ensureWithin (← get).room path

/-- Write a file, below directories made for it. -/
def writeBytes (path : Path) (bytes : List UInt8) : OnDisk Unit := do
  ensureDirectory path.parent
  change path fun disk => disk.write path bytes

/-- Write a text as a file, below directories made for it. -/
def writeText (path : Path) (text : String) : OnDisk Unit :=
  writeBytes path (Text.encode text.toList)

/-- Copy a file. A directory as the target takes the copy in, under the file's name. -/
def copy (source target : Path) : OnDisk Unit := do
  let target :=
    if (← get).isDirectory target then
      { target with parts := target.parts ++ source.parts.getLast?.toList }
    else target
  let bytes ← (← get).read source
  change target fun disk => disk.write target bytes

/-- Remove what a path leads to, directories with all that is in them. -/
def remove (path : Path) : OnDisk Unit := change path fun disk => disk.remove path

end OnDisk

end Stencil.Disk
