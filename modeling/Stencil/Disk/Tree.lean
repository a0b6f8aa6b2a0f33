import Stencil.Fault
import Stencil.Code.Path

/-!
# The disk

A disk is a tree of directories and files, kept as a list of places with what
is at each of them, and a current directory. A place is the list of names that
lead to it from the root, which is always there.

A path is followed name by name from the root or from the current directory.
Every place that is left on the way has to be a directory, and a name may not
be too long; `..` leads back, at the root to the root itself. The place that a
path leads to need not hold anything.

Permissions, symbolic links and running out of space are left out: every
directory can be read and written, and a name leads to the place of that name.
Of the call stack, only one use is modelled. A program that makes a directory
first makes the one above it in a call of its own if that one is missing, so
many missing directories need many calls within calls. A disk says for how many
of them the program that works on it has room.
-/

namespace Stencil.Disk

open Code

/-- What a place holds. -/
inductive Entry where
  | file (bytes : List UInt8)
  | directory
deriving DecidableEq, Repr

/-- The names that lead to a place from the root. -/
abbrev Place := List String

/-- Directories and files, the current directory, and how many calls that make directories there
is room for, one within the other. -/
structure Disk where
  current : Place
  entries : List (Place × Entry)
  room : Nat
deriving Repr

/-- The room for calls that a program about has, of which some are under way when it writes. The
exact number depends on who calls it. -/
def usualRoom : Nat := 980

/-- A disk of one empty directory, the current one. -/
def Disk.fresh : Disk := ⟨["work"], [(["work"], .directory)], usualRoom⟩

/-- The most bytes that a name may have. -/
def nameLimit : Nat := 255

/-- The number of bytes from which on a path is too long. -/
def pathLimit : Nat := 4096

/-- The size of a text in bytes. -/
def byteCount (text : String) : Nat := (Text.encode text.toList).length

namespace Disk

/-- What a place holds. -/
def at? (disk : Disk) (place : Place) : Option Entry :=
  if place = [] then some .directory else disk.entries.lookup place

/-- Follow one name from a place. -/
def follow (disk : Disk) (place : Place) (name : String) : Except FileFault Place :=
  match disk.at? place with
  | some .directory =>
    if name = ".." then .ok place.dropLast
    else if nameLimit < byteCount name then .error .nameTooLong
    else .ok (place ++ [name])
  | some (.file _) => .error .notDirectory
  | none => .error .notFound

/-- The place that a path starts from. -/
def start (disk : Disk) (path : Path) : Place :=
  match path.root with
  | .relative => disk.current
  | _ => []

/-- The place that a path leads to. -/
def resolve (disk : Disk) (path : Path) : Except FileFault Place :=
  if pathLimit ≤ byteCount path.text then .error .nameTooLong
  else path.parts.foldlM disk.follow (disk.start path)

/-- What a path leads to, which has to be there. -/
def stat (disk : Disk) (path : Path) : Except FileFault Entry := do
  match disk.at? (← disk.resolve path) with
  | some entry => return entry
  | none => throw .notFound

end Disk

/-- A fault at a path. -/
def faultAt (path : Path) (cause : FileFault) : Fault := .file cause (Text.display path.text)

/-- Whether a path holds the character that ends paths. Such a path leads nowhere. -/
def holdsNul (path : Path) : Bool := path.parts.any fun name => name.toList.contains '\x00'

/-- Refuse a path that holds the character that ends paths. -/
def checkNul (path : Path) : Except Fault Unit :=
  if holdsNul path then .error .nulInPath else .ok ()

/-- Whether a path leads to anything. Only a name that is too long is a fault. -/
def Disk.holds (disk : Disk) (path : Path) : Except Fault Bool :=
  if holdsNul path then .ok false
  else match disk.stat path with
    | .ok _ => .ok true
    | .error .nameTooLong => .error (faultAt path .nameTooLong)
    | .error _ => .ok false

/-- Whether a path leads to a directory. -/
def Disk.isDirectory (disk : Disk) (path : Path) : Bool :=
  !holdsNul path && (disk.stat path).toOption == some .directory

/-- Whether a text, taken as a path just as it is written, leads to a file. One that ends in a slash
or a dot leads to a directory or to nothing. -/
def Disk.namesFile (disk : Disk) (text : String) : Except Fault Bool := do
  let path := Path.ofText text
  checkNul path
  let endsInName := (Path.segments text.toList).getLast?.any Path.isName
  return endsInName && (match disk.stat path with
    | .ok (.file _) => true
    | _ => false)

/-- The bytes of the file at a path. -/
def Disk.read (disk : Disk) (path : Path) : Except Fault (List UInt8) := do
  checkNul path
  match ← (disk.stat path).mapError (faultAt path) with
  | .file bytes => return bytes
  | .directory => throw (faultAt path .isDirectory)

/-- What is below the current directory, by the path from there, in the order of the paths. -/
def Disk.listing (disk : Disk) : List (String × Entry) :=
  let below := disk.entries.filterMap fun (place, entry) =>
    if disk.current.isPrefixOf place && place != disk.current then
      some ("/".intercalate (place.drop disk.current.length), entry)
    else none
  below.mergeSort fun a b => a.1 ≤ b.1

end Stencil.Disk
