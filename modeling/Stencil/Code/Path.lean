/-!
# Paths

A path is a chain of names below a root. The root is nothing (a relative path),
one slash or two: exactly two leading slashes are kept, three or more count as
one. Reading drops empty segments and `.`, and keeps `..`, which only a file
system can resolve. Joining a rooted path to another leaves the rooted path.
-/

namespace Stencil.Code

/-- What a path starts from. -/
inductive Root where
  | relative
  | single
  | double
deriving DecidableEq, Repr

/-- A path: its root and the names below it. -/
structure Path where
  root : Root
  parts : List String
deriving DecidableEq, Repr

namespace Path

/-- The segments of a text between slashes; a text of `n` slashes has `n + 1` segments. -/
def segments : List Char → List (List Char)
  | [] => [[]]
  | c :: rest =>
    if c = '/' then [] :: segments rest
    else match segments rest with
      | [] => [[c]]
      | segment :: others => (c :: segment) :: others

/-- The root that leading slashes write. -/
def rootOf : List Char → Root
  | '/' :: '/' :: '/' :: _ => .single
  | '/' :: '/' :: _ => .double
  | '/' :: _ => .single
  | _ => .relative

/-- A segment that names something. -/
def isName (segment : List Char) : Bool := segment != [] && segment != ['.']

/-- Read a path. -/
def ofText (text : String) : Path :=
  ⟨rootOf text.toList, ((segments text.toList).filter isName).map String.ofList⟩

/-- The path `inner` seen from `outer`. -/
def join (outer inner : Path) : Path :=
  match inner.root with
  | .relative => ⟨outer.root, outer.parts ++ inner.parts⟩
  | _ => inner

/-- The text of a root. -/
def Root.text : Root → String
  | .relative => ""
  | .single => "/"
  | .double => "//"

/-- Write a path. The path without names below no root is the current directory. -/
def text (path : Path) : String :=
  if path.root = .relative ∧ path.parts = [] then "."
  else Root.text path.root ++ "/".intercalate path.parts

/-- The path without its last name. -/
def parent (path : Path) : Path := { path with parts := path.parts.dropLast }

end Path

end Stencil.Code
