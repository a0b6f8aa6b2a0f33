import Stencil.Code.Render

/-!
# Files

The files of a module or a package: a module is one file; a package has its root
module's, then those of its modules in the order they were attached, then the
files of each package attached to it. What was attached as a module has to be
one to have a path; what was attached as a package only has to have files.
-/

namespace Stencil.Code

/-- A file to be written. -/
structure OutputFile where
  path : Path
  text : String
deriving DecidableEq, Repr

namespace Store

/-- The objects whose files an object has. The bound counts the packages below each other. -/
def filesOf (store : Store) : Nat → Ref → Except Fault (List Ref)
  | _, .module id => .ok [.module id]
  | 0, .package _ => .error .tooDeep
  | fuel + 1, .package id => match store.packages[id]? with
    | none => .ok []
    | some item => do
      let inner ← item.packages.mapM (store.filesOf fuel)
      return (.module item.root :: item.modules) ++ inner.flatten
  | _, ref => .error (.noAttribute ref.kind "files")

/-- The objects whose files a value has, in order. -/
def fileRefs (store : Store) (value : Value) : Except Fault (List Ref) :=
  match value with
  | .object ref => store.filesOf (store.packages.size + 1) ref
  | value => .error (.noAttribute value.kind "files")

/-- Where an object's file goes. -/
def filePath (store : Store) (ref : Ref) : Except Fault Path :=
  match ref with
  | .module id => .ok ((store.modules[id]?.map Module.path).getD (.ofText ""))
  | ref => .error (.noAttribute ref.kind "path")

/-- An object's file. -/
def file (store : Store) (ref : Ref) : Except Fault OutputFile := do
  let path ← store.filePath ref
  let text ← match ref with
    | .module id => store.moduleText id
    | ref => throw (.noAttribute ref.kind "write_into")
  return ⟨path, text⟩

/-- The files of a value, in order. -/
def files (store : Store) (value : Value) : Except Fault (List OutputFile) := do
  (← store.fileRefs value).mapM store.file

/-- Whether a value is a file: it has a path and can be written. -/
def isFile (value : Value) : Bool :=
  match value with
  | .object (.module _) => true
  | _ => false

/-- Whether a value has files. -/
def hasFiles (value : Value) : Bool :=
  match value with
  | .object (.module _) | .object (.package _) => true
  | _ => false

end Store

end Stencil.Code
