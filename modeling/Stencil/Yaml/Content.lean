import Stencil.Yaml.Scalar

/-!
# Contents of YAML texts

What a text says: scalars, lists, pairs, dictionaries and sets. Each part has a
number, and collections hold the numbers of their parts, so one part can stand
in several places, also inside itself. Where a collection is met inside itself
it is shown as an ellipsis between its brackets.
-/

namespace Stencil.Yaml

open Code

/-- A part of a content. -/
inductive Datum where
  | atom (atom : Atom)
  | list (items : List Nat)
  | pair (key value : Nat)
  | dict (entries : List (Nat × Nat))
  | set (items : List Nat)
deriving Repr

instance : Inhabited Datum := ⟨.list []⟩

/-- The scalar that a part is, if it is one. -/
def Datum.atom? : Datum → Option Atom
  | .atom scalar => some scalar
  | _ => none

/-- The parts of a content, and the number of the one that holds the others. -/
structure Content where
  data : Array Datum
  root : Nat
deriving Repr

namespace Content

/-- The content that is nothing. -/
def nothing : Content := ⟨#[.atom (.plain .none)], 0⟩

/-- A part by its number. -/
def datum (content : Content) (id : Nat) : Datum := content.data[id]?.getD default

/-- A part as it is shown inside the collections around it. The bound counts the collections in
each other. -/
def shownWithin (content : Content) : (fuel : Nat) → (around : List Nat) → Nat →
    Except Stencil.Fault String
  | 0, _, _ => .error .tooDeep
  | fuel + 1, around, id =>
    let inner := content.shownWithin fuel (id :: around)
    let entry (key value : Nat) : Except Stencil.Fault String := do
      return (← inner key) ++ ": " ++ (← inner value)
    let again := around.contains id
    match content.datum id with
    | .atom atom => atom.shown
    | .list items =>
      if again then .ok "[...]" else do return "[" ++ Value.commas (← items.mapM inner) ++ "]"
    | .pair key value =>
      if again then .ok "(...)"
      else do return "(" ++ Value.commas [← inner key, ← inner value] ++ ")"
    | .dict entries =>
      if again then .ok "\x7b...\x7d"
      else do
        return "\x7b" ++ Value.commas (← entries.mapM fun (key, value) => entry key value) ++ "\x7d"
    | .set [] => .ok "set()"
    | .set items => do return "\x7b" ++ Value.commas (← items.mapM inner) ++ "\x7d"

/-- A part as it is shown. A path on which no collection comes again is no longer than there are
parts. -/
def shown (content : Content) (id : Nat) : Except Stencil.Fault String :=
  content.shownWithin (content.data.size + 1) [] id

/-- The text of a part: that of a scalar, or how it is shown. -/
def text (content : Content) (id : Nat) : Except Stencil.Fault String :=
  match content.datum id with
  | .atom atom => atom.text
  | _ => content.shown id

end Content

end Stencil.Yaml
