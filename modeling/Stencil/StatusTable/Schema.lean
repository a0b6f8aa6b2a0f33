import Stencil.Code.Literal
import Stencil.StatusTable.Table

/-!
# The shape of a table file

A table file binds `codes`, and nothing else, to a list of pairs. A pair is a
list of a code (an integer that is not negative; a double without fraction will
do) and a name (a text that is not empty). Truth values are no integers, and
only lists are lists.

Values of any type can be checked that are seen layer by layer. `misfit?` gives
the first fault, part by part: the kind of the whole, then the missing key, then
the keys that should not be there, then the pairs in order. `readTable` accepts
a value exactly if there is none.
-/

namespace Stencil.StatusTable.Schema

open Code

/-- What the check sees of a value: its outermost layer, with parts of type `α`. -/
inductive Layer (α : Type) where
  | record (entries : List (α × α))
  | list (items : List α)
  | int (value : Int)
  | double (value : Decimal.Double)
  | text (written : String)
  /-- Anything else. -/
  | other
deriving Repr

/-- How values of a type are seen, how messages show them, and what their texts are. -/
structure View (α : Type) where
  layer : α → Layer α
  shown : α → Except Fault String
  text : α → Except Fault String

/-- What is made of a value, if its integers are within the limit of digits. -/
def withinDigits (value : Value) (shown : String) : Except Fault String :=
  if value.isWritable then .ok shown else .error .tooManyDigitsToWrite

/-- The view of plain values. -/
def valueView : View Value where
  layer value := match value.plain with
    | .dict entries => .record entries
    | .list items => .list items
    | .int number => .int number
    | .float number => .double number
    | .text written => .text written
    | _ => .other
  shown value := withinDigits value (value.display Value.nameKind)
  text value := withinDigits value value.plainText

/-- What is wrong with a value. -/
inductive Flaw (α : Type) where
  /-- The value is of another type. -/
  | notOfType (value : α) (type : String)
  /-- The code is negative. -/
  | negative (value : α)
  /-- The name is empty. -/
  | empty (value : α)
  /-- The pair has less than two parts. -/
  | tooShort (value : α)
  /-- The pair has more than two parts. -/
  | tooLong (value : α)
  /-- The codes are missing. -/
  | noCodes
  /-- There are keys that a table file does not have. -/
  | strangers (keys : List α)
deriving Repr

/-- A flaw and the place it is at, as the keys that lead there. -/
structure Misfit (α : Type) where
  flaw : Flaw α
  place : List String
deriving Repr

variable {α : Type}

/-- A fault at the place itself. -/
def Misfit.here (flaw : Flaw α) : Misfit α := ⟨flaw, []⟩

/-- A fault seen from one level further out. -/
def Misfit.below (key : String) (misfit : Misfit α) : Misfit α :=
  { misfit with place := key :: misfit.place }

namespace View

/-- Whether a double has no fraction. -/
def isWhole (value : Decimal.Double) : Bool := value.toInt?.isSome

/-- What is wrong with a code. -/
def codeFlaw? (view : View α) (value : α) : Option (Flaw α) :=
  match view.layer value with
  | .int number => if number < 0 then some (.negative value) else none
  | .double number =>
    if !isWhole number then some (.notOfType value "integer")
    else if number.isNegative then some (.negative value) else none
  | _ => some (.notOfType value "integer")

/-- What is wrong with a name. -/
def nameFlaw? (view : View α) (value : α) : Option (Flaw α) :=
  match view.layer value with
  | .text name => if name.isEmpty then some (.empty value) else none
  | _ => some (.notOfType value "string")

/-- What is wrong with a pair, and where in the pair. -/
def pairMisfit? (view : View α) (pair : α) : Option (Misfit α) :=
  match view.layer pair with
  | .list items =>
    let part (index : Nat) (flaw? : α → Option (Flaw α)) : Option (Misfit α) :=
      (items[index]?.bind flaw?).map fun flaw => (Misfit.here flaw).below (toString index)
    let size : Option (Misfit α) :=
      if items.length < 2 then some (.here (.tooShort pair))
      else if 2 < items.length then some (.here (.tooLong pair))
      else none
    part 0 view.codeFlaw? <|> part 1 view.nameFlaw? <|> size
  | _ => some (.here (.notOfType pair "array"))

/-- What is wrong with the first faulty pair, the pairs counted from `index` on. -/
def pairsMisfit? (view : View α) (index : Nat) : List α → Option (Misfit α)
  | [] => none
  | pair :: rest => match view.pairMisfit? pair with
    | some misfit => some (misfit.below (toString index))
    | none => view.pairsMisfit? (index + 1) rest

/-- What is wrong with what should be the list of pairs. -/
def codesMisfit? (view : View α) (codes : α) : Option (Misfit α) :=
  match view.layer codes with
  | .list pairs => view.pairsMisfit? 0 pairs
  | _ => some (.here (.notOfType codes "array"))

/-- The key of the pairs. -/
def codesKey : String := "codes"

/-- Whether a value is the key of the pairs. -/
def isCodesKey (view : View α) (key : α) : Bool :=
  match view.layer key with
  | .text written => written == codesKey
  | _ => false

/-- What entries bind the key of the pairs to. -/
def codes? (view : View α) (entries : List (α × α)) : Option α :=
  (entries.find? fun entry => view.isCodesKey entry.1).map Prod.snd

/-- The keys that a table file does not have. -/
def strangers (view : View α) (entries : List (α × α)) : List α :=
  (entries.map Prod.fst).filter fun key => !view.isCodesKey key

/-- What is wrong with the content of a table file. -/
def misfit? (view : View α) (content : α) : Option (Misfit α) :=
  match view.layer content with
  | .record entries =>
    let codes := view.codes? entries
    let missing : Option (Misfit α) := if codes.isNone then some (.here .noCodes) else none
    let extra : Option (Misfit α) := match view.strangers entries with
      | [] => none
      | keys => some (.here (.strangers keys))
    missing <|> extra <|> codes.bind fun codes => (view.codesMisfit? codes).map (·.below codesKey)
  | _ => some (.here (.notOfType content "object"))

/-- Keys as they are shown, ordered by their texts. -/
def sortedKeys (view : View α) (keys : List α) : Except Fault (List String) := do
  let texts ← keys.mapM view.text
  let sorted := (texts.zip keys).mergeSort fun a b => a.1 ≤ b.1
  (sorted.map Prod.snd).mapM view.shown

/-- The wording of a flaw. -/
def flawText (view : View α) : Flaw α → Except Fault String
  | .notOfType value type => do return (← view.shown value) ++ " is not of type '" ++ type ++ "'"
  | .negative value => do return (← view.shown value) ++ " is less than the minimum of 0"
  | .empty value => do return (← view.shown value) ++ " should be non-empty"
  | .tooShort value => do return (← view.shown value) ++ " is too short"
  | .tooLong value => do return (← view.shown value) ++ " is too long"
  | .noCodes => .ok (Text.display codesKey ++ " is a required property")
  | .strangers keys => do
    return "Additional properties are not allowed (" ++ ", ".intercalate (← view.sortedKeys keys)
      ++ (if keys.length = 1 then " was" else " were") ++ " unexpected)"

/-- The wording of a flaw with its place. -/
def misfitText (view : View α) (misfit : Misfit α) : Except Fault String := do
  let text ← view.flawText misfit.flaw
  return if misfit.place = [] then text else text ++ " at " ++ ".".intercalate misfit.place

/-- The entry that a pair is. -/
def entry? (view : View α) (pair : α) : Option Entry :=
  match view.layer pair with
  | .list [code, name] => match view.layer code, view.layer name with
    | .int number, .text name => some ⟨number, name⟩
    | .double number, .text name => number.toInt?.map (⟨·, name⟩)
    | _, _ => none
  | _ => none

/-- The entries of a table file's content. -/
def entries (view : View α) (content : α) : Table :=
  match view.layer content with
  | .record entries => match (view.codes? entries).map view.layer with
    | some (.list pairs) => pairs.filterMap view.entry?
    | _ => []
  | _ => []

/-- Read a table from the content of the file at a path. -/
def readTable (view : View α) (path : Path) (content : α) : Except Fault Table :=
  match view.misfit? content with
  | some misfit => do throw (.schema path.text (← view.misfitText misfit))
  | none => .ok (view.entries content)

end View

/-- Read a table from a value. -/
def readTable (path : Path) (value : Value) : Except Fault Table := valueView.readTable path value

end Stencil.StatusTable.Schema
