import Stencil.Code.Render
import Stencil.Code.Number

/-!
# Casting values

Reading a value as a value of a plain kind: as a truth value, an integer, a
double or a byte string, as the sequence of what walking through it gives, as
two parts, or as the dictionary that pairs make. Casting a one-shot iterator
uses it up.
-/

namespace Stencil.Code

/-- The integer that a value stands for: a number's integer part, or what a text writes. -/
def intOf (value : Value) : Except Fault Int :=
  match value.plain with
  | .bool flag => .ok (if flag then 1 else 0)
  | .int number => .ok number
  | .float number => match number with
    | .nan => .error .intOfNan
    | .infinite _ => .error .intOfInfinity
    | .finite negative m q => .ok (Decimal.Double.truncate negative m q).1
  | .text text => intOfText 10 text.toList
  | .bytes bytes => intOfBytes bytes
  | _ => .error (.noInt value.kind)

/-- The double that a value stands for. -/
def doubleOf (value : Value) : Except Fault Decimal.Double :=
  let ofInt (number : Int) : Except Fault Decimal.Double :=
    match Decimal.Double.ofInt number with
    | .infinite _ => .error .intTooLarge
    | double => .ok double
  match value.plain with
  | .bool flag => ofInt (if flag then 1 else 0)
  | .int number => ofInt number
  | .float number => .ok number
  | .text text => doubleOfText text.toList
  | .bytes bytes => doubleOfBytes bytes
  | _ => .error (.noDouble value.kind)

/-- Whether a value counts as true: numbers other than zero do, and whatever is not empty. -/
def Store.isTrue (store : Store) (value : Value) : Bool :=
  match value.plain with
  | .none => false
  | .bool flag => flag
  | .int number => number ≠ 0
  | .float number => match number with
    | .finite _ significand _ => significand ≠ 0
    | _ => true
  | .text text => !text.isEmpty
  | .bytes bytes => !bytes.isEmpty
  | .list items => !items.isEmpty
  | .tuple items => !items.isEmpty
  | .dict entries => !entries.isEmpty
  | .object (.block id) => !(store.block id).isEmpty
  | .object (.cell id) => !(store.cell id).isEmpty
  | _ => true

/-- Everything that walking through a value gives. -/
def itemsOf (value : Value) : Build (List Value) := do
  let store ← get
  match ← Build.supply value with
  | .items items => return items
  | .cell id => return store.cell id
  | .block id => return store.remaining (.block id 0)
  | .walk id =>
    let items := store.remaining (← Build.walkAt id)
    Build.setWalk id (.rest [])
    return items

/-- The two parts of a value. -/
def partsOf (value : Value) : Build (Value × Value) := do
  let items ← (tryCatch (itemsOf value) fun fault => match fault with
    | .notIterable kind => throw (.notUnpackable kind)
    | fault => throw fault)
  match items with
  | [first, second] => return (first, second)
  | _ :: _ :: _ => throw (.tooManyParts 2)
  | few => throw (.tooFewParts 2 few.length)

/-- The dictionary that pairs make, counted from `index` on, added to what is there. -/
def addPairs (entries : List (Value × Value)) (index : Nat) :
    List Value → Build (List (Value × Value))
  | [] => return entries
  | pair :: rest => do
    let parts ← (tryCatch (itemsOf pair) fun fault => match fault with
      | .notIterable _ => throw (.notPair index)
      | fault => throw fault)
    match parts with
    | [key, value] =>
      if let some kind := key.unhashable? then throw (.unhashable kind)
      addPairs (Value.insertEntry key value entries) (index + 1) rest
    | parts => throw (.pairLength index parts.length)

/-- The dictionary that a value stands for: itself, or what the pairs in it make. -/
def entriesOf (value : Value) : Build (List (Value × Value)) := do
  match value.plain with
  | .dict entries => return entries
  | _ => addPairs [] 0 (← itemsOf value)

/-- The sizes of things lie below this bound. -/
def sizeBound : Nat := Decimal.twoPow 63

/-- There is room for byte strings below this size. -/
def roomBound : Nat := Decimal.twoPow 32

/-- As many bytes as a count says, all of them zero. The kind is that of the count. -/
def zeroBytes (kind : String) (count : Int) : Except Fault (List UInt8) :=
  if (sizeBound : Int) ≤ count ∨ count < -(sizeBound : Int) then .error (.sizeTooLarge kind)
  else if count < 0 then .error .negativeCount
  else if (roomBound : Int) ≤ count then .error .noRoom
  else .ok (List.replicate count.toNat 0)

/-- The integer that a value is. -/
def integerOf (value : Value) : Except Fault Int :=
  match value.plain with
  | .bool flag => .ok (if flag then 1 else 0)
  | .int number => .ok number
  | _ => .error (.noInteger value.kind)

/-- The byte that a value is. -/
def byteOf (value : Value) : Except Fault UInt8 := do
  let number ← integerOf value
  if number < 0 ∨ 256 ≤ number then throw .byteOutOfRange
  return UInt8.ofNat number.toNat

/-- The byte string that a value stands for: itself, zeros by their number, or bytes one by one. -/
def bytesOf (value : Value) : Build (List UInt8) := do
  match value.plain with
  | .bytes bytes => return bytes
  | .text _ => throw .textWithoutEncoding
  | .bool flag => return ← zeroBytes value.kind (if flag then 1 else 0)
  | .int count => return ← zeroBytes value.kind count
  | _ =>
    let items ← (tryCatch (itemsOf value) fun fault => match fault with
      | .notIterable kind => throw (.noBytes kind)
      | fault => throw fault)
    return ← items.mapM fun item => byteOf item

end Stencil.Code
