import Stencil.Code.Literal
import Stencil.Code.Number
import Stencil.Text.Lower
import Stencil.Yaml.Base64
import Stencil.Yaml.Fault
import Stencil.Yaml.Tag

/-!
# Values of scalars

What the text of a scalar stands for, by the scalar's type: a plain value, or a
date or time. The form of a text may promise a value that the text does not
have; that is a fault of the type.

Scalars are keys of mappings, so the module says when two are equal; and it says
how they are shown and what their texts are. An integer of very many digits can
be read from another base, but not shown.
-/

namespace Stencil.Yaml

open Code

/-- The value of a scalar. -/
inductive Atom where
  | plain (value : Value)
  | moment (stamp : Timestamp)
deriving Repr, Inhabited

namespace Atom

/-- Equality of scalars. -/
def same : Atom → Atom → Bool
  | plain a, plain b => a.same b
  | moment a, moment b => a.same b
  | _, _ => false

/-- A scalar as it is shown inside messages. -/
def shown : Atom → Except Stencil.Fault String
  | plain (.int number) => intSource number
  | plain value => .ok (value.display Value.nameKind)
  | moment stamp => .ok stamp.shown

/-- The text of a scalar. -/
def text : Atom → Except Stencil.Fault String
  | plain (.text written) => .ok written
  | moment stamp => .ok stamp.text
  | atom => atom.shown

end Atom

namespace Scalar

/-- Remove underscores. -/
def dropUnderscores (cs : List Char) : List Char := cs.filter (· != '_')

/-- The value of digits in base sixty, the last digit counting units. -/
def sixtyInt (digits : List Int) : Int := digits.foldl (fun total digit => total * 60 + digit) 0

/-- The value of doubles as digits in base sixty, added up from the last, each power rounded. -/
def sixtyDouble (power : Nat) (total : Decimal.Double) :
    List Decimal.Double → Except Fault Decimal.Double
  | [] => .ok total
  | digit :: rest =>
    match Decimal.Double.ofInt power with
    | .infinite _ => .error (.value .intTooLarge)
    | base => sixtyDouble (power * 60) (total.add (digit.mul base)) rest

/-- A reading of a text as a fault of YAML. -/
def lift {α : Type} (result : Except Stencil.Fault α) : Except Fault α :=
  result.mapError .value

/-- The sign of a number and the text behind it. An empty text has no sign to look at. -/
def signed (cs : List Char) : Except Fault (Bool × List Char) :=
  match cs with
  | [] => .error (.value .indexPastEnd)
  | '-' :: rest => .ok (true, rest)
  | '+' :: rest => .ok (false, rest)
  | cs => .ok (false, cs)

/-- The integer that a text writes. -/
def int (text : List Char) : Except Fault Int := do
  let (negative, body) ← signed (dropUnderscores text)
  let size ← match body with
    | ['0'] => pure 0
    | '0' :: 'b' :: digits => lift (intOfText 2 digits)
    | '0' :: 'x' :: digits => lift (intOfText 16 digits)
    | '0' :: digits => lift (intOfText 8 ('0' :: digits))
    | [] => throw (.value .indexPastEnd)
    | body =>
      if body.contains ':' then
        sixtyInt <$> (Form.colonParts body).mapM fun part => lift (intOfText 10 part)
      else lift (intOfText 10 body)
  return if negative then -size else size

/-- The double that a text writes. -/
def double (text : List Char) : Except Fault Decimal.Double := do
  let (negative, body) ← signed (Text.lower (dropUnderscores text))
  let size ←
    if body = ".inf".toList then pure (Decimal.Double.infinite false)
    else if body = ".nan".toList then return .nan
    else if body.contains ':' then do
      let digits ← (Form.colonParts body).mapM fun part => lift (doubleOfText part)
      sixtyDouble 1 (.finite false 0 Decimal.Double.leastExponent) digits.reverse
    else lift (doubleOfText body)
  return if negative then size.negate else size

/-- The truth value that a word stands for. -/
def truth (text : List Char) : Except Fault Bool :=
  let word := String.ofList (Text.lower text)
  if ["yes", "true", "on"].contains word then .ok true
  else if ["no", "false", "off"].contains word then .ok false
  else .error (.value (.missingKey (Text.display word)))

/-- A character outside of ASCII as messages name it by its place. -/
def asciiFault (text : List Char) : Option String :=
  let plain := text.takeWhile (·.toNat < 0x80)
  let others := (text.drop plain.length).takeWhile (0x80 ≤ ·.toNat)
  let start := toString plain.length
  let place := match others with
    | [] => none
    | [c] =>
      let code := c.toNat
      let written :=
        if code < 0x100 then "\\x" ++ String.ofList (Text.hex 2 code)
        else if code < 0x10000 then "\\u" ++ String.ofList (Text.hex 4 code)
        else "\\U" ++ String.ofList (Text.hex 8 code)
      some ("character '" ++ written ++ "' in position " ++ start)
    | others =>
      some ("characters in position " ++ start ++ "-"
        ++ toString (plain.length + others.length - 1))
  place.map fun place => "'ascii' codec can't encode " ++ place ++ ": ordinal not in range(128)"

/-- The bytes that a text writes in base 64. -/
def binary (text : List Char) : Except Fault (List UInt8) :=
  match asciiFault text with
  | some detail => .error (.notAscii detail)
  | none => match Base64.decode text with
    | .ok bytes => .ok bytes
    | .error fault => .error (.notBase64 fault.message)

/-- How a scalar of a type is read; none for types that are not made from a text. -/
def reader? : Kind → Option (List Char → Except Fault Atom)
  | .null => some fun _ => .ok (.plain .none)
  | .bool => some fun text => (.plain ∘ .bool) <$> truth text
  | .int => some fun text => (.plain ∘ .int) <$> int text
  | .float => some fun text => (.plain ∘ .float) <$> double text
  | .binary => some fun text => (.plain ∘ .bytes) <$> binary text
  | .timestamp => some fun text => .moment <$> lift (Timestamp.read text)
  | .text => some fun text => .ok (.plain (.text (String.ofList text)))
  | _ => none

end Scalar

end Stencil.Yaml
