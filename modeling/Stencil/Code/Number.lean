import Stencil.Fault
import Stencil.Decimal.Reading

/-!
# Numbers from texts

Reading a number either gives it or says why not, with the text as it is shown
in messages. Byte strings write numbers too, in ASCII only.
-/

namespace Stencil.Code

/-- How many characters of a displayed text a message about an integer shows. -/
def shownLimit : Nat := 200

/-- The integer that a text writes in a base. -/
def readInt (base : Nat) (shown : String) (digits : List Char) : Except Fault Int :=
  match Decimal.readInt base digits with
  | .ok value => .ok value
  | .error .malformed =>
    .error (.malformedInt base (String.ofList (shown.toList.take shownLimit)))
  | .error (.tooLong count) => .error (.tooManyDigitsToRead count)

/-- The integer that a text writes in a base. -/
def intOfText (base : Nat) (digits : List Char) : Except Fault Int :=
  readInt base (Text.display (String.ofList digits)) digits

/-- The characters of a byte string. A byte beyond ASCII becomes a character of no number. -/
def asciiOf (bytes : List UInt8) : List Char :=
  bytes.map fun byte => if byte.toNat < 0x80 then Char.ofNat byte.toNat else '?'

/-- The integer that a byte string writes in decimal digits. -/
def intOfBytes (bytes : List UInt8) : Except Fault Int :=
  readInt 10 (Text.displayBytes bytes) (asciiOf bytes)

/-- The double that a text writes. -/
def readDouble (shown : String) (digits : List Char) : Except Fault Decimal.Double :=
  match Decimal.readDouble? digits with
  | some value => .ok value
  | none => .error (.malformedDouble shown)

/-- The double that a text writes. -/
def doubleOfText (digits : List Char) : Except Fault Decimal.Double :=
  readDouble (Text.display (String.ofList digits)) digits

/-- The double that a byte string writes. -/
def doubleOfBytes (bytes : List UInt8) : Except Fault Decimal.Double :=
  readDouble (Text.displayBytes bytes) (asciiOf bytes)

end Stencil.Code
