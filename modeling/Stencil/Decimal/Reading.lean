import Stencil.Text.Digit
import Stencil.Decimal.Double

/-!
# Reading numbers

Integers and doubles as texts write them. White space around a number is
ignored (of the ASCII characters only the six usual ones, not the separators
`U+001C` to `U+001F`), digits of every script count, and single underscores may
stand between digits. Integers of the bases 2, 8 and 16 may carry their mark
(`0b`, `0o`, `0x`). A decimal integer of more than 4300 digits is refused, and
so is a text that starts with more of them and is no integer at all.
-/

namespace Stencil.Decimal

/-- The greatest number of digits of a decimal integer that is read or written. -/
def digitLimit : Nat := 4300

/-- An ASCII character as it is; beyond ASCII every digit as its ASCII form, and every blank as a
space. -/
def plain (c : Char) : Char :=
  if c.toNat < 0x80 then c
  else if Text.isBlank c then ' '
  else match Text.digitValue? c with
    | some value => Char.ofNat (48 + value)
    | none => c

/-- The ASCII characters that may stand around a number. -/
def isMargin (c : Char) : Bool := c == ' ' || (0x9 ≤ c.toNat && c.toNat ≤ 0xD)

/-- A number's text without the white space around it, in ASCII digits. -/
def plainText (cs : List Char) : List Char :=
  (((cs.map plain).dropWhile isMargin).reverse.dropWhile isMargin).reverse

/-- The value of a digit or letter in a base of at most 36. -/
def baseValue? (c : Char) : Option Nat :=
  if '0' ≤ c ∧ c ≤ '9' then some (c.toNat - 48)
  else if 'a' ≤ c ∧ c ≤ 'z' then some (c.toNat - 87)
  else if 'A' ≤ c ∧ c ≤ 'Z' then some (c.toNat - 55)
  else none

/-- The value of a digit that the base has. -/
def digitIn? (base : Nat) (c : Char) : Option Nat :=
  (baseValue? c).filter (· < base)

/-- Split off the leading digits with single underscores between them, as their values. The flag
says that a digit has to come next. -/
def spanGroups? (base : Nat) : (needed : Bool) → List Char → Option (List Nat × List Char)
  | needed, [] => if needed then none else some ([], [])
  | needed, c :: rest =>
    if c = '_' then (if needed then none else spanGroups? base true rest)
    else match digitIn? base c with
      | some value => do
        let (values, rest) ← spanGroups? base false rest
        return (value :: values, rest)
      | none => if needed then none else some ([], c :: rest)

/-- The number that digits write in a base. -/
def ofDigits (base : Nat) (digits : List Nat) : Nat :=
  digits.foldl (fun total digit => total * base + digit) 0

/-- Take a leading sign off; true stands for minus. -/
def takeSign : List Char → Bool × List Char
  | '-' :: rest => (true, rest)
  | '+' :: rest => (false, rest)
  | cs => (false, cs)

/-- The letter that marks a base. -/
def baseLetter : Nat → Option Char
  | 2 => some 'b'
  | 8 => some 'o'
  | 16 => some 'x'
  | _ => none

/-- Take the base's mark off, and an underscore after it. -/
def takeMark (base : Nat) : List Char → List Char
  | '0' :: c :: rest =>
    if (baseLetter base).any fun letter => c = letter ∨ c = letter.toUpper then
      match rest with
      | '_' :: rest => rest
      | rest => rest
    else '0' :: c :: rest
  | cs => cs

/-- Why an integer is not read. -/
inductive IntFault where
  /-- The text is no integer of the base. -/
  | malformed
  /-- The text has more digits than are read. -/
  | tooLong (digits : Nat)
deriving DecidableEq, Repr

/-- Read an integer of a base. -/
def readInt (base : Nat) (cs : List Char) : Except IntFault Int :=
  let (negative, body) := takeSign (plainText cs)
  match spanGroups? base true (takeMark base body) with
  | none => .error .malformed
  | some (digits, rest) =>
    if base = 10 ∧ digitLimit < digits.length then .error (.tooLong digits.length)
    else if rest ≠ [] then .error .malformed
    else
      let value : Int := ofDigits base digits
      .ok (if negative then -value else value)

/-- Split off the leading digits, single underscores between them allowed. -/
def spanDigits : List Char → List Nat × List Char
  | [] => ([], [])
  | c :: rest =>
    match digitIn? 10 c with
    | some value =>
      let (values, rest) := spanDigits rest
      (value :: values, rest)
    | none => ([], c :: rest)

/-- Remove underscores that stand between two digits; none if one stands elsewhere. -/
def joinGroups? : (afterDigit : Bool) → List Char → Option (List Char)
  | _, [] => some []
  | afterDigit, '_' :: c :: rest =>
    if afterDigit ∧ (digitIn? 10 c).isSome then (joinGroups? true rest).map (c :: ·) else none
  | _, ['_'] => none
  | _, c :: rest => (joinGroups? (digitIn? 10 c).isSome rest).map (c :: ·)

/-- Read what may follow the digits of a double: nothing, or an exponent. -/
def readExponent? : List Char → Option Int
  | [] => some 0
  | c :: rest =>
    if c = 'e' ∨ c = 'E' then
      let (negative, rest) := takeSign rest
      match spanDigits rest with
      | ([], _) => none
      | (digits, []) =>
        let value : Int := ofDigits 10 digits
        some (if negative then -value else value)
      | _ => none
    else none

/-- Read a double. -/
def readDouble? (cs : List Char) : Option Double := do
  let (negative, body) := takeSign (← joinGroups? false (plainText cs))
  let lower := String.ofList (body.map Char.toLower)
  if lower = "inf" ∨ lower = "infinity" then return .infinite negative
  if lower = "nan" then return .nan
  let (whole, rest) := spanDigits body
  let (fraction, rest) := match rest with
    | '.' :: rest => spanDigits rest
    | rest => ([], rest)
  if whole.isEmpty && fraction.isEmpty then none
  let exponent ← readExponent? rest
  return .ofDecimal negative (ofDigits 10 (whole ++ fraction)) (exponent - fraction.length)

end Stencil.Decimal
