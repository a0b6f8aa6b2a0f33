import Stencil.Decimal.Power

/-!
# Double-precision numbers

A double is held by its meaning: a sign, a significand and a power of two, or
one of the values that are no number. All arithmetic is exact integer
arithmetic followed by one rounding, so nothing here depends on the machine.

A finite double is *canonical* if its significand has exactly 53 bits, or fewer
at the least exponent; every function here returns canonical doubles. Equality of
numbers compares values and not fields.
-/

namespace Stencil.Decimal

/-- A double-precision number: `finite s m q` is `± m · 2 ^ q`, negative if `s`. -/
inductive Double where
  | nan
  | infinite (negative : Bool)
  | finite (negative : Bool) (significand : Nat) (exponent : Int)
deriving DecidableEq, Repr

namespace Double

/-- The exponent of the least positive double. -/
def leastExponent : Int := -1074

/-- The exponent of the greatest double. -/
def greatestExponent : Int := 971

/-- A canonical finite double: 53 bits, or fewer at the least exponent. -/
def Canonical : Double → Prop
  | finite _ m q => m < twoPow 53 ∧ leastExponent ≤ q ∧ q ≤ greatestExponent ∧
      (twoPow 52 ≤ m ∨ q = leastExponent)
  | _ => True

/-- The quotient rounded to the nearest integer, a half going to the even neighbour. -/
def roundDiv (num den : Nat) : Nat :=
  let q := num / den
  let r := num % den
  if 2 * r < den then q
  else if den < 2 * r then q + 1
  else q + q % 2

/-- `2 ^ e` as the factor it puts above a fraction line. -/
def twoAbove (e : Int) : Nat := twoPow e.toNat

/-- The double nearest to `± num / den`. -/
def ofRatio (negative : Bool) (num den : Nat) : Double :=
  if num = 0 ∨ den = 0 then finite negative 0 leastExponent
  else
    let guess : Int := (Nat.log2 num : Int) - Nat.log2 den - 52
    let short := num * twoAbove (-guess) < twoPow 52 * (den * twoAbove guess)
    let q := max leastExponent (if short then guess - 1 else guess)
    let m := roundDiv (num * twoAbove (-q)) (den * twoAbove q)
    let (m, q) := if m = twoPow 53 then (twoPow 52, q + 1) else (m, q)
    if greatestExponent < q then infinite negative else finite negative m q

/-- The double nearest to `± digits · 10 ^ exponent`. Far outside the range of doubles the answer
is known without computing the power. -/
def ofDecimal (negative : Bool) (digits : Nat) (exponent : Int) : Double :=
  let magnitude : Int := exponent + (Nat.log2 digits : Int) / 3 + 1
  if digits = 0 then finite negative 0 leastExponent
  else if 400 < exponent then infinite negative
  else if magnitude < -400 then finite negative 0 leastExponent
  else ofRatio negative (digits * tenPow exponent.toNat) (tenPow (-exponent).toNat)

/-- The double nearest to an integer. Infinite if the integer is out of range. -/
def ofInt (n : Int) : Double := ofRatio (n < 0) n.natAbs 1

/-- The exact value as a fraction, for a finite double. -/
def toRatio (negative : Bool) (m : Nat) (q : Int) : Int × Nat :=
  let num : Int := (m * twoAbove q : Nat)
  (if negative then -num else num, twoAbove (-q))

/-- The integer part, cut toward zero, and whether nothing was cut off. -/
def truncate (negative : Bool) (m : Nat) (q : Int) : Int × Bool :=
  let num := m * twoAbove q
  let den := twoAbove (-q)
  let whole : Int := (num / den : Nat)
  (if negative then -whole else whole, num % den == 0)

/-- The integer that a double equals, if there is one. -/
def toInt? : Double → Option Int
  | finite s m q => if (truncate s m q).2 then some (truncate s m q).1 else none
  | _ => none

/-- Whether a double is less than zero. -/
def isNegative : Double → Bool
  | nan => false
  | infinite s => s
  | finite s m _ => s && m != 0

/-- Equality of numbers: not-a-number differs from all, the zeros are one. -/
def same : Double → Double → Bool
  | infinite s, infinite t => s == t
  | finite s m q, finite t n r =>
    let (a, b) := toRatio s m q
    let (c, d) := toRatio t n r
    a * d == c * b
  | _, _ => false

/-- Change the sign. -/
def negate : Double → Double
  | nan => nan
  | infinite s => infinite (!s)
  | finite s m q => finite (!s) m q

/-- The rounded sum. -/
def add : Double → Double → Double
  | nan, _ => nan
  | _, nan => nan
  | infinite s, infinite t => if s = t then infinite s else nan
  | infinite s, finite .. => infinite s
  | finite .., infinite t => infinite t
  | finite s m q, finite t n r =>
    let (a, b) := toRatio s m q
    let (c, d) := toRatio t n r
    let num := a * d + c * b
    ofRatio (if num = 0 then s && t else num < 0) num.natAbs (b * d)

/-- The rounded product. -/
def mul : Double → Double → Double
  | nan, _ => nan
  | _, nan => nan
  | infinite s, infinite t => infinite (s != t)
  | infinite s, finite t n _ => if n = 0 then nan else infinite (s != t)
  | finite s m _, infinite t => if m = 0 then nan else infinite (s != t)
  | finite s m q, finite t n r =>
    let (a, b) := toRatio false m q
    let (c, d) := toRatio false n r
    ofRatio (s != t) (a * c).natAbs (b * d)

end Double

end Stencil.Decimal
