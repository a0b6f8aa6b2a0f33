import Stencil.Decimal.Shortest

/-!
# How numbers are written

A double is written with its shortest decimal: positionally while its leading
digit stands between `10 ^ -4` and `10 ^ 15`, and with an exponent outside. A
written double always shows that it is none of the integers, by a point or by
an exponent.
-/

namespace Stencil.Decimal

/-- The decisions a written double follows. -/
structure Layout where
  /-- The least power of ten of a leading digit written positionally. -/
  positionalFrom : Int
  /-- The least power of ten of a leading digit that is again written with an exponent. -/
  positionalBelow : Int
  /-- The least number of digits of an exponent. -/
  exponentDigits : Nat

/-- Positional from `0.0001` to below `10 ^ 16`, and two exponent digits at least. -/
def standardLayout : Layout := ⟨-4, 16, 2⟩

/-- The decimal digits of a number, without trailing zeros. -/
def significantDigits (n : Nat) : List Char :=
  match ((Nat.toDigits 10 n).reverse.dropWhile (· = '0')).reverse with
  | [] => ['0']
  | digits => digits

/-- A row of zeros. -/
def zeros (count : Nat) : List Char := List.replicate count '0'

/-- Digits with the point behind the digit of `10 ^ top`'s place `0`; `.0` closes an integer. -/
def positional (digits : List Char) (top : Int) : List Char :=
  if top < 0 then '0' :: '.' :: zeros (-top - 1).toNat ++ digits
  else
    let whole := top.toNat + 1
    if digits.length ≤ whole then digits ++ zeros (whole - digits.length) ++ ['.', '0']
    else digits.take whole ++ '.' :: digits.drop whole

/-- One digit before the point, and the power of ten behind the mark. -/
def scientific (layout : Layout) (digits : List Char) (top : Int) : List Char :=
  let mantissa := match digits with
    | first :: [] => [first]
    | first :: rest => first :: '.' :: rest
    | [] => []
  let power := Nat.toDigits 10 top.natAbs
  mantissa ++ 'e' :: (if top < 0 then '-' else '+') ::
    zeros (layout.exponentDigits - power.length) ++ power

/-- A decimal written by a layout. -/
def Scaled.write (layout : Layout) (number : Scaled) : List Char :=
  let top : Int := number.exponent + (Nat.toDigits 10 number.coefficient).length - 1
  let digits := significantDigits number.coefficient
  if layout.positionalFrom ≤ top ∧ top < layout.positionalBelow then positional digits top
  else scientific layout digits top

/-- A double as it is written. -/
def Double.write : Double → String
  | .nan => "nan"
  | .infinite s => if s then "-inf" else "inf"
  | .finite s m q =>
    let body := if m = 0 then ['0', '.', '0'] else (shortest m q).write standardLayout
    String.ofList (if s then '-' :: body else body)

end Stencil.Decimal
