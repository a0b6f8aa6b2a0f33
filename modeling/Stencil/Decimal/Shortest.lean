import Stencil.Decimal.Double

/-!
# The shortest decimal of a double

A double stands for an interval of real numbers: all that round to it. Its
shortest decimal has the fewest digits that fall into the interval, and among
those of that length it is the one nearest to the double itself.

For each number of digits only the two neighbours of the double on that decimal
grid can be nearest, so the search tries those two on the grids of 1, 2, … 17
digits. Seventeen digits always suffice.
-/

namespace Stencil.Decimal

/-- A decimal `coefficient · 10 ^ exponent`. -/
structure Scaled where
  coefficient : Nat
  exponent : Int
deriving DecidableEq, Repr

/-- Compare `a · 2 ^ q` with `d · 10 ^ k` by clearing both denominators: the two sides. -/
def cleared (a : Nat) (q : Int) (d : Nat) (k : Int) : Nat × Nat :=
  (a * twoPow q.toNat * tenPow (-k).toNat, d * tenPow k.toNat * twoPow (-q).toNat)

/-- The greatest `e` with `10 ^ e ≤ m · 2 ^ q`, from an estimate that is off by at most one. -/
def magnitude (m : Nat) (q : Int) : Int :=
  let guess := ((q + Nat.log2 m) * 30103).fdiv 100000
  let below (e : Int) : Bool :=
    let (v, p) := cleared m q 1 e
    v < p
  if below guess then guess - 1 else if below (guess + 1) then guess else guess + 1

/-- Whether `d · 10 ^ k` rounds to the double `m · 2 ^ q`. The interval reaches half a unit to
both sides, a quarter below a power of two, and has its ends exactly if `m` is even. -/
def readsBack (m : Nat) (q : Int) (d : Nat) (k : Int) : Bool :=
  let low := if m = twoPow 52 ∧ Double.leastExponent < q then 4 * m - 1 else 4 * m - 2
  let (l, c) := cleared low (q - 2) d k
  let (h, _) := cleared (4 * m + 2) (q - 2) d k
  if m % 2 = 0 then l ≤ c && c ≤ h else l < c && c < h

/-- The neighbour of `m · 2 ^ q` on the grid of multiples of `10 ^ k` that reads back, the nearer
if both do and the even one in a tie. -/
def onGrid? (m : Nat) (q k : Int) : Option Scaled :=
  let (v, p) := cleared m q 1 k
  let floor := v / p
  let lowGood := readsBack m q floor k
  let highGood := readsBack m q (floor + 1) k
  let rest := 2 * (v % p)
  let pickLow := lowGood && (!highGood || rest < p || (rest == p && floor % 2 == 0))
  if pickLow then some ⟨floor, k⟩
  else if highGood then some ⟨floor + 1, k⟩
  else none

/-- The shortest decimal of the positive double `m · 2 ^ q`. -/
def shortest (m : Nat) (q : Int) : Scaled :=
  let top := magnitude m q
  let grids := (List.range 17).map fun (digits : Nat) => top - digits
  (grids.findSome? (onGrid? m q)).getD ⟨m, q⟩

end Stencil.Decimal
