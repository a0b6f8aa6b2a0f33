/-!
# Powers

Powers of the two bases that numbers are written in: doubles in two, texts in ten.
-/

namespace Stencil.Decimal

/-- A power of two. -/
def twoPow (exponent : Nat) : Nat := Nat.pow 2 exponent

/-- A power of ten. -/
def tenPow (exponent : Nat) : Nat := Nat.pow 10 exponent

end Stencil.Decimal
