import Mathlib.Algebra.Order.Field.Power
import Mathlib.Algebra.Order.Ring.Rat
import Mathlib.Data.Nat.Cast.Field
import Mathlib.Data.Rat.Cast.Order
import Stencil.Decimal.Double

/-!
# The numbers that doubles are

A finite double is a rational number, its exact value as a fraction (`ratio`).
Doubles are the same if their numbers are, cutting off the fraction gives an
integer exactly if the double equals it (`whole_iff`), and a double counts as
negative exactly if its number is (`is_negative_iff`).
-/

namespace Stencil.Decimal.Double

/-- The value of a finite double. -/
def ratio (negative : Bool) (m : Nat) (q : Int) : ℚ :=
  (toRatio negative m q).1 / (toRatio negative m q).2

/-- What stands below a fraction line is positive. -/
theorem below_pos (negative : Bool) (m : Nat) (q : Int) : 0 < (toRatio negative m q).2 :=
  Nat.pow_pos (by decide)

/-- Finite doubles are the same if their values are. -/
theorem same_finite_iff (s t : Bool) (m n : Nat) (q r : Int) :
    (finite s m q).same (finite t n r) = true ↔ ratio s m q = ratio t n r := by
  have first : ((toRatio s m q).2 : ℚ) ≠ 0 := by exact_mod_cast (below_pos s m q).ne'
  have second : ((toRatio t n r).2 : ℚ) ≠ 0 := by exact_mod_cast (below_pos t n r).ne'
  rw [ratio, ratio, div_eq_div_iff first second]
  simp only [same, beq_iff_eq]
  norm_cast

/-- A division that leaves nothing over is undone by multiplying. -/
theorem div_exact_iff (num : Nat) {den : Nat} (positive : 0 < den) (n : Int) :
    (num % den = 0 ∧ ((num / den : Nat) : Int) = n) ↔ (num : Int) = n * den := by
  constructor
  · rintro ⟨exact', rfl⟩
    exact_mod_cast (Nat.div_mul_cancel (Nat.dvd_of_mod_eq_zero exact')).symm
  · intro whole
    have divides : den ∣ num := by exact_mod_cast Dvd.intro_left n whole.symm
    refine ⟨Nat.mod_eq_zero_of_dvd divides, ?_⟩
    rw [Int.natCast_div, whole, Int.mul_ediv_cancel _ (by omega)]

/-- A finite double equals an integer if its value does. -/
theorem to_int_iff (s : Bool) (m : Nat) (q : Int) (n : Int) :
    (finite s m q).toInt? = some n ↔ ratio s m q = n := by
  have positive := below_pos s m q
  have nonzero : ((toRatio s m q).2 : ℚ) ≠ 0 := by exact_mod_cast positive.ne'
  rw [ratio, div_eq_iff nonzero]
  simp only [toInt?, truncate, toRatio] at positive ⊢
  cases s with
  | false =>
    simp only [beq_iff_eq, Bool.false_eq_true, if_false, Option.ite_none_right_eq_some,
      Option.some.injEq, div_exact_iff _ positive]
    norm_cast
  | true =>
    simp only [beq_iff_eq, if_true, Option.ite_none_right_eq_some, Option.some.injEq,
      Int.neg_eq_comm, eq_comm (a := -n)]
    rw [div_exact_iff _ positive]
    norm_cast
    rw [neg_eq_iff_eq_neg, neg_mul]

/-- The number that a double is, if it is finite. -/
def value? : Double → Option ℚ
  | finite negative significand exponent =>
    some ((if negative then -1 else 1) * (significand * (2 : ℚ) ^ exponent))
  | _ => none

/-- A power of two is the quotient of one above a fraction line and one below it. -/
theorem two_above_div (exponent : Int) :
    (2 : ℚ) ^ exponent = twoAbove exponent / twoAbove (-exponent) := by
  have power (exponent : Nat) : ((twoPow exponent : Nat) : ℚ) = 2 ^ exponent :=
    Nat.cast_pow 2 exponent
  have parts : (exponent.toNat : Int) - (-exponent).toNat = exponent := by omega
  rw [twoAbove, twoAbove, power, power, ← zpow_natCast, ← zpow_natCast, ← zpow_sub₀ (by decide),
    parts]

/-- The exact value of a double is its significand times a power of two, with its sign. -/
theorem value_ratio (negative : Bool) (significand : Nat) (exponent : Int) :
    (finite negative significand exponent).value? = some (ratio negative significand exponent) := by
  rw [value?, ratio, toRatio, two_above_div, ← mul_div_assoc, ← Nat.cast_mul, Option.some.injEq]
  cases negative with
  | false => simp
  | true => simp [neg_div]

/-- A double without a fraction is the integer that is left when the fraction is cut off. -/
theorem whole_iff (double : Double) (number : Int) :
    double.toInt? = some number ↔ double.value? = some (number : ℚ) := by
  cases double with
  | nan => exact ⟨nofun, nofun⟩
  | infinite _ => exact ⟨nofun, nofun⟩
  | finite negative significand exponent =>
    rw [to_int_iff, value_ratio, Option.some.injEq]

/-- A double counts as negative exactly if its number is. -/
theorem is_negative_iff {double : Double} {number : ℚ} (value : double.value? = some number) :
    double.isNegative = true ↔ number < 0 := by
  cases double with
  | nan => cases value
  | infinite _ => cases value
  | finite negative significand exponent =>
    have power : (0 : ℚ) < 2 ^ exponent := zpow_pos (by decide) exponent
    have natural : (0 : ℚ) ≤ significand := Nat.cast_nonneg significand
    cases value
    rw [isNegative]
    cases negative with
    | false =>
      rw [if_neg Bool.false_ne_true, one_mul]
      exact iff_of_false Bool.false_ne_true (not_lt.mpr (mul_nonneg natural power.le))
    | true =>
      rw [if_pos rfl, neg_one_mul, neg_lt_zero, Bool.true_and, bne_iff_ne]
      constructor
      · intro some
        exact mul_pos (Nat.cast_pos.mpr (Nat.pos_of_ne_zero some)) power
      · rintro above rfl
        rw [Nat.cast_zero, zero_mul] at above
        exact lt_irrefl _ above

end Stencil.Decimal.Double
