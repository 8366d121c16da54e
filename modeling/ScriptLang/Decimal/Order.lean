import ScriptLang.Decimal.Basic

/-!
The order of decimals by numeric value.

Two decimals are compared as whole numbers of one common unit.  Where their scales are so far
apart that the lengths of the digits decide, the power of ten between the scales is not
multiplied out; `order_eq_compare_digitsAt` says that the answer is the same.
-/

namespace ScriptLang
namespace Decimal

/-- The order of `m * 10 ^ gap` and `n`.  Every zero lengthens a number by more than three
bits. -/
def compareShifted (m gap n : Nat) : Ordering :=
  if m = 0 then compare 0 n
  else if n.log2 < m.log2 + 3 * gap then .gt
  else compare (m * powerOfTen gap) n

def compareMagnitude (a b : Decimal) : Ordering :=
  if a.scale ≤ b.scale then
    compareShifted a.digits.natAbs (b.scale - a.scale).toNat b.digits.natAbs
  else
    (compareShifted b.digits.natAbs (a.scale - b.scale).toNat a.digits.natAbs).swap

def order (a b : Decimal) : Ordering :=
  if a.digits < 0 then
    if b.digits < 0 then compareMagnitude b a else .lt
  else if b.digits < 0 then .gt
  else compareMagnitude a b

/-! ### The order is that of the digits at a common scale -/

private theorem twoPow_le_powerOfTen (gap : Nat) :
    Nat.pow 2 (3 * gap) ≤ powerOfTen gap := by
  induction gap with
  | zero =>
      exact Nat.le_refl _
  | succ gap inductionHypothesis =>
      have step : Nat.pow 2 (3 * (gap + 1)) = Nat.pow 2 (3 * gap) * 8 := by
        rw [Nat.mul_succ]
        exact Nat.pow_add 2 (3 * gap) 3
      have tenfold : powerOfTen (gap + 1) = powerOfTen gap * 10 := rfl
      rw [step, tenfold]
      exact Nat.mul_le_mul inductionHypothesis (by decide)

theorem compareShifted_eq_compare (m gap n : Nat) :
    compareShifted m gap n = compare (m * powerOfTen gap) n := by
  unfold compareShifted
  by_cases zero : m = 0
  · rw [if_pos zero, zero, Nat.zero_mul]
  · rw [if_neg zero]
    by_cases longer : n.log2 < m.log2 + 3 * gap
    · rw [if_pos longer]
      have below : n < Nat.pow 2 (n.log2 + 1) := Nat.lt_log2_self
      have raised : Nat.pow 2 (n.log2 + 1) ≤ Nat.pow 2 (m.log2 + 3 * gap) :=
        Nat.pow_le_pow_right (by decide) longer
      have product : Nat.pow 2 (m.log2 + 3 * gap) = Nat.pow 2 m.log2 * Nat.pow 2 (3 * gap) :=
        Nat.pow_add 2 m.log2 (3 * gap)
      have within : Nat.pow 2 m.log2 * Nat.pow 2 (3 * gap) ≤ m * powerOfTen gap :=
        Nat.mul_le_mul (Nat.log2_self_le zero) (twoPow_le_powerOfTen gap)
      rw [product] at raised
      exact (Nat.compare_eq_gt.mpr
        (Nat.lt_of_lt_of_le below (Nat.le_trans raised within))).symm
    · rw [if_neg longer]

theorem compareMagnitude_eq_compare (a b : Decimal) :
    compareMagnitude a b =
      compare (a.digits.natAbs * powerOfTen (max a.scale b.scale - a.scale).toNat)
        (b.digits.natAbs * powerOfTen (max a.scale b.scale - b.scale).toNat) := by
  have one : powerOfTen 0 = 1 := rfl
  unfold compareMagnitude
  by_cases below : a.scale ≤ b.scale
  · rw [if_pos below, compareShifted_eq_compare, Int.max_eq_right below, Int.sub_self,
      Int.toNat_zero, one, Nat.mul_one]
  · rw [if_neg below, compareShifted_eq_compare, Nat.compare_swap,
      Int.max_eq_left (Int.le_of_lt (Int.lt_of_not_ge below)), Int.sub_self, Int.toNat_zero,
      one, Nat.mul_one]

private theorem compare_natCast (m n : Nat) : compare (m : Int) (n : Int) = compare m n := by
  simp only [compare, compareOfLessAndEq, Int.ofNat_lt, Int.ofNat_inj]

private theorem compare_neg_natCast (m n : Nat) :
    compare (-(m : Int)) (-(n : Int)) = compare n m := by
  simp only [compare, compareOfLessAndEq, Int.neg_lt_neg_iff, Int.neg_inj, Int.ofNat_lt,
    Int.ofNat_inj, eq_comm]

theorem order_eq_compare_digitsAt (a b : Decimal) :
    a.order b =
      compare (a.digitsAt (max a.scale b.scale)) (b.digitsAt (max a.scale b.scale)) := by
  rw [digitsAt_eq, digitsAt_eq]
  unfold order
  have unit (n : Nat) : 0 < powerOfTen n := Nat.pow_pos (by decide)
  obtain ⟨p, pEq⟩ :
      ∃ p, p = powerOfTen (max a.scale b.scale - a.scale).toNat := ⟨_, rfl⟩
  obtain ⟨q, qEq⟩ :
      ∃ q, q = powerOfTen (max a.scale b.scale - b.scale).toNat := ⟨_, rfl⟩
  have pPos : 0 < p := pEq ▸ unit _
  have qPos : 0 < q := qEq ▸ unit _
  have forward := compareMagnitude_eq_compare a b
  have backward := compareMagnitude_eq_compare b a
  rw [Int.max_comm b.scale a.scale] at backward
  rw [← pEq, ← qEq] at forward backward ⊢
  by_cases aNegative : a.digits < 0
  · have aEq : a.digits = -(a.digits.natAbs : Int) := by omega
    rw [if_pos aNegative]
    by_cases bNegative : b.digits < 0
    · have bEq : b.digits = -(b.digits.natAbs : Int) := by omega
      rw [if_pos bNegative, backward, aEq, bEq, Int.neg_mul, Int.neg_mul, Int.natAbs_neg,
        Int.natAbs_neg, Int.natAbs_natCast, Int.natAbs_natCast, ← Int.natCast_mul,
        ← Int.natCast_mul, compare_neg_natCast]
    · have negative : a.digits * p < 0 := Int.mul_neg_of_neg_of_pos aNegative (by omega)
      have nonnegative : 0 ≤ b.digits * q := Int.mul_nonneg (by omega) (by omega)
      rw [if_neg bNegative]
      exact (Int.compare_eq_lt.mpr (by omega)).symm
  · have aEq : a.digits = (a.digits.natAbs : Int) := by omega
    rw [if_neg aNegative]
    by_cases bNegative : b.digits < 0
    · have negative : b.digits * q < 0 := Int.mul_neg_of_neg_of_pos bNegative (by omega)
      have nonnegative : 0 ≤ a.digits * p := Int.mul_nonneg (by omega) (by omega)
      rw [if_pos bNegative]
      exact (Int.compare_eq_gt.mpr (by omega)).symm
    · have bEq : b.digits = (b.digits.natAbs : Int) := by omega
      rw [if_neg bNegative, forward, aEq, bEq, Int.natAbs_natCast, Int.natAbs_natCast,
        ← Int.natCast_mul, ← Int.natCast_mul, compare_natCast]

end Decimal
end ScriptLang
