import Mathlib.Algebra.Order.Field.Power
import Mathlib.Tactic.Linarith
import Mathlib.Tactic.Positivity
import ScriptLang.Decimal.Quotient

/-!
The value of a quotient of decimals.

A quotient has the scale of the dividend, and its digits are the exact quotient in units of that
scale, rounded to the nearest whole number and to the even one of two that are equally near.  The
divisor's scale is taken modulo `2 ^ 32` for this, so the quotient is exact in this sense where
the scale is smaller in magnitude.
-/

namespace ScriptLang

/-- The whole number is the nearest one, and even if there are two. -/
structure RoundsHalfEven (x : ℚ) (n : ℤ) : Prop where
  near : |x - n| ≤ 1 / 2
  tie : |x - n| = 1 / 2 → Even n

namespace RoundsHalfEven

variable {x : ℚ} {m n : ℤ}

theorem neg (rounds : RoundsHalfEven x n) : RoundsHalfEven (-x) (-n) := by
  have distance : |-x - ((-n : ℤ) : ℚ)| = |x - n| := by
    rw [Int.cast_neg, sub_neg_eq_add, neg_add_eq_sub, abs_sub_comm]
  constructor
  · rw [distance]
    exact rounds.near
  · intro half
    rw [distance] at half
    exact (rounds.tie half).neg

theorem abs_sub_le_through (x : ℚ) (m n : ℤ) : |(m : ℚ) - n| ≤ |x - m| + |x - n| := by
  rw [abs_sub_comm x m]
  exact abs_sub_le _ _ _

theorem one_le_abs_sub (different : m ≠ n) : (1 : ℚ) ≤ |(m : ℚ) - n| := by
  exact_mod_cast Int.one_le_abs (sub_ne_zero.mpr different)

theorem unique (first : RoundsHalfEven x m) (second : RoundsHalfEven x n) : m = n := by
  by_contra different
  have apart := one_le_abs_sub different
  have through := abs_sub_le_through x m n
  have firstHalf : |x - m| = 1 / 2 := by linarith [first.near, second.near]
  have secondHalf : |x - n| = 1 / 2 := by linarith [first.near, second.near]
  have oneApart : |(m : ℚ) - n| = 1 := by linarith
  have oneApart : |m - n| = 1 := by exact_mod_cast oneApart
  have evens := (first.tie firstHalf).sub (second.tie secondHalf)
  rw [← even_abs, oneApart] at evens
  exact absurd evens (by decide)

theorem down {rest : ℚ} (nonnegative : 0 ≤ rest) (atMostHalf : rest ≤ 1 / 2)
    (even : rest = 1 / 2 → Even n) : RoundsHalfEven (n + rest) n := by
  have distance : |n + rest - n| = rest := by
    rw [add_sub_cancel_left, abs_of_nonneg nonnegative]
  constructor
  · rw [distance]
    exact atMostHalf
  · rw [distance]
    exact even

theorem up {rest : ℚ} (atLeastHalf : 1 / 2 ≤ rest) (atMostOne : rest ≤ 1)
    (even : rest = 1 / 2 → Even (n + 1)) : RoundsHalfEven (n + rest) (n + 1) := by
  have distance : |n + rest - ((n + 1 : ℤ) : ℚ)| = 1 - rest := by
    rw [Int.cast_add, Int.cast_one, add_sub_add_left_eq_sub, abs_sub_comm,
      abs_of_nonneg (sub_nonneg.mpr atMostOne)]
  constructor
  · rw [distance]
    linarith
  · rw [distance]
    intro tie
    exact even (by linarith)

end RoundsHalfEven

/-- No whole number is nearer, and where another one is as near, this one is even. -/
structure IsNearestEven (x : ℚ) (n : ℤ) : Prop where
  nearest : ∀ m : ℤ, |x - n| ≤ |x - m|
  even : ∀ m : ℤ, m ≠ n → |x - m| = |x - n| → Even n

namespace RoundsHalfEven

variable {x : ℚ} {n : ℤ}

theorem isNearestEven (rounds : RoundsHalfEven x n) : IsNearestEven x n := by
  have atLeastOne : ∀ m : ℤ, m ≠ n → 1 ≤ |x - m| + |x - n| := fun m different =>
    (one_le_abs_sub different).trans (abs_sub_le_through x m n)
  constructor
  · intro m
    by_cases same : m = n
    · rw [same]
    · linarith [atLeastOne m same, rounds.near]
  · intro m different asNear
    exact rounds.tie (by linarith [atLeastOne m different, rounds.near])

/-- The neighbour on the side of the number would be nearer than a whole number that is more than
a half away, and is as near as one that is a half away. -/
theorem of_isNearestEven (isNearest : IsNearestEven x n) : RoundsHalfEven x n := by
  rcases le_total (n : ℚ) x with below | above
  · have here : |x - n| = x - n := abs_of_nonneg (sub_nonneg.mpr below)
    have next := isNearest.nearest (n + 1)
    rw [here, Int.cast_add, Int.cast_one, le_abs] at next
    have near : x - n ≤ 1 / 2 := by
      rcases next with impossible | near
      · linarith
      · linarith
    refine ⟨here.trans_le near, fun half => ?_⟩
    have nextEq : |x - ((n + 1 : ℤ) : ℚ)| = 1 / 2 := by
      rw [Int.cast_add, Int.cast_one, abs_of_nonpos (by linarith)]
      linarith
    exact isNearest.even (n + 1) (by omega) (nextEq.trans half.symm)
  · have here : |x - n| = n - x := by rw [abs_sub_comm, abs_of_nonneg (sub_nonneg.mpr above)]
    have next := isNearest.nearest (n - 1)
    rw [here, Int.cast_sub, Int.cast_one, le_abs] at next
    have near : n - x ≤ 1 / 2 := by
      rcases next with near | impossible
      · linarith
      · linarith
    refine ⟨here.trans_le near, fun half => ?_⟩
    have nextEq : |x - ((n - 1 : ℤ) : ℚ)| = 1 / 2 := by
      rw [Int.cast_sub, Int.cast_one, abs_of_nonneg (by linarith)]
      linarith
    exact isNearest.even (n - 1) (by omega) (nextEq.trans half.symm)

end RoundsHalfEven

namespace Decimal

/-- The number that a decimal stands for. -/
def toRat (d : Decimal) : ℚ :=
  d.digits * (10 : ℚ) ^ (-d.scale)

theorem roundedQuotient_rounds (numerator : Nat) {denominator : Nat} (positive : 0 < denominator) :
    RoundsHalfEven ((numerator : ℚ) / denominator) (roundedQuotient numerator denominator) := by
  have positive' : (0 : ℚ) < denominator := by exact_mod_cast positive
  have divided : denominator * (numerator / denominator) + numerator % denominator = numerator :=
    Nat.div_add_mod numerator denominator
  have smaller : numerator % denominator < denominator := Nat.mod_lt numerator positive
  unfold roundedQuotient
  generalize numerator / denominator = quotient at divided ⊢
  generalize numerator % denominator = units at divided smaller ⊢
  have split : (numerator : ℚ) / denominator = (quotient : ℤ) + (units : ℚ) / denominator := by
    rw [← divided, Nat.cast_add, Nat.cast_mul, add_div, mul_div_cancel_left₀ _ positive'.ne',
      Int.cast_natCast]
  have half_le : 1 / 2 ≤ (units : ℚ) / denominator ↔ denominator ≤ 2 * units := by
    rw [div_le_div_iff₀ two_pos positive', one_mul, mul_comm]
    exact_mod_cast Iff.rfl
  have le_half : (units : ℚ) / denominator ≤ 1 / 2 ↔ 2 * units ≤ denominator := by
    rw [div_le_div_iff₀ positive' two_pos, one_mul, mul_comm]
    exact_mod_cast Iff.rfl
  rw [split]
  dsimp only
  split
  · rename_i up
    have up : denominator < 2 * units ∨ 2 * units = denominator ∧ quotient % 2 = 1 := by
      simpa using up
    rw [Nat.cast_add, Nat.cast_one]
    apply RoundsHalfEven.up
    · exact half_le.mpr (by omega)
    · rw [div_le_one positive']
      exact_mod_cast smaller.le
    · intro tie
      have atMostHalf := le_half.mp tie.le
      have odd : quotient % 2 = 1 := by omega
      exact_mod_cast (Nat.odd_iff.mpr odd).add_one
  · rename_i down
    have down : 2 * units ≤ denominator ∧ (2 * units = denominator → quotient % 2 ≠ 1) := by
      simpa using down
    apply RoundsHalfEven.down
    · positivity
    · exact le_half.mpr down.1
    · intro tie
      have atLeastHalf := half_le.mp tie.ge
      have notOdd := down.2 (by omega)
      have even : quotient % 2 = 0 := by omega
      exact_mod_cast Nat.even_iff.mpr even

theorem signedQuotient_rounds (numerator : Int) {denominator : Int} (nonzero : denominator ≠ 0) :
    RoundsHalfEven ((numerator : ℚ) / denominator)
      (if numerator < 0 ↔ denominator < 0 then
        (roundedQuotient numerator.natAbs denominator.natAbs : Int)
      else -(roundedQuotient numerator.natAbs denominator.natAbs : Int)) := by
  have rounds := roundedQuotient_rounds numerator.natAbs (Int.natAbs_pos.mpr nonzero)
  rw [Nat.cast_natAbs, Nat.cast_natAbs, Int.cast_abs, Int.cast_abs, ← abs_div] at rounds
  split
  · rename_i same
    have nonnegative : 0 ≤ (numerator : ℚ) / denominator := by
      by_cases negative : numerator < 0
      · apply div_nonneg_of_nonpos
        · exact_mod_cast negative.le
        · exact_mod_cast (same.mp negative).le
      · apply div_nonneg
        · exact_mod_cast not_lt.mp negative
        · exact_mod_cast not_lt.mp fun below => negative (same.mpr below)
    rw [abs_of_nonneg nonnegative] at rounds
    exact rounds
  · rename_i different
    have nonpositive : (numerator : ℚ) / denominator ≤ 0 := by
      by_cases negative : numerator < 0
      · apply div_nonpos_of_nonpos_of_nonneg
        · exact_mod_cast negative.le
        · exact_mod_cast not_lt.mp fun below => different ⟨fun _ => below, fun _ => negative⟩
      · apply div_nonpos_of_nonneg_of_nonpos
        · exact_mod_cast not_lt.mp negative
        · have below : denominator < 0 := by
            by_contra above
            exact different ⟨fun holds => absurd holds negative, fun holds => absurd holds above⟩
          exact_mod_cast below.le
    rw [abs_of_nonpos nonpositive] at rounds
    rw [← neg_neg ((numerator : ℚ) / denominator)]
    exact rounds.neg

/-! ### Decimals -/

theorem powerOfTen_ne_zero (n : Nat) : (powerOfTen n : Int) ≠ 0 := by
  have positive : 0 < powerOfTen n := Nat.pow_pos (by decide)
  omega

theorem zpow_eq_div (scale : Int) :
    (10 : ℚ) ^ scale = (powerOfTen scale.toNat : ℚ) / powerOfTen (-scale).toNat := by
  unfold powerOfTen
  obtain ⟨n, rfl | rfl⟩ := scale.eq_nat_or_neg
  · simp
  · simp

theorem shiftCount_of_small {magnitude : Nat} (small : magnitude < 4294967296) :
    shiftCount magnitude = magnitude :=
  Nat.mod_eq_of_lt small

/-- The exact quotient in units of the dividend's scale. -/
theorem toRat_div_toRat (left right : Decimal) :
    left.toRat / right.toRat * (10 : ℚ) ^ left.scale =
      (left.digits * powerOfTen right.scale.toNat : Int) /
        (right.digits * powerOfTen (-right.scale).toNat : Int) := by
  have leftPower : (10 : ℚ) ^ left.scale ≠ 0 := zpow_ne_zero _ (by norm_num)
  have dividend : left.toRat * (10 : ℚ) ^ left.scale = left.digits := by
    rw [toRat, zpow_neg, inv_mul_cancel_right₀ leftPower]
  rw [div_mul_eq_mul_div, dividend, toRat, zpow_neg, zpow_eq_div right.scale, inv_div,
    mul_div_assoc', div_div_eq_mul_div]
  push_cast
  rfl

/-- The decimal has the scale of the dividend, and as digits the exact quotient in units of that
scale, rounded half to even. -/
structure IsQuotient (left right quotient : Decimal) : Prop where
  scale : quotient.scale = left.scale
  digits : RoundsHalfEven (left.toRat / right.toRat * (10 : ℚ) ^ left.scale) quotient.digits

theorem IsQuotient.unique {left right first second : Decimal}
    (isFirst : left.IsQuotient right first) (isSecond : left.IsQuotient right second) :
    first = second := by
  obtain ⟨digits, scale⟩ := first
  obtain ⟨digits', scale'⟩ := second
  have sameDigits : digits = digits' := isFirst.digits.unique isSecond.digits
  have sameScale : scale = scale' := isFirst.scale.trans isSecond.scale.symm
  rw [sameDigits, sameScale]

/-- Division is exact in this sense where the divisor's scale fits 32 bits. -/
theorem isQuotient_iff {left right quotient : Decimal} (nonzero : right.digits ≠ 0)
    (small : right.scale.natAbs < 4294967296) :
    left.IsQuotient right quotient ↔ quotient = left.div right := by
  have divides : left.IsQuotient right (left.div right) := by
    refine ⟨rfl, ?_⟩
    rw [toRat_div_toRat]
    unfold div
    dsimp only
    rw [shiftCount_of_small (by omega), shiftCount_of_small (by omega)]
    exact signedQuotient_rounds _ (mul_ne_zero nonzero (powerOfTen_ne_zero _))
  constructor
  · intro isQuotient
    exact isQuotient.unique divides
  · rintro rfl
    exact divides

/-- The quotient has the scale of the dividend, and its digits are the one whole number that is
nearest to the exact quotient in units of that scale, the even one where two are equally near. -/
theorem div_isNearestEven (left right : Decimal) (nonzero : right.digits ≠ 0)
    (small : right.scale.natAbs < 2 ^ 32) :
    (left.div right).scale = left.scale ∧ ∀ q : ℤ,
      IsNearestEven (left.toRat / right.toRat * (10 : ℚ) ^ left.scale) q ↔
        q = (left.div right).digits := by
  have divides : left.IsQuotient right (left.div right) := (isQuotient_iff nonzero small).mpr rfl
  refine ⟨divides.scale, fun q => ⟨fun isNearest => ?_, ?_⟩⟩
  · exact (RoundsHalfEven.of_isNearestEven isNearest).unique divides.digits
  · rintro rfl
    exact divides.digits.isNearestEven

/-- Five halves round to two for every sign of the operands and of their scales. -/
theorem div_isNearestEven_ties :
    (∀ q : ℤ, IsNearestEven (toRat ⟨-50, -1⟩ / toRat ⟨2, -1⟩ * (10 : ℚ) ^ (-1 : ℤ)) q ↔ q = -2) ∧
    (∀ q : ℤ, IsNearestEven (toRat ⟨-5, 2⟩ / toRat ⟨-20, 1⟩ * (10 : ℚ) ^ (2 : ℤ)) q ↔ q = 2) := by
  constructor
  · exact (div_isNearestEven ⟨-50, -1⟩ ⟨2, -1⟩ (by decide) (by decide)).2
  · exact (div_isNearestEven ⟨-5, 2⟩ ⟨-20, 1⟩ (by decide) (by decide)).2

theorem not_isQuotient_one {scale : Int} (positive : 0 < scale) :
    ¬IsQuotient ⟨10, 1⟩ ⟨1, scale⟩ ⟨10, 1⟩ := by
  intro isQuotient
  have near := isQuotient.digits.near
  have noShift : (-scale).toNat = 0 := by omega
  have tenfold : 10 ≤ powerOfTen scale.toNat := Nat.le_self_pow (by omega) 10
  have tenfold : (10 : ℚ) ≤ powerOfTen scale.toNat := by exact_mod_cast tenfold
  have one : powerOfTen 0 = 1 := rfl
  rw [toRat_div_toRat, noShift, one, abs_le] at near
  push_cast at near
  linarith [near.2]

end Decimal
end ScriptLang
