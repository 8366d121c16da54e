import ScriptLang.Decimal.Basic

/-!
Division of decimals.

The quotient of two decimals is kept at the scale of the dividend and rounded to the nearest
unit there, a tie going to the even neighbour.
-/

namespace ScriptLang
namespace Decimal

/-- The whole number nearest to `numerator / denominator`, the even one of two that are
equally near. -/
def roundedQuotient (numerator denominator : Nat) : Nat :=
  let quotient := numerator / denominator
  let twiceRest := 2 * (numerator % denominator)
  if denominator < twiceRest || (twiceRest == denominator && quotient % 2 == 1) then
    quotient + 1
  else
    quotient

/-- The number of zeros by which a scale shifts a quotient.  The count is a 32-bit word, so a
scale of magnitude `2 ^ 32` or more wraps around. -/
def shiftCount (magnitude : Nat) : Nat :=
  magnitude % 4294967296

/-- The quotient at the scale of the dividend, rounded half to even.  The divisor's scale
multiplies the dividend when it is positive and the divisor when it is negative. -/
def div (left right : Decimal) : Decimal :=
  let numerator := left.digits * powerOfTen (shiftCount right.scale.toNat)
  let denominator := right.digits * powerOfTen (shiftCount (-right.scale).toNat)
  let magnitude := roundedQuotient numerator.natAbs denominator.natAbs
  { digits := if numerator < 0 ↔ denominator < 0 then magnitude else -magnitude
    scale := left.scale }

end Decimal
end ScriptLang
