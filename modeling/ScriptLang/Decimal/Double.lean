import ScriptLang.Decimal.Order
import ScriptLang.Decimal.Shortest

/-!
Decimals and binary floating point.

Decimals are compared with the range of a double, and the natural logarithm is taken there.
-/

namespace ScriptLang
namespace Decimal

/-- The least number that rounds to no finite double: half a unit above the largest one. -/
def doubleLimit : Nat :=
  (Nat.pow 2 54 - 1) * Nat.pow 2 970

def fitsDouble (d : Decimal) : Bool :=
  order { d with digits := d.digits.natAbs } { digits := doubleLimit, scale := 0 } == .lt

def digitCount (d : Decimal) : Nat :=
  (Nat.toDigits 10 d.digits.natAbs).length

/-- The most digits of which every one counts when a double is chosen. -/
def longestExact : Nat :=
  41

def countedDigits : Nat :=
  40

/-- The number as it counts when a double is chosen.  The later digits of a long one are cut
off, so that what is left lies at or below a positive number. -/
def cut (d : Decimal) : Decimal :=
  if d.digitCount ≤ longestExact then d
  else
    let excess := d.digitCount - countedDigits
    { digits := d.digits / powerOfTen excess, scale := d.scale - excess }

/-- The double nearest to a positive number.  One of more than 400 digits before the point, or
of as many zeros behind it, is out of reach, and its powers are not computed. -/
def nearestFloat (d : Decimal) : Float :=
  let magnitude := (d.digitCount : Int) - d.scale
  if 400 < magnitude then Float.ofScientific 1 false 400
  else if magnitude < -400 then 0
  else if 0 ≤ d.scale then Float.ofScientific d.digits.natAbs true d.scale.toNat
  else Float.ofScientific d.digits.natAbs false (-d.scale).toNat

def raiseFloat (result base : Float) (n : Nat) : Float :=
  if n = 0 then result
  else raiseFloat (if n % 2 = 1 then result * base else result) (base * base) (n / 2)
  termination_by n
  decreasing_by exact Nat.div_lt_self (by omega) (by decide)

/-- The double for a positive number whose digits are followed by zeros.  The digits and the
power of ten are a double each, and their product is rounded. -/
def scaledFloat (d : Decimal) : Float :=
  nearestFloat { digits := d.digits, scale := 0 } * raiseFloat 1 10 (-d.scale).toNat

/-- The double that stands for a positive decimal.  A whole number of scale zero counts with
all its digits, any other as `cut` leaves it. -/
def toFloat (d : Decimal) : Float :=
  if d.scale = 0 then d.nearestFloat
  else if d.cut.scale < 0 then d.cut.scaledFloat
  else d.cut.nearestFloat

/-- The natural logarithm of a positive decimal, as the shortest decimal of the double result;
`none` when that result is not finite. -/
def logarithm? (d : Decimal) : Option Decimal :=
  let result := d.toFloat.log
  if result.isFinite then some (ofFloat result) else none

theorem logarithm?_eq_none {d : Decimal} :
    d.logarithm? = none ↔ d.toFloat.log.isFinite = false := by
  unfold logarithm?
  cases finite : d.toFloat.log.isFinite with
  | true => simp [finite]
  | false => simp [finite]

end Decimal
end ScriptLang
