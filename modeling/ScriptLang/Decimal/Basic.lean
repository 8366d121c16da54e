/-!
Decimal numbers of unlimited precision.

A decimal is a whole number of units of `10 ^ -scale`.  Two decimals of one numeric value may
differ in scale, and every operation fixes the scale of its result, because the scale shows
when the number is written.

Scales are whole numbers of any size here.  An implementation that keeps them in 64 bits agrees
as long as the scales that it adds and compares stay within them; only numbers made by some sixty
squarings in a row have larger ones.
-/

namespace ScriptLang

/-- The number `digits / 10 ^ scale`; the scale may be negative. -/
structure Decimal where
  digits : Int
  scale : Int
  deriving DecidableEq, Inhabited, Repr

namespace Decimal

def powerOfTen (n : Nat) : Nat :=
  Nat.pow 10 n

def isZero (d : Decimal) : Bool :=
  d.digits == 0

/-- The digits of the same number at another scale, exact when that scale is not smaller.  A
zero has the digits zero at every scale. -/
def digitsAt (d : Decimal) (scale : Int) : Int :=
  if d.digits = 0 then 0 else d.digits * powerOfTen (scale - d.scale).toNat

theorem digitsAt_eq (d : Decimal) (scale : Int) :
    d.digitsAt scale = d.digits * powerOfTen (scale - d.scale).toNat := by
  unfold digitsAt
  by_cases zero : d.digits = 0
  · rw [if_pos zero, zero, Int.zero_mul]
  · rw [if_neg zero]

def neg (d : Decimal) : Decimal :=
  { d with digits := -d.digits }

/-- A sum has the larger scale of its terms.  The difference of two scales is exact here, also
where it would leave 64 bits. -/
def add (a b : Decimal) : Decimal :=
  let scale := max a.scale b.scale
  { digits := a.digitsAt scale + b.digitsAt scale
    scale := scale }

/-- A difference has the larger scale of its terms, except that a zero term leaves the other
term's scale alone. -/
def sub (a b : Decimal) : Decimal :=
  if b.isZero then a
  else if a.isZero then b.neg
  else
    let scale := max a.scale b.scale
    { digits := a.digitsAt scale - b.digitsAt scale
      scale := scale }

/-- Whether the number is written as a one with at most 38 zeros after its point. -/
def isWrittenOne (d : Decimal) : Bool :=
  0 ≤ d.scale && d.scale ≤ 38 && d.digits == powerOfTen d.scale.toNat

/-- A product has the summed scale of its factors, except that a factor written as one leaves
the other factor as it is.  Scales add exactly, also beyond 64 bits. -/
def mul (a b : Decimal) : Decimal :=
  if a.isWrittenOne then b
  else if b.isWrittenOne then a
  else
    { digits := a.digits * b.digits
      scale := a.scale + b.scale }

/-- The unsigned positional text: exactly `scale` digits after the point, or `-scale` zeros
behind the digits when the scale is not positive. -/
def plainMagnitude (digits : Nat) (scale : Int) : String :=
  let shown := Nat.toDigits 10 digits
  if scale ≤ 0 then
    String.ofList (shown ++ List.replicate (-scale).toNat '0')
  else
    let places := scale.toNat
    let padded := List.replicate (places + 1 - shown.length) '0' ++ shown
    let whole := padded.length - places
    String.ofList (padded.take whole ++ '.' :: padded.drop whole)

def plain (d : Decimal) : String :=
  let magnitude := plainMagnitude d.digits.natAbs d.scale
  if d.digits < 0 then "-" ++ magnitude else magnitude

end Decimal
end ScriptLang
