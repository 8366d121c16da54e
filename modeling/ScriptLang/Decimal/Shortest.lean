import ScriptLang.Decimal.Basic

/-!
The shortest decimal that stands for a binary floating-point number.

A positive double `m * 2 ^ q` is read back from every real number of an interval around it.
Among the decimals with the fewest digits in that interval the nearest one is chosen, and the
larger one of two that are equally near.
-/

namespace ScriptLang
namespace Decimal

/-- The positive fraction `numerator / denominator` with the ends of the interval of numbers
that round to it, over the same denominator.  `closed` says whether the ends belong to it. -/
structure Rounding where
  low : Nat
  numerator : Nat
  high : Nat
  denominator : Nat
  closed : Bool

/-- The interval around the double with mantissa `m` and exponent `q`.  Below a power of two
the doubles lie twice as close, so `narrow` halves the gap on that side. -/
def Rounding.ofParts (m : Nat) (q : Int) (narrow : Bool) : Rounding :=
  let factor := Nat.pow 2 (q - 2).toNat
  { low := (4 * m - if narrow then 1 else 2) * factor
    numerator := 4 * m * factor
    high := (4 * m + 2) * factor
    denominator := Nat.pow 2 (2 - q).toNat
    closed := m % 2 == 0 }

def Rounding.ofBits (bits : Nat) : Rounding :=
  let fraction := bits % 4503599627370496
  let exponent := bits / 4503599627370496 % 2048
  if exponent = 0 then
    Rounding.ofParts fraction (-1074) false
  else
    Rounding.ofParts (fraction + 4503599627370496) ((exponent : Int) - 1075)
      (fraction == 0 && 1 < exponent)

def Rounding.leading (r : Rounding) : Int :=
  if r.denominator ≤ r.numerator then
    (Nat.toDigits 10 (r.numerator / r.denominator)).length - 1
  else
    let count := (Nat.toDigits 10 (r.denominator / r.numerator)).length
    if r.denominator ≤ r.numerator * powerOfTen (count - 1) then 1 - (count : Int)
    else -(count : Int)

def Rounding.admits (r : Rounding) (digits : Nat) (position : Int) : Bool :=
  let value := digits * powerOfTen position.toNat * r.denominator
  let down := powerOfTen (-position).toNat
  if r.closed then r.low * down ≤ value && value ≤ r.high * down
  else r.low * down < value && value < r.high * down

/-- The admitted multiple of `10 ^ position` nearest to the number, if one of its two
neighbours on that grid is admitted. -/
def Rounding.nearest? (r : Rounding) (position : Int) : Option Nat :=
  let unit := powerOfTen position.toNat * r.denominator
  let scaled := r.numerator * powerOfTen (-position).toNat
  let below := scaled / unit
  match r.admits below position, r.admits (below + 1) position with
  | true, true => some (if 2 * (scaled % unit) < unit then below else below + 1)
  | true, false => some below
  | false, true => some (below + 1)
  | false, false => none

/-- The first grid, from coarse to fine, that holds an admitted multiple.  Seventeen digits
always suffice for a double. -/
def Rounding.search (r : Rounding) : Nat → Int → Nat × Int
  | 0, position => (r.numerator * powerOfTen (-position).toNat / r.denominator, position)
  | tries + 1, position =>
      match r.nearest? position with
      | some digits => (digits, position)
      | none => r.search tries (position - 1)

def dropZeros : Nat → Nat → Decimal
  | digits, 0 => { digits := digits, scale := 0 }
  | digits, places + 1 =>
      if digits % 10 = 0 then dropZeros (digits / 10) places
      else { digits := digits, scale := (places + 1 : Nat) }

/-- The shortest decimal for a finite double.  Its scale is the number of digits that its
positional text has behind the point. -/
def ofFloat (x : Float) : Decimal :=
  let bits := x.toBits.toNat
  let magnitude := bits % 9223372036854775808
  if magnitude = 0 then
    { digits := 0, scale := 0 }
  else
    let r := Rounding.ofBits magnitude
    let (digits, position) := r.search 17 r.leading
    let result := dropZeros (digits * powerOfTen position.toNat) (-position).toNat
    if 9223372036854775808 ≤ bits then result.neg else result

end Decimal
end ScriptLang
