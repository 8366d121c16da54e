import ScriptLang.Decimal.Basic

/-!
Reading numerals.

A whole numeral is an optional sign, a digit, and then digits or underscores; underscores
carry no meaning.  A decimal numeral may have one point inside, and an exponent behind `e` or
`E`.
-/

namespace ScriptLang
namespace Numeral

/-- The value of a run of digits in which underscores are skipped; `none` at any other
character. -/
def digitRun : Nat → List Char → Option Nat
  | value, [] => some value
  | value, c :: rest =>
      if c = '_' then digitRun value rest
      else if c.isDigit then digitRun (10 * value + (c.toNat - '0'.toNat)) rest
      else none

/-- An unsigned whole numeral: it starts with a digit. -/
def natural? : List Char → Option Nat
  | [] => none
  | c :: rest => if c.isDigit then digitRun 0 (c :: rest) else none

def integer? : List Char → Option Int
  | '-' :: rest => (natural? rest).map fun n => -(n : Int)
  | '+' :: rest => (natural? rest).map fun n => (n : Int)
  | text => (natural? text).map fun n => (n : Int)

/-- An exponent is a whole numeral without underscores. -/
def exponent? (text : List Char) : Option Int :=
  if text.contains '_' then none else integer? text

/-- The digits of a mantissa with its point removed, and the number of digits behind the
point.  A point at the very end counts for nothing. -/
def mantissa? (text : List Char) : Option (Int × Nat) :=
  let whole := text.takeWhile (· != '.')
  let fraction := (text.dropWhile (· != '.')).drop 1
  (integer? (whole ++ fraction)).map fun digits =>
    (digits, fraction.countP (· != '_'))

/-- Scales are 64-bit words. -/
def isScale (scale : Int) : Bool :=
  -9223372036854775808 ≤ scale && scale ≤ 9223372036854775807

private def isExponentMark (c : Char) : Bool :=
  c == 'e' || c == 'E'

def decimal? (text : List Char) : Option Decimal :=
  let mantissa := text.takeWhile fun c => !isExponentMark c
  let exponent :=
    match text.dropWhile fun c => !isExponentMark c with
    | [] => some 0
    | _ :: power => exponent? power
  match exponent, mantissa? mantissa with
  | some exponent, some (digits, places) =>
      let scale := (places : Int) - exponent
      if isScale scale then some { digits := digits, scale := scale } else none
  | _, _ => none

end Numeral
end ScriptLang
