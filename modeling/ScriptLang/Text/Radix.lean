/-!
Integers in other radices.
-/

namespace ScriptLang
namespace Text

def radixDigit (value : Nat) : Char :=
  if value < 10 then Char.ofNat ('0'.toNat + value) else Char.ofNat ('a'.toNat + (value - 10))

/-- The digits of a number in front of those already found.  A radix below two has none. -/
def radixDigits (radix number : Nat) (found : List Char) : List Char :=
  if radix < 2 ∨ number < radix then
    radixDigit number :: found
  else
    radixDigits radix (number / radix) (radixDigit (number % radix) :: found)
termination_by number
decreasing_by
  apply Nat.div_lt_self <;> omega

def inRadix (number : Int) (radix : Nat) : String :=
  let magnitude := String.ofList (radixDigits radix number.natAbs [])
  if number < 0 then "-" ++ magnitude else magnitude

end Text
end ScriptLang
