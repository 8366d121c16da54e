import ScriptLang.Decimal.Quotient
import ScriptLang.Value

/-!
Operators on values.

The classes of the two values choose what an operator does, whatever was found out about them
statically.
-/

namespace ScriptLang

def integerPower (base : Int) (exponent : Nat) : Int :=
  if base.natAbs ≤ 1 then
    if exponent = 0 then 1
    else if exponent % 2 = 0 then base.natAbs
    else base
  else
    let magnitude : Int := Nat.pow base.natAbs exponent
    if base < 0 ∧ exponent % 2 = 1 then -magnitude else magnitude

namespace BinaryOp

/-- Whether the operator is decided by its left side alone when that is true or false. -/
def isLogical : BinaryOp → Bool
  | and | or => true
  | _ => false

def mismatch (op : BinaryOp) (left right : Value) : Cause :=
  .invalidOperand op.symbol (left.className ++ " and " ++ right.className)

def verdict? : BinaryOp → Ordering → Option Bool
  | less, order => some (order == .lt)
  | greater, order => some (order == .gt)
  | equals, order => some (order == .eq)
  | notEquals, order => some (order != .eq)
  | _, _ => none

def compareValues (op : BinaryOp) (left right : Value) : Except Cause Value :=
  match (left.order? right).bind op.verdict? with
  | some verdict => .ok (.boolean verdict)
  | none => .error (op.mismatch left right)

/-- The power of an integer; the exponent is an unsigned 32-bit number. -/
def powerValue (base exponent : Int) : Except Cause Value :=
  if 0 ≤ exponent ∧ exponent < 4294967296 then
    .ok (.integer (integerPower base exponent.toNat))
  else
    .error (.invalidOperand power.symbol ("exponent " ++ toString exponent))

def addValues (left right : Value) : Except Cause Value :=
  match left, right with
  | .string _, _ | _, .string _ => .ok (.string (left.display ++ right.display))
  | .integer a, .integer b => .ok (.integer (a + b))
  | .decimal a, .decimal b => .ok (.decimal (a.add b))
  | _, _ => .error (add.mismatch left right)

def subtractValues (left right : Value) : Except Cause Value :=
  match left, right with
  | .integer a, .integer b => .ok (.integer (a - b))
  | .decimal a, .decimal b => .ok (.decimal (a.sub b))
  | _, _ => .error (subtract.mismatch left right)

def multiplyValues (left right : Value) : Except Cause Value :=
  match left, right with
  | .integer a, .integer b => .ok (.integer (a * b))
  | .decimal a, .decimal b => .ok (.decimal (a.mul b))
  | _, _ => .error (multiply.mismatch left right)

/-- A quotient: of integers cut off toward zero, of decimals rounded. -/
def divideValues (left right : Value) : Except Cause Value :=
  match left, right with
  | .integer a, .integer b =>
      if b = 0 then .error .divisionByZero else .ok (.integer (a.tdiv b))
  | .decimal a, .decimal b =>
      if b.isZero then .error .divisionByZero else .ok (.decimal (a.div b))
  | _, _ => .error (divide.mismatch left right)

def powerValues (left right : Value) : Except Cause Value :=
  match left, right with
  | .integer a, .integer b => powerValue a b
  | _, _ => .error (power.mismatch left right)

/-- Applies an operator to two values.  The logical operators are not applied to values but
decided while their sides are evaluated. -/
def apply (op : BinaryOp) (left right : Value) : Except Cause Value :=
  match op with
  | and | or => .error (op.mismatch left right)
  | less | greater | equals | notEquals => op.compareValues left right
  | add => addValues left right
  | subtract => subtractValues left right
  | multiply => multiplyValues left right
  | divide => divideValues left right
  | power => powerValues left right

end BinaryOp
end ScriptLang
