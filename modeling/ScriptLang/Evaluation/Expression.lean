import ScriptLang.Evaluation.Operator
import ScriptLang.Evaluation.State

/-!
Evaluating expressions.

The meaning of a call is a parameter here, so that evaluation is a recursion on the expression
alone.  Operands, arguments and elements are evaluated from left to right.
-/

namespace ScriptLang

/-- How a function is called: with its arguments and the offset that faults of the call have. -/
abbrev Invocation := Function → List Value → Nat → Eval Value

namespace Eval

def expectBoolean (operator : String) (offset : Nat) (value : Value) : Eval Bool :=
  match value with
  | .boolean value => return value
  | other => fail (.invalidOperand operator other.className) offset

def expectIndex (offset : Nat) (value : Value) : Eval Int :=
  match value with
  | .integer index => return index
  | other => fail (.invalidOperand "[]" other.className) offset

def outOfRange {α : Type} (index : Int) (length offset : Nat) : Eval α :=
  fail (.indexOutOfRange (toString index) length) offset

def elementAt (list : Value) (index : Int) (offset : Nat) : Eval Value :=
  match list with
  | .list elements =>
      match if index < 0 then none else elements[index.toNat]? with
      | some element => return element
      | none => outOfRange index elements.length offset
  | other => fail (.invalidOperand "[]" other.className) offset

def applyOperator (op : BinaryOp) (left right : Value) (offset : Nat) : Eval Value :=
  match op.apply left right with
  | .ok value => return value
  | .error cause => fail cause offset

/-- The value of a logical expression whose left side is known; the right side is evaluated
only if it decides. -/
def logical (op : BinaryOp) (offset : Nat) (left : Value) (right : Eval Value) :
    Eval Value := do
  let left ← expectBoolean op.symbol offset left
  if (op == .and) != left then
    return .boolean left
  else
    return .boolean (← expectBoolean op.symbol offset (← right))

mutual

def expr (invoke : Invocation) : Expr → Eval Value
  | .literal value _ _ => return .ofLiteral value
  | .group inner _ _ => expr invoke inner
  | .binary op left right span _ => do
      let leftValue ← expr invoke left
      if op.isLogical then
        logical op span.start leftValue (expr invoke right)
      else
        let rightValue ← expr invoke right
        applyOperator op leftValue rightValue span.start
  | .access name span _ _ => do
      let cell ← lookupVariable name span.start
      return cell.value
  | .element name index span _ _ => do
      let _ ← lookupVariable name span.start
      let position ← expectIndex index.start (← expr invoke index)
      let cell ← lookupVariable name span.start
      elementAt cell.value position span.start
  | .call name arguments span _ _ => do
      let values ← exprs invoke arguments
      let function ← lookupFunction (name, values.length) span.start
      invoke function values span.start
  | .list elements _ _ => do
      let values ← exprs invoke elements
      return .list values

def exprs (invoke : Invocation) : List Expr → Eval (List Value)
  | [] => return []
  | first :: rest => do
      let value ← expr invoke first
      let values ← exprs invoke rest
      return value :: values

end

def index (invoke : Invocation) (e : Expr) : Eval Int := do
  expectIndex e.start (← expr invoke e)

def condition (invoke : Invocation) (e : Expr) : Eval Bool := do
  expectBoolean "condition" e.start (← expr invoke e)

end Eval
end ScriptLang
