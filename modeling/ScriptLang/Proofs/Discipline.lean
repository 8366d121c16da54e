import Mathlib.Data.List.Forall2
import ScriptLang.Evaluation.Builtin
import ScriptLang.Evaluation.Operator
import ScriptLang.Evaluation.State
import ScriptLang.Proofs.Rules

/-!
What static types promise of values.

A discipline says which values may stand for a static type, what may be put where, how many
elements lists may have, which types variables and results may have, which variables may stay
without a value, and which causes may stop a run.  Its laws are about single constants,
operators and built-in functions; that whole programs keep to it is proved elsewhere, for every
discipline at once.
-/

namespace ScriptLang

def Ends {α : Type} (result : Except Cause α) (good : α → Prop) (permits : Cause → Prop) :
    Prop :=
  match result with
  | .ok value => good value
  | .error cause => permits cause

structure Discipline where
  /-- Whether a value may stand where an expression of that type is evaluated. -/
  holds : Ty → Value → Prop
  /-- Whether what is found to have the second type may be put where the first is expected; the
  first has to accept the second besides. -/
  admits : Ty → Ty → Prop
  /-- How many elements a list variable may have. -/
  sizes : Variable → Nat → Prop
  /-- The types that variables and results of functions may have. -/
  names : Ty → Prop
  /-- The types of variables that may have no initial value, and of functions that may end
  without a result. -/
  blank : Ty → Prop
  /-- The causes that may stop a run. -/
  permits : Cause → Prop
  holds_any : ∀ value, holds .any value
  holds_of_accepts : ∀ {target source : Ty} {value : Value},
    target.accepts source = true → admits target source → holds source value → holds target value
  holds_nil : ∀ {ty : Ty}, blank ty → holds ty .nil
  holds_boolean : ∀ value, holds .boolean (.boolean value)
  holds_literal : ∀ {literal : Literal} {offset : Nat} {ty : Ty},
    Typing.literalTy literal offset = .ok ty → holds ty (.ofLiteral literal)
  names_concrete : ∀ {ty : Ty}, ty.Concrete → names ty
  truth : ∀ {value : Value}, holds .boolean value →
    (∃ b, value = .boolean b) ∨ ∀ operator, permits (.invalidOperand operator value.className)
  position : ∀ {value : Value}, holds .integer value →
    (∃ i, value = .integer i) ∨ permits (.invalidOperand "[]" value.className)
  outOfRange : ∀ index length, permits (.indexOutOfRange index length)
  operator : ∀ {op : BinaryOp} {leftTy rightTy ty : Ty} {left right : Value}, names leftTy →
    names rightTy → op.isLogical = false → OperatorTyped op leftTy rightTy ty →
    holds leftTy left → holds rightTy right → Ends (op.apply left right) (holds ty) permits
  builtin : ∀ {builtin : Builtin} {arguments : List Value} (sink : Sink),
    List.Forall₂ holds builtin.parameterTypes arguments →
    Ends (builtin.apply arguments sink).1 (holds builtin.returnType) permits

/-- What is found to have the type `source` may be put where `target` is expected. -/
structure Discipline.Accepts (D : Discipline) (target source : Ty) : Prop where
  accepted : target.accepts source = true
  admitted : D.admits target source

theorem Discipline.Accepts.holds {D : Discipline} {target source : Ty} {value : Value}
    (accepts : D.Accepts target source) (sourceHolds : D.holds source value) :
    D.holds target value :=
  D.holds_of_accepts accepts.accepted accepts.admitted sourceHolds

/-- The stops of a run that a discipline permits; that fuel is used up is no fault. -/
def Discipline.Allows (D : Discipline) : Stop → Prop
  | .fault fault => D.permits fault.cause
  | .outOfFuel => True

end ScriptLang
