import ScriptLang.Evaluation.Statement
import ScriptLang.Proofs.Classes
import ScriptLang.Proofs.Erasure
import ScriptLang.Proofs.Names

/-!
Closed expressions.

A closed expression is built from constants, groups and the operators that apply to values, so it
means the same in every scope.  On these the static rules are exact: what they give a type
evaluates to a value of that class, unless an arithmetic operation has no result, and what evaluates
to a value they give the type of its class.
-/

namespace ScriptLang

open Typing

/-- The constants that programs may contain: integers of at most 32 bits, and decimals that a double
can come near to. -/
def Literal.inRange : Literal → Bool
  | .integer value => value.natAbs < 4294967296
  | .decimal value => value.fitsDouble
  | _ => true

/-- Built from constants in range, groups, and operators other than the logical ones. -/
def Expr.isClosed : Expr → Bool
  | .literal value _ _ => value.inRange
  | .group inner _ _ => inner.isClosed
  | .binary op left right _ _ => !op.isLogical && left.isClosed && right.isClosed
  | _ => false

/-- The causes for which an operation on numbers has no result. -/
inductive Cause.Arithmetic : Cause → Prop where
  | divisionByZero : Arithmetic .divisionByZero
  | exponent (exponent : Int) (unfit : exponent < 0 ∨ 4294967296 ≤ exponent) :
      Arithmetic (.invalidOperand "^" ("exponent " ++ toString exponent))

/-! ### The types of classes -/

theorem BinaryOp.Refused.arithmetic {op : BinaryOp} {left right : Value} {cause : Cause}
    (refused : Refused op left right cause) : cause.Arithmetic := by
  cases refused with
  | division => exact .divisionByZero
  | exponent base exponent unfit => exact .exponent exponent unfit

theorem Value.concrete_of_className {value : Value} {ty : Ty}
    (hasClass : value.className = ty.name) : ty.Concrete := by
  constructor
  · rintro rfl
    cases value with
    | _ => simp [className, Ty.name] at hasClass
  · rintro rfl
    cases value with
    | _ => simp [className, Ty.name] at hasClass

theorem Value.className_of_order? {left right : Value} {order : Ordering}
    (ordered : left.order? right = some order) :
    left.className = right.className ∧ ∀ truth, left ≠ .boolean truth := by
  unfold Value.order? at ordered
  split at ordered
  · exact ⟨rfl, nofun⟩
  · exact ⟨rfl, nofun⟩
  · exact ⟨rfl, nofun⟩
  · exact ⟨rfl, nofun⟩
  · exact ⟨rfl, nofun⟩
  · cases ordered

theorem Literal.literalTy_of_inRange {value : Literal} (inRange : value.inRange = true)
    (offset : Nat) : ∃ ty, literalTy value offset = .ok ty := by
  cases value with
  | integer value =>
      have fits : value.natAbs < integerLimit := of_decide_eq_true inRange
      refine ⟨.integer, ?_⟩
      rw [literalTy, if_pos fits]
  | decimal value =>
      have fits : value.fitsDouble = true := inRange
      refine ⟨.decimal, ?_⟩
      rw [literalTy, if_pos fits]
  | _ =>
      exact ⟨_, rfl⟩

namespace BinaryOp

variable {op : BinaryOp} {leftTy rightTy : Ty} {left right value : Value}

theorem Yielded.typed (yielded : Yielded op left right value)
    (isArithmetic : op = .add ∨ op = .subtract ∨ op = .multiply ∨ op = .divide)
    (leftClass : left.className = leftTy.name) (rightClass : right.className = rightTy.name) :
    ∃ ty, OperatorTyped op leftTy rightTy ty := by
  cases yielded with
  | number sameLeft sameRight isNumber =>
      obtain rfl : leftTy = rightTy := by
        apply Ty.name_injective
        rw [← leftClass, ← sameLeft, sameRight, rightClass]
      rw [sameLeft, leftClass] at isNumber
      refine ⟨leftTy, .arithmetic isArithmetic ?_⟩
      exact isNumber.imp (fun named => @Ty.name_injective _ .integer named)
        fun named => @Ty.name_injective _ .decimal named
  | joined isAdd oneString isString =>
      subst isAdd
      rw [leftClass, rightClass] at oneString
      refine ⟨.string, .join ?_⟩
      exact oneString.imp (fun named => @Ty.name_injective _ .string named)
        fun named => @Ty.name_injective _ .string named

theorem typed_of_compare
    (isComparison : op = .less ∨ op = .greater ∨ op = .equals ∨ op = .notEquals)
    (leftClass : left.className = leftTy.name) (rightClass : right.className = rightTy.name)
    (applied : op.compareValues left right = .ok value) :
    ∃ ty, OperatorTyped op leftTy rightTy ty := by
  unfold compareValues at applied
  cases ordered : left.order? right with
  | none =>
      rw [ordered] at applied
      cases applied
  | some order =>
      obtain ⟨sameClass, notBoolean⟩ := Value.className_of_order? ordered
      rw [leftClass, rightClass] at sameClass
      obtain rfl := Ty.name_injective sameClass
      refine ⟨.boolean, .comparison isComparison ?_⟩
      rintro rfl
      obtain ⟨truth, isBoolean⟩ := Value.eq_boolean leftClass
      exact notBoolean truth isBoolean

/-- An operator that applies to values of two classes is one that the types of these classes
admit. -/
theorem typed_of_apply (leftClass : left.className = leftTy.name)
    (rightClass : right.className = rightTy.name) (applied : op.apply left right = .ok value) :
    ∃ ty, OperatorTyped op leftTy rightTy ty := by
  cases op with
  | and | or => cases applied
  | less | greater | equals | notEquals =>
      exact typed_of_compare (by decide) leftClass rightClass applied
  | add => exact (yielded_of_add applied).typed (by decide) leftClass rightClass
  | subtract => exact (yielded_of_subtract applied).typed (by decide) leftClass rightClass
  | multiply => exact (yielded_of_multiply applied).typed (by decide) leftClass rightClass
  | divide => exact (yielded_of_divide applied).typed (by decide) leftClass rightClass
  | power =>
      simp only [apply, powerValues] at applied
      split at applied
      · obtain rfl := @Ty.name_injective .integer _ leftClass
        obtain rfl := @Ty.name_injective .integer _ rightClass
        exact ⟨.integer, .power⟩
      · cases applied

end BinaryOp

/-! ### Both sides of a closed expression -/

theorem Eval.expr_applied {op : BinaryOp} (notLogical : op.isLogical = false) {call : Invocation}
    (left right : Expr) (span : Span) (ty : Option Ty) :
    Eval.expr call (.binary op left right span ty) = (do
      let leftValue ← Eval.expr call left
      let rightValue ← Eval.expr call right
      Eval.applyOperator op leftValue rightValue span.start) := by
  rw [Eval.expr, notLogical]
  rfl

/-- How the check of an expression and its evaluation go together. -/
inductive Tallies (checked : Except Fault (Expr × Ty)) (step : Eval Value) : Prop where
  | value {decorated : Expr} {ty : Ty} {value : Value} (accepted : checked = .ok (decorated, ty))
      (hasClass : value.className = ty.name) (yields : step = pure value)
  | arithmetic {decorated : Expr} {ty : Ty} {cause : Cause} {offset : Nat}
      (accepted : checked = .ok (decorated, ty)) (isArithmetic : cause.Arithmetic)
      (fails : step = Eval.fail cause offset)
  | rejected {fault : Fault} {cause : Cause} {offset : Nat} (rejects : checked = .error fault)
      (fails : step = Eval.fail cause offset)

namespace Tallies

variable {scope : StaticScope} {context : Option Ty} {call : Invocation}

theorem of_literal {value : Literal} (inRange : value.inRange = true) (span : Span)
    (old : Option Ty) :
    Tallies (checkExpr scope context (.literal value span old))
      (Eval.expr call (.literal value span old)) := by
  obtain ⟨ty, typed⟩ := Literal.literalTy_of_inRange inRange span.start
  rw [checkExpr, Eval.expr, typed]
  exact .value rfl (concrete_of_literalTy typed).2 rfl

theorem of_group {inner : Expr} (inside : Tallies (checkExpr scope context inner)
    (Eval.expr call inner)) (span : Span) (old : Option Ty) :
    Tallies (checkExpr scope context (.group inner span old))
      (Eval.expr call (.group inner span old)) := by
  rw [checkExpr, Eval.expr]
  cases inside with
  | value accepted hasClass yields =>
      rw [accepted]
      exact .value rfl hasClass yields
  | arithmetic accepted isArithmetic fails =>
      rw [accepted]
      exact .arithmetic rfl isArithmetic fails
  | rejected rejects fails =>
      rw [rejects]
      exact .rejected rfl fails

theorem of_failing {checked : Except Fault (Expr × Ty)} {cause : Cause} {offset : Nat}
    (isArithmetic : cause.Arithmetic) : Tallies checked (Eval.fail cause offset) := by
  cases checked with
  | ok accepted => exact .arithmetic rfl isArithmetic rfl
  | error fault => exact .rejected rfl rfl

/-- An operator on two values is admitted for their types exactly when it applies to them, or fails
for an arithmetic cause. -/
theorem of_operator {op : BinaryOp} (notLogical : op.isLogical = false)
    {leftTy rightTy : Ty} {leftValue rightValue : Value}
    (leftClass : leftValue.className = leftTy.name)
    (rightClass : rightValue.className = rightTy.name) (left right : Expr) (span : Span) :
    Tallies (do
        let ty ← binaryTy op leftTy rightTy left.start right.start
        return (.binary op left right span (some ty), ty))
      (Eval.applyOperator op leftValue rightValue span.start) := by
  have leftConcrete := Value.concrete_of_className leftClass
  have rightConcrete := Value.concrete_of_className rightClass
  unfold Eval.applyOperator
  cases applied : op.apply leftValue rightValue with
  | ok value =>
      obtain ⟨ty, typed⟩ := BinaryOp.typed_of_apply leftClass rightClass applied
      rw [binaryTy_eq_ok.mpr typed]
      exact .value rfl (BinaryOp.className_of_apply typed notLogical (fun _ => .inl leftClass)
        (fun _ => .inl rightClass) applied) rfl
  | error cause =>
      dsimp only
      cases admitted : binaryTy op leftTy rightTy left.start right.start with
      | ok ty =>
          have refused := BinaryOp.refused_of_apply (binaryTy_eq_ok.mp admitted) notLogical
            leftConcrete rightConcrete (fun _ => leftClass) (fun _ => rightClass) applied
          exact .of_failing refused.arithmetic
      | error fault =>
          exact .rejected rfl rfl

end Tallies

/-- Checking a closed expression and evaluating it go together, by induction on the expression. -/
theorem Expr.tallies_of_closed {e : Expr} (closed : e.isClosed = true) (scope : StaticScope)
    (context : Option Ty) (call : Invocation) :
    Tallies (checkExpr scope context e) (Eval.expr call e) := by
  cases e with
  | literal value span old =>
      exact .of_literal closed span old
  | group inner span old =>
      exact .of_group (inner.tallies_of_closed closed scope context call) span old
  | binary op left right span old =>
      rw [isClosed, Bool.and_eq_true, Bool.and_eq_true, Bool.not_eq_true'] at closed
      obtain ⟨⟨notLogical, leftClosed⟩, rightClosed⟩ := closed
      have leftTallies := left.tallies_of_closed leftClosed scope none call
      have rightTallies := right.tallies_of_closed rightClosed scope none call
      rw [checkExpr, Eval.expr_applied notLogical]
      cases leftTallies with
      | rejected rejects fails =>
          rw [rejects, fails]
          exact .rejected rfl rfl
      | arithmetic accepted isArithmetic fails =>
          rw [fails]
          exact .of_failing isArithmetic
      | value leftAccepted leftClass leftYields =>
          rw [leftAccepted, leftYields]
          cases rightTallies with
          | rejected rejects fails =>
              rw [rejects, fails]
              exact .rejected rfl rfl
          | arithmetic accepted isArithmetic fails =>
              rw [fails]
              exact .of_failing isArithmetic
          | value rightAccepted rightClass rightYields =>
              rw [rightAccepted, rightYields]
              exact .of_operator notLogical leftClass rightClass _ _ span
  | access | element | call | list =>
      cases closed

/-! ### What checking writes into an expression does not show -/

theorem Expr.start_erased (e : Expr) : e.erased.start = e.start := by
  cases e with
  | _ => rfl

namespace Eval

mutual

theorem expr_erased (call : Invocation) (e : Expr) : expr call e.erased = expr call e := by
  cases e with
  | literal value span old =>
      rfl
  | group inner span old =>
      rw [Expr.erased, expr, expr, expr_erased call inner]
  | binary op left right span old =>
      rw [Expr.erased, expr, expr, expr_erased call left, expr_erased call right]
  | access name span old target =>
      rfl
  | element name index span old target =>
      rw [Expr.erased, expr, expr, expr_erased call index, index.start_erased]
  | call name arguments span old callee =>
      rw [Expr.erased, expr, expr, exprs_erased call arguments]
  | list elements span old =>
      rw [Expr.erased, expr, expr, exprs_erased call elements]

theorem exprs_erased (call : Invocation) (es : List Expr) :
    exprs call (erasedExprs es) = exprs call es := by
  cases es with
  | nil => rfl
  | cons first rest =>
      rw [erasedExprs, exprs, exprs, expr_erased call first, exprs_erased call rest]

end

theorem expr_of_check {scope : StaticScope} {context : Option Ty} {e decorated : Expr} {ty : Ty}
    (checked : checkExpr scope context e = .ok (decorated, ty)) (call : Invocation) :
    expr call decorated = expr call e := by
  rw [← expr_erased, checkExpr_erased e checked, expr_erased]

end Eval

/-! ### Exactness -/

/-- The check of a closed expression is exact.  One that gets a type evaluates to a value of that
class, with or without the decorations, or fails for an arithmetic cause; one that evaluates to a
value gets the type of its class. -/
theorem Expr.typing_exact_of_closed {e : Expr} (closed : e.isClosed = true) (scope : StaticScope)
    (context : Option Ty) (call : Invocation) (state : State) :
    (∀ decorated ty, checkExpr scope context e = .ok (decorated, ty) →
      Eval.expr call decorated state = Eval.expr call e state ∧
        ((∃ value, Eval.expr call e state = .ok value state ∧ value.className = ty.name) ∨
          ∃ fault, Eval.expr call e state = .error (.fault fault) state ∧
            fault.cause.Arithmetic)) ∧
      ∀ value after, Eval.expr call e state = .ok value after →
        ∃ decorated ty, checkExpr scope context e = .ok (decorated, ty) ∧
          value.className = ty.name := by
  have tallies := e.tallies_of_closed closed scope context call
  constructor
  · intro decorated ty checked
    refine ⟨by rw [Eval.expr_of_check checked], ?_⟩
    cases tallies with
    | value accepted hasClass yields =>
        obtain ⟨rfl, rfl⟩ := Prod.mk.inj (Except.ok.inj (accepted.symm.trans checked))
        rw [yields]
        exact .inl ⟨_, rfl, hasClass⟩
    | arithmetic accepted isArithmetic fails =>
        rw [fails]
        exact .inr ⟨_, rfl, isArithmetic⟩
    | rejected rejects fails =>
        cases rejects.symm.trans checked
  · intro value after ended
    cases tallies with
    | value accepted hasClass yields =>
        rw [yields] at ended
        cases ended
        exact ⟨_, _, accepted, hasClass⟩
    | arithmetic accepted isArithmetic fails =>
        rw [fails] at ended
        cases ended
    | rejected rejects fails =>
        rw [fails] at ended
        cases ended

def shareExpression : Expr :=
  let here : Span := { start := 0, stop := 0 }
  let number (value : Int) : Expr := .literal (.integer value) here none
  let exponent : Expr := .group (.binary .add (number 1) (number 1) here none) here none
  let power : Expr := .binary .power (number 7) exponent here none
  .binary .add (.literal (.string "share: ") here none)
    (.binary .divide power (number 2) here none) here none

theorem Expr.typing_exact_of_closed_share :
    shareExpression.isClosed = true ∧
      ∃ decorated value,
        checkExpr (.ofGlobals builtinFrame) none shareExpression = .ok (decorated, .string) ∧
          Eval.expr (Eval.invoke 0) decorated (.initial .unlimited) =
            .ok value (.initial .unlimited) ∧
          value.display = "share: 24" := by
  have closed : shareExpression.isClosed = true := by decide
  obtain ⟨typed, evaluated⟩ := Expr.typing_exact_of_closed closed (.ofGlobals builtinFrame) none
    (Eval.invoke 0) (.initial .unlimited)
  have ended : Eval.expr (Eval.invoke 0) shareExpression (.initial .unlimited) =
      .ok (.string "share: 24") (.initial .unlimited) := by
    rfl
  obtain ⟨decorated, ty, checked, hasClass⟩ := evaluated _ _ ended
  obtain rfl : Ty.string = ty := Ty.name_injective hasClass
  refine ⟨closed, decorated, .string "share: 24", checked, ?_, rfl⟩
  rw [(typed decorated .string checked).1, ended]

end ScriptLang
