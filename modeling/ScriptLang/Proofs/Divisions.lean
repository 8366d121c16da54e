import ScriptLang.Proofs.MomentPaths
import ScriptLang.Proofs.Preservation
import ScriptLang.Proofs.Quotients

/-!
Divisions of decimals in runs.

The quotients of decimals that a run evaluates are rounded half to even as long as the scales of
the divisors are smaller than `2 ^ 32` in magnitude.  A product adds the scales of its factors, so
a run can come to a divisor of a larger scale, and then to another quotient.
-/

namespace ScriptLang

variable {left right : Expr} {span : Span} {state middle after : State}

theorem Value.eq_decimal_of_notNil {value : Value} (hasClass : value.HasClassOrNil .decimal)
    (notNil : value ≠ .nil) : ∃ d, value = .decimal d := by
  rcases hasClass (by decide) with isDecimal | isNil
  · exact Value.eq_decimal isDecimal
  · exact absurd isNil notNil

theorem ExprTyped.operands_of_decimal {D : Discipline} {scope : StaticScope} {context : Option Ty}
    {found : Ty}
    (typed : ExprTyped D scope context (.binary .divide left right span (some .decimal)) found) :
    ExprTyped D scope none left .decimal ∧ ExprTyped D scope none right .decimal := by
  cases typed with
  | binary leftTyped rightTyped rule =>
      cases rule with
      | arithmetic isArithmetic isNumber => exact ⟨leftTyped, rightTyped⟩

theorem Eval.expr_divide {call : Invocation} {a b : Decimal} (span : Span) (ty : Option Ty)
    (leftValue : Eval.expr call left state = .ok (.decimal a) middle)
    (rightValue : Eval.expr call right middle = .ok (.decimal b) after) :
    Eval.expr call (.binary .divide left right span ty) state =
      if b.digits = 0 then
        .error (.fault { cause := .divisionByZero, offset := span.start }) after
      else
        .ok (.decimal (a.div b)) after := by
  rw [Eval.expr, step_bind_of_ok leftValue]
  change ((do
    let rightValue ← Eval.expr call right
    Eval.applyOperator .divide (.decimal a) rightValue span.start) : Eval Value) middle = _
  rw [step_bind_of_ok rightValue]
  unfold Eval.applyOperator BinaryOp.apply BinaryOp.divideValues Decimal.isZero
  dsimp only
  by_cases zero : b.digits = 0
  · rw [zero]
    rfl
  · rw [if_neg zero, if_neg (by simpa using zero)]
    rfl

/-- What a run of a checked program divides as decimals are decimals, unless it is Nil, and the
quotient is exact where the divisor's scale fits 32 bits. -/
theorem run_dividesDecimals {text file : String} {source : Source}
    (checked : Program.check text file = .ok source) (fuel : Nat) (sink : Sink) {moment : Moment}
    (reaches : source.Reaches fuel sink moment)
    (taskEq : moment.task = .expression (.binary .divide left right span (some .decimal)))
    {dividend divisor : Value}
    (leftValue : Eval.expr (Eval.invoke moment.fuel) left moment.state = .ok dividend middle)
    (rightValue : Eval.expr (Eval.invoke moment.fuel) right middle = .ok divisor after)
    (dividendFound : dividend ≠ .nil) (divisorFound : divisor ≠ .nil) :
    ∃ a b, dividend = .decimal a ∧ divisor = .decimal b ∧
      (b.digits = 0 →
        Eval.expr (Eval.invoke moment.fuel) (.binary .divide left right span (some .decimal))
            moment.state =
          .error (.fault { cause := .divisionByZero, offset := span.start }) after) ∧
      (b.digits ≠ 0 → b.scale.natAbs < 4294967296 → ∃ quotient,
        Eval.expr (Eval.invoke moment.fuel) (.binary .divide left right span (some .decimal))
            moment.state = .ok (.decimal quotient) after ∧ a.IsQuotient b quotient) := by
  obtain ⟨early, globals, typed⟩ := Program.typed_of_check checked
  have taskTyped := (momentTyped_of_reaches typed reaches).task
  rw [taskEq] at taskTyped
  cases taskTyped with
  | expression exprTyped stateTyped =>
      obtain ⟨leftTyped, rightTyped⟩ := exprTyped.operands_of_decimal
      obtain ⟨leftHolds, middleTyped⟩ := stateTyped.after_expr leftTyped leftValue
      obtain ⟨rightHolds, _⟩ := middleTyped.after_expr rightTyped rightValue
      obtain ⟨a, rfl⟩ := Value.eq_decimal_of_notNil leftHolds dividendFound
      obtain ⟨b, rfl⟩ := Value.eq_decimal_of_notNil rightHolds divisorFound
      refine ⟨a, b, rfl, rfl, ?_, ?_⟩
      · intro zero
        rw [Eval.expr_divide span _ leftValue rightValue, if_pos zero]
      · intro nonzero small
        refine ⟨a.div b, ?_, (Decimal.isQuotient_iff nonzero small).mpr rfl⟩
        rw [Eval.expr_divide span _ leftValue rightValue, if_neg nonzero]

/-! ### Fixed programs -/

def Moment.decimals? (moment : Moment) : Option (Decimal × Decimal) :=
  match moment.task with
  | .expression (.binary .divide left right _ (some .decimal)) =>
      match Eval.expr (Eval.invoke moment.fuel) left moment.state with
      | .ok (.decimal a) middle =>
          match Eval.expr (Eval.invoke moment.fuel) right middle with
          | .ok (.decimal b) _ => some (a, b)
          | _ => none
      | _ => none
  | _ => none

theorem Moment.decimals?_eq_some {moment : Moment} {a b : Decimal}
    (found : moment.decimals? = some (a, b)) :
    ∃ left right span middle after,
      moment.task = .expression (.binary .divide left right span (some .decimal)) ∧
      Eval.expr (Eval.invoke moment.fuel) left moment.state = .ok (.decimal a) middle ∧
      Eval.expr (Eval.invoke moment.fuel) right middle = .ok (.decimal b) after := by
  unfold decimals? at found
  split at found
  · rename_i taskEq
    split at found
    · rename_i leftValue
      split at found
      · rename_i rightValue
        cases found
        exact ⟨_, _, _, _, _, taskEq, leftValue, rightValue⟩
      · cases found
    · cases found
  · cases found

/-- A third of one is rounded to one place. -/
theorem run_dividesDecimals_third :
    ∃ source moment e quotient after,
      Program.check "FUN main(): Integer DO LET q = 1.0 / 3.0; RETURN 0; END" "third" =
        .ok source ∧
      source.Reaches 9 .unlimited moment ∧ moment.task = .expression e ∧
      Eval.expr (Eval.invoke moment.fuel) e moment.state = .ok (.decimal quotient) after ∧
      Decimal.IsQuotient ⟨10, 1⟩ ⟨30, 1⟩ quotient := by
  have computed : ((Program.check "FUN main(): Integer DO LET q = 1.0 / 3.0; RETURN 0; END"
      "third").toOption.bind fun source =>
        ((source.start 9 .unlimited).follow? [2, 0, 0, 0]).map fun moment => moment.decimals?) =
        some (some (⟨10, 1⟩, ⟨30, 1⟩)) := by
    decide +kernel
  obtain ⟨source, moment, checked, reaches, seen⟩ := Program.exists_moment _ _ computed
  obtain ⟨left, right, span, middle, after, taskEq, leftValue, rightValue⟩ :=
    Moment.decimals?_eq_some seen
  obtain ⟨a, b, aEq, bEq, _, divides⟩ := run_dividesDecimals checked 9 .unlimited reaches taskEq
    leftValue rightValue (by simp) (by simp)
  cases aEq
  cases bEq
  obtain ⟨quotient, evaluated, isQuotient⟩ := divides (by decide) (by decide)
  exact ⟨source, moment, _, quotient, after, checked, reaches, taskEq, evaluated, isQuotient⟩

/-- A program that squares a tenth 32 times and divides one by it. -/
def tenthText : String :=
  "FUN main(): Integer DO LET x = 0.1; LET i = 0; WHILE i < 32 DO x = x * x; i = i + 1; END "
    ++ "IF 1.0 / x == 1.0 DO RETURN 1; END RETURN 0; END"

/-- A tenth that is squared 32 times has a scale of `2 ^ 32`; one divided by it comes out as one. -/
theorem quotient_of_tenth :
    ∃ source moment e b quotient after,
      Program.check tenthText "tenth" = .ok source ∧
      source.Reaches 40 .unlimited moment ∧ moment.decimals? = some (⟨10, 1⟩, b) ∧
      b.digits ≠ 0 ∧ moment.task = .expression e ∧
      Eval.expr (Eval.invoke moment.fuel) e moment.state = .ok (.decimal quotient) after ∧
      ¬Decimal.IsQuotient ⟨10, 1⟩ b quotient := by
  have computed : ((Program.check tenthText "tenth").toOption.bind fun source =>
        ((source.start 40 .unlimited).follow? [2, 0, 1, 1, 1, 0, 0, 0]).map
          fun moment => moment.decimals?) = some (some (⟨10, 1⟩, ⟨1, 4294967296⟩)) := by
    decide +kernel
  obtain ⟨source, moment, checked, reaches, seen⟩ := Program.exists_moment _ _ computed
  obtain ⟨left, right, span, middle, after, taskEq, leftValue, rightValue⟩ :=
    Moment.decimals?_eq_some seen
  have wrapped : Decimal.div ⟨10, 1⟩ ⟨1, 4294967296⟩ = ⟨10, 1⟩ := by decide +kernel
  have evaluated := Eval.expr_divide span (some .decimal) leftValue rightValue
  rw [wrapped] at evaluated
  exact ⟨source, moment, _, _, _, after, checked, reaches, seen, by decide, taskEq, evaluated,
    Decimal.not_isQuotient_one (by decide)⟩

end ScriptLang
