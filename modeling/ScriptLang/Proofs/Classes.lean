import ScriptLang.Proofs.Discipline

/-!
Classes of values.

Static types name classes of values at run time.  Two disciplines say how far values keep to
them: under the lenient one Nil may stand for any type, as variables without a value and
functions without a result make it; under the strict one a value has the class of its type.
-/

namespace ScriptLang

/-- The value has the class that the type names, if the type names one. -/
def Value.HasClass (ty : Ty) (value : Value) : Prop :=
  ty.Concrete → value.className = ty.name

/-- The value has the class that the type names, if the type names one, or is Nil. -/
def Value.HasClassOrNil (ty : Ty) (value : Value) : Prop :=
  ty.Concrete → value.className = ty.name ∨ value = .nil

/-- The causes that may stop the run of a program that was checked. -/
inductive Cause.Dynamic : Cause → Prop where
  | divisionByZero : Dynamic .divisionByZero
  | invalidOperand (operator received : String) : Dynamic (.invalidOperand operator received)
  | indexOutOfRange (index : String) (length : Nat) : Dynamic (.indexOutOfRange index length)
  | invalidArgument (function message : String) : Dynamic (.invalidArgument function message)
  | outputError (message : String) : Dynamic (.outputError message)

/-- The causes that remain when every value has the class of its type. -/
inductive Cause.Strict : Cause → Prop where
  | divisionByZero : Strict .divisionByZero
  | indexOutOfRange (index : String) (length : Nat) : Strict (.indexOutOfRange index length)
  | exponent (exponent : Int) (unfit : exponent < 0 ∨ 4294967296 ≤ exponent) :
      Strict (.invalidOperand "^" ("exponent " ++ toString exponent))
  | notPositive (argument : Decimal) (small : argument.digits ≤ 0) :
      Strict (.invalidArgument "logarithm" "argument must be positive")
  | tooLarge (argument : Decimal) (positive : 0 < argument.digits)
      (unrepresentable : argument.toFloat.log.isFinite = false) :
      Strict (.invalidArgument "logarithm" "argument is out of range")
  | radix (radix : Int) (unfit : radix < 2 ∨ 36 < radix) :
      Strict (.invalidArgument "converter"
        ("radix " ++ toString radix ++ " is not between 2 and 36"))
  | outputError (message : String) : Strict (.outputError message)

namespace Value

variable {ty : Ty} {value : Value}

theorem HasClass.orNil (hasClass : value.HasClass ty) : value.HasClassOrNil ty :=
  fun concrete => .inl (hasClass concrete)

theorem eq_boolean (isBoolean : value.className = "Boolean") : ∃ b, value = .boolean b := by
  cases value with
  | boolean b =>
      exact ⟨b, rfl⟩
  | _ =>
      simp [className] at isBoolean

theorem eq_integer (isInteger : value.className = "Integer") : ∃ i, value = .integer i := by
  cases value with
  | integer i =>
      exact ⟨i, rfl⟩
  | _ =>
      simp [className] at isInteger

theorem eq_decimal (isDecimal : value.className = "Decimal") : ∃ d, value = .decimal d := by
  cases value with
  | decimal d =>
      exact ⟨d, rfl⟩
  | _ =>
      simp [className] at isDecimal

theorem eq_string (isString : value.className = "String") : ∃ s, value = .string s := by
  cases value with
  | string s =>
      exact ⟨s, rfl⟩
  | _ =>
      simp [className] at isString

theorem order?_of_className {left right : Value} (concrete : ty.Concrete)
    (isNotBoolean : ty ≠ .boolean) (leftClass : left.className = ty.name)
    (rightClass : right.className = ty.name) : ∃ order, left.order? right = some order := by
  cases ty with
  | any =>
      exact absurd rfl concrete.1
  | comparable =>
      exact absurd rfl concrete.2
  | boolean =>
      exact absurd rfl isNotBoolean
  | nil =>
      cases left with
      | nil =>
          cases right with
          | nil =>
              exact ⟨_, rfl⟩
          | _ =>
              simp [className, Ty.name] at rightClass
      | _ =>
          simp [className, Ty.name] at leftClass
  | character =>
      cases left with
      | character a =>
          cases right with
          | character b =>
              exact ⟨_, rfl⟩
          | _ =>
              simp [className, Ty.name] at rightClass
      | _ =>
          simp [className, Ty.name] at leftClass
  | integer =>
      obtain ⟨a, rfl⟩ := eq_integer leftClass
      obtain ⟨b, rfl⟩ := eq_integer rightClass
      exact ⟨_, rfl⟩
  | decimal =>
      obtain ⟨a, rfl⟩ := eq_decimal leftClass
      obtain ⟨b, rfl⟩ := eq_decimal rightClass
      exact ⟨_, rfl⟩
  | string =>
      obtain ⟨a, rfl⟩ := eq_string leftClass
      obtain ⟨b, rfl⟩ := eq_string rightClass
      exact ⟨_, rfl⟩

end Value

/-! ### Operators -/

namespace BinaryOp

/-- What an operator other than a comparison or a power yields: a number of the class of both
operands, or a text when one of them is a text. -/
inductive Yielded (op : BinaryOp) (left right value : Value) : Prop where
  | number (sameLeft : value.className = left.className)
      (sameRight : value.className = right.className)
      (isNumber : value.className = "Integer" ∨ value.className = "Decimal")
  | joined (isAdd : op = .add)
      (oneString : left.className = "String" ∨ right.className = "String")
      (isString : value.className = "String")

theorem yielded_of_add {left right value : Value} (applied : addValues left right = .ok value) :
    Yielded .add left right value := by
  unfold addValues at applied
  split at applied
  · cases applied
    exact .joined rfl (.inl rfl) rfl
  · cases applied
    exact .joined rfl (.inr rfl) rfl
  · cases applied
    exact .number rfl rfl (.inl rfl)
  · cases applied
    exact .number rfl rfl (.inr rfl)
  · cases applied

theorem yielded_of_subtract {left right value : Value}
    (applied : subtractValues left right = .ok value) : Yielded .subtract left right value := by
  unfold subtractValues at applied
  split at applied
  · cases applied
    exact .number rfl rfl (.inl rfl)
  · cases applied
    exact .number rfl rfl (.inr rfl)
  · cases applied

theorem yielded_of_multiply {left right value : Value}
    (applied : multiplyValues left right = .ok value) : Yielded .multiply left right value := by
  unfold multiplyValues at applied
  split at applied
  · cases applied
    exact .number rfl rfl (.inl rfl)
  · cases applied
    exact .number rfl rfl (.inr rfl)
  · cases applied

theorem yielded_of_divide {left right value : Value}
    (applied : divideValues left right = .ok value) : Yielded .divide left right value := by
  unfold divideValues at applied
  split at applied
  · split at applied
    · cases applied
    · cases applied
      exact .number rfl rfl (.inl rfl)
  · split at applied
    · cases applied
    · cases applied
      exact .number rfl rfl (.inr rfl)
  · cases applied

theorem boolean_of_compare {op : BinaryOp} {left right value : Value}
    (applied : op.compareValues left right = .ok value) : ∃ b, value = .boolean b := by
  unfold compareValues at applied
  split at applied
  · cases applied
    exact ⟨_, rfl⟩
  · cases applied

theorem integer_of_power {left right value : Value}
    (applied : powerValues left right = .ok value) : ∃ i, value = .integer i := by
  unfold powerValues at applied
  split at applied
  · unfold powerValue at applied
    split at applied
    · cases applied
      exact ⟨_, rfl⟩
    · cases applied
  · cases applied

theorem className_of_number {ty : Ty} {operand value : Value} (concrete : ty.Concrete)
    (hasClass : operand.HasClassOrNil ty) (same : value.className = operand.className)
    (isNumber : value.className = "Integer" ∨ value.className = "Decimal") :
    value.className = ty.name := by
  rcases hasClass concrete with ofTy | rfl
  · rw [same, ofTy]
  · rw [same] at isNumber
    exact absurd isNumber (by decide)

theorem Yielded.className_eq {op : BinaryOp} {ty : Ty} {left right value : Value}
    (yielded : Yielded op left right value) (isNumber : ty = .integer ∨ ty = .decimal)
    (leftClass : left.HasClassOrNil ty) (rightClass : right.HasClassOrNil ty) :
    value.className = ty.name := by
  have concrete : ty.Concrete := by
    rcases isNumber with rfl | rfl
    · decide
    · decide
  cases yielded with
  | number sameLeft sameRight isNumber =>
      exact className_of_number concrete leftClass sameLeft isNumber
  | joined isAdd oneString isString =>
      rcases oneString with leftString | rightString
      · rcases leftClass concrete with sameClass | rfl
        · rw [isString, ← leftString, sameClass]
        · exact absurd leftString (by decide)
      · rcases rightClass concrete with sameClass | rfl
        · rw [isString, ← rightString, sameClass]
        · exact absurd rightString (by decide)

/-- An operator that the static rule admits yields a value of its type, also where Nil stands
for an operand. -/
theorem className_of_apply {op : BinaryOp} {leftTy rightTy ty : Ty} {left right value : Value}
    (rule : OperatorTyped op leftTy rightTy ty) (notLogical : op.isLogical = false)
    (leftClass : left.HasClassOrNil leftTy) (rightClass : right.HasClassOrNil rightTy)
    (applied : op.apply left right = .ok value) : value.className = ty.name := by
  cases rule with
  | logical isLogical =>
      rcases isLogical with rfl | rfl
      · cases notLogical
      · cases notLogical
  | comparison isComparison isNotBoolean =>
      rcases isComparison with rfl | rfl | rfl | rfl
      all_goals
        obtain ⟨b, rfl⟩ := boolean_of_compare applied
        rfl
  | join oneString =>
      cases yielded_of_add applied with
      | joined isAdd _ isString =>
          exact isString
      | number sameLeft sameRight isNumber =>
          rcases oneString with rfl | rfl
          · exact className_of_number (by decide) leftClass sameLeft isNumber
          · exact className_of_number (by decide) rightClass sameRight isNumber
  | arithmetic isArithmetic isNumber =>
      rcases isArithmetic with rfl | rfl | rfl | rfl
      · exact (yielded_of_add applied).className_eq isNumber leftClass rightClass
      · exact (yielded_of_subtract applied).className_eq isNumber leftClass rightClass
      · exact (yielded_of_multiply applied).className_eq isNumber leftClass rightClass
      · exact (yielded_of_divide applied).className_eq isNumber leftClass rightClass
  | power =>
      obtain ⟨i, rfl⟩ := integer_of_power applied
      rfl

theorem dynamic_of_apply {op : BinaryOp} {left right : Value} {cause : Cause}
    (applied : op.apply left right = .error cause) : cause.Dynamic := by
  cases op with
  | and =>
      cases applied
      exact .invalidOperand _ _
  | or =>
      cases applied
      exact .invalidOperand _ _
  | add =>
      simp only [apply, addValues] at applied
      split at applied
      all_goals cases applied
      exact .invalidOperand _ _
  | subtract =>
      simp only [apply, subtractValues] at applied
      split at applied
      all_goals cases applied
      exact .invalidOperand _ _
  | multiply =>
      simp only [apply, multiplyValues] at applied
      split at applied
      all_goals cases applied
      exact .invalidOperand _ _
  | divide =>
      simp only [apply, divideValues] at applied
      split at applied
      · split at applied
        · cases applied
          exact .divisionByZero
        · cases applied
      · split at applied
        · cases applied
          exact .divisionByZero
        · cases applied
      · cases applied
        exact .invalidOperand _ _
  | power =>
      simp only [apply, powerValues, powerValue] at applied
      split at applied
      · split at applied
        · cases applied
        · cases applied
          exact .invalidOperand _ _
      · cases applied
        exact .invalidOperand _ _
  | _ =>
      simp only [apply, compareValues] at applied
      split at applied
      · cases applied
      · cases applied
        exact .invalidOperand _ _

/-- Why an operator fails on operands of the classes that the static rule asks for. -/
inductive Refused : BinaryOp → Value → Value → Cause → Prop where
  | division (left right : Value) : Refused .divide left right .divisionByZero
  | exponent (base exponent : Int) (unfit : exponent < 0 ∨ 4294967296 ≤ exponent) :
      Refused .power (.integer base) (.integer exponent)
        (.invalidOperand "^" ("exponent " ++ toString exponent))

theorem refused_of_apply {op : BinaryOp} {leftTy rightTy ty : Ty} {left right : Value}
    {cause : Cause} (rule : OperatorTyped op leftTy rightTy ty) (notLogical : op.isLogical = false)
    (leftConcrete : leftTy.Concrete) (rightConcrete : rightTy.Concrete)
    (leftClass : left.HasClass leftTy) (rightClass : right.HasClass rightTy)
    (applied : op.apply left right = .error cause) : Refused op left right cause := by
  have leftClass := leftClass leftConcrete
  have rightClass := rightClass rightConcrete
  cases rule with
  | logical isLogical =>
      rcases isLogical with rfl | rfl
      · cases notLogical
      · cases notLogical
  | comparison isComparison isNotBoolean =>
      obtain ⟨order, ordered⟩ :=
        Value.order?_of_className leftConcrete isNotBoolean leftClass rightClass
      rcases isComparison with rfl | rfl | rfl | rfl
      all_goals
        simp only [apply, compareValues, ordered] at applied
        cases applied
  | join oneString =>
      rcases oneString with rfl | rfl
      · obtain ⟨s, rfl⟩ := Value.eq_string leftClass
        cases applied
      · obtain ⟨s, rfl⟩ := Value.eq_string rightClass
        cases left with
        | _ =>
            cases applied
  | arithmetic isArithmetic isNumber =>
      rcases isNumber with rfl | rfl
      · obtain ⟨a, rfl⟩ := Value.eq_integer leftClass
        obtain ⟨b, rfl⟩ := Value.eq_integer rightClass
        rcases isArithmetic with rfl | rfl | rfl | rfl
        · cases applied
        · cases applied
        · cases applied
        · simp only [apply, divideValues] at applied
          split at applied
          · cases applied
            exact .division _ _
          · cases applied
      · obtain ⟨a, rfl⟩ := Value.eq_decimal leftClass
        obtain ⟨b, rfl⟩ := Value.eq_decimal rightClass
        rcases isArithmetic with rfl | rfl | rfl | rfl
        · cases applied
        · cases applied
        · cases applied
        · simp only [apply, divideValues] at applied
          split at applied
          · cases applied
            exact .division _ _
          · cases applied
  | power =>
      obtain ⟨a, rfl⟩ := Value.eq_integer leftClass
      obtain ⟨b, rfl⟩ := Value.eq_integer rightClass
      simp only [apply, powerValues, powerValue] at applied
      split at applied
      · cases applied
      · rename_i unfit
        cases applied
        refine .exponent a b ?_
        omega

theorem Refused.strict {op : BinaryOp} {left right : Value} {cause : Cause}
    (refused : Refused op left right cause) : cause.Strict := by
  cases refused with
  | division =>
      exact .divisionByZero
  | exponent base exponent unfit =>
      exact .exponent exponent unfit

end BinaryOp

/-! ### Built-in functions -/

namespace Builtin

theorem className_of_apply {builtin : Builtin} {arguments : List Value} {sink after : Sink}
    {value : Value} (applied : builtin.apply arguments sink = (.ok value, after)) :
    value.className = builtin.returnType.name := by
  cases builtin with
  | print =>
      simp only [apply, printed] at applied
      split at applied
      · split at applied
        · cases applied
          rfl
        · cases applied
      · cases applied
  | logarithm =>
      have yielded : logarithmOf arguments = .ok value := congrArg Prod.fst applied
      unfold logarithmOf at yielded
      split at yielded
      · split at yielded
        · cases yielded
        · split at yielded
          · cases yielded
            rfl
          · cases yielded
      · cases yielded
  | converter =>
      have yielded : converted arguments = .ok value := congrArg Prod.fst applied
      unfold converted at yielded
      split at yielded
      · split at yielded
        · cases yielded
          rfl
        · cases yielded
      · cases yielded

theorem dynamic_of_apply {builtin : Builtin} {arguments : List Value} {sink after : Sink}
    {cause : Cause} (applied : builtin.apply arguments sink = (.error cause, after)) :
    cause.Dynamic := by
  cases builtin with
  | print =>
      simp only [apply, printed] at applied
      split at applied
      · split at applied
        · cases applied
        · cases applied
          exact .outputError _
      · cases applied
        exact .invalidArgument _ _
  | logarithm =>
      have failed : logarithmOf arguments = .error cause := congrArg Prod.fst applied
      unfold logarithmOf at failed
      split at failed
      · split at failed
        · cases failed
          exact .invalidArgument _ _
        · split at failed
          · cases failed
          · cases failed
            exact .invalidArgument _ _
      · cases failed
        exact .invalidArgument _ _
  | converter =>
      have failed : converted arguments = .error cause := congrArg Prod.fst applied
      unfold converted at failed
      split at failed
      · split at failed
        · cases failed
        · cases failed
          exact .invalidArgument _ _
      · cases failed
        exact .invalidArgument _ _

/-- Why a built-in function fails on arguments of the types of its parameters. -/
inductive Refused : Builtin → List Value → Cause → Prop where
  | notPositive (argument : Decimal) (small : argument.digits ≤ 0) :
      Refused .logarithm [.decimal argument]
        (.invalidArgument "logarithm" "argument must be positive")
  | tooLarge (argument : Decimal) (positive : 0 < argument.digits)
      (unrepresentable : argument.toFloat.log.isFinite = false) :
      Refused .logarithm [.decimal argument]
        (.invalidArgument "logarithm" "argument is out of range")
  | radix (value radix : Int) (unfit : radix < 2 ∨ 36 < radix) :
      Refused .converter [.integer value, .integer radix]
        (.invalidArgument "converter" ("radix " ++ toString radix ++ " is not between 2 and 36"))
  | output (value : Value) (message : String) : Refused .print [value] (.outputError message)

theorem refused_of_apply {builtin : Builtin} {arguments : List Value} {sink after : Sink}
    {cause : Cause} (holds : List.Forall₂ Value.HasClass builtin.parameterTypes arguments)
    (applied : builtin.apply arguments sink = (.error cause, after)) :
    Refused builtin arguments cause := by
  cases builtin with
  | print =>
      obtain ⟨value, rfl⟩ : ∃ value, arguments = [value] := by
        cases holds with
        | cons _ restHolds =>
            cases restHolds
            exact ⟨_, rfl⟩
      simp only [apply, printed] at applied
      split at applied
      · cases applied
      · cases applied
        exact .output value _
  | logarithm =>
      obtain ⟨argument, rfl⟩ : ∃ argument, arguments = [.decimal argument] := by
        cases holds with
        | cons firstHolds restHolds =>
            cases restHolds
            obtain ⟨argument, rfl⟩ := Value.eq_decimal (firstHolds (by decide))
            exact ⟨argument, rfl⟩
      have failed : logarithmOf [.decimal argument] = .error cause := congrArg Prod.fst applied
      simp only [logarithmOf] at failed
      split at failed
      · rename_i small
        cases failed
        exact .notPositive argument small
      · rename_i positive
        split at failed
        · cases failed
        · rename_i unrepresentable
          cases failed
          exact .tooLarge argument (Int.not_le.mp positive)
            (Decimal.logarithm?_eq_none.mp unrepresentable)
  | converter =>
      obtain ⟨value, radix, rfl⟩ :
          ∃ value radix, arguments = [.integer value, .integer radix] := by
        cases holds with
        | cons firstHolds restHolds =>
            cases restHolds with
            | cons secondHolds restHolds =>
                cases restHolds
                obtain ⟨value, rfl⟩ := Value.eq_integer (firstHolds (by decide))
                obtain ⟨radix, rfl⟩ := Value.eq_integer (secondHolds (by decide))
                exact ⟨value, radix, rfl⟩
      have failed : converted [.integer value, .integer radix] = .error cause :=
        congrArg Prod.fst applied
      simp only [converted] at failed
      split at failed
      · cases failed
      · rename_i unfit
        cases failed
        refine .radix value radix ?_
        omega

theorem Refused.strict {builtin : Builtin} {arguments : List Value} {cause : Cause}
    (refused : Refused builtin arguments cause) : cause.Strict := by
  cases refused with
  | notPositive argument small =>
      exact .notPositive argument small
  | tooLarge argument positive unrepresentable =>
      exact .tooLarge argument positive unrepresentable
  | radix value radix unfit =>
      exact .radix radix unfit
  | output value message =>
      exact .outputError message

end Builtin

/-! ### The two disciplines -/

def lenient : Discipline where
  holds := Value.HasClassOrNil
  admits := fun _ _ => True
  sizes := fun _ _ => True
  names := fun _ => True
  blank := fun _ => True
  permits := Cause.Dynamic
  holds_any := fun _ concrete => absurd rfl concrete.1
  holds_of_accepts := by
    intro target source value accepted _ hasClass concrete
    obtain rfl := Ty.eq_of_accepts concrete.1 concrete.2 accepted
    exact hasClass concrete
  holds_nil := fun _ _ => .inr rfl
  holds_boolean := fun _ _ => .inl rfl
  holds_literal := fun inRange _ => .inl (Typing.concrete_of_literalTy inRange).2
  names_concrete := fun _ => trivial
  truth := fun _ => .inr fun operator => .invalidOperand operator _
  position := fun _ => .inr (.invalidOperand _ _)
  outOfRange := .indexOutOfRange
  operator := by
    intro op leftTy rightTy ty left right _ _ notLogical rule leftClass rightClass
    unfold Ends
    cases applied : op.apply left right with
    | ok value =>
        intro _
        exact .inl (BinaryOp.className_of_apply rule notLogical leftClass rightClass applied)
    | error cause =>
        exact BinaryOp.dynamic_of_apply applied
  builtin := by
    intro builtin arguments sink _
    unfold Ends
    cases applied : builtin.apply arguments sink with
    | mk result after =>
        cases result with
        | ok value =>
            intro _
            exact .inl (Builtin.className_of_apply applied)
        | error cause =>
            exact Builtin.dynamic_of_apply applied

def strict : Discipline where
  holds := Value.HasClass
  admits := fun _ _ => True
  sizes := fun _ _ => True
  names := Ty.Concrete
  blank := fun ty => ty = .nil
  permits := Cause.Strict
  holds_any := fun _ concrete => absurd rfl concrete.1
  holds_of_accepts := by
    intro target source value accepted _ hasClass concrete
    obtain rfl := Ty.eq_of_accepts concrete.1 concrete.2 accepted
    exact hasClass concrete
  holds_nil := by
    rintro ty rfl _
    rfl
  holds_boolean := fun _ _ => rfl
  holds_literal := fun inRange _ => (Typing.concrete_of_literalTy inRange).2
  names_concrete := id
  truth := fun hasClass => .inl (Value.eq_boolean (hasClass (by decide)))
  position := fun hasClass => .inl (Value.eq_integer (hasClass (by decide)))
  outOfRange := .indexOutOfRange
  operator := by
    intro op leftTy rightTy ty left right leftConcrete rightConcrete notLogical rule leftClass
      rightClass
    unfold Ends
    cases applied : op.apply left right with
    | ok value =>
        intro _
        exact BinaryOp.className_of_apply rule notLogical leftClass.orNil rightClass.orNil applied
    | error cause =>
        exact (BinaryOp.refused_of_apply rule notLogical leftConcrete rightConcrete leftClass
          rightClass applied).strict
  builtin := by
    intro builtin arguments sink holds
    unfold Ends
    cases applied : builtin.apply arguments sink with
    | mk result after =>
        cases result with
        | ok value =>
            intro _
            exact Builtin.className_of_apply applied
        | error cause =>
            exact (Builtin.refused_of_apply holds applied).strict

end ScriptLang
