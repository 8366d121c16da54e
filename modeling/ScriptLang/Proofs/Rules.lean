import ScriptLang.Proofs.Step
import ScriptLang.Typing.Expression
import ScriptLang.Value

/-!
The static rules of constants and operators.
-/

namespace ScriptLang

/-- The types that a value has; `Any` and `Comparable` stand for several of them. -/
def Ty.Concrete (ty : Ty) : Prop :=
  ty ≠ .any ∧ ty ≠ .comparable

instance (ty : Ty) : Decidable ty.Concrete :=
  inferInstanceAs (Decidable (_ ∧ _))

/-- The type of an operator's result for the types of its operands. -/
inductive OperatorTyped : BinaryOp → Ty → Ty → Ty → Prop where
  | logical {op : BinaryOp} (isLogical : op = .and ∨ op = .or) :
      OperatorTyped op .boolean .boolean .boolean
  | comparison {op : BinaryOp} {ty : Ty}
      (isComparison : op = .less ∨ op = .greater ∨ op = .equals ∨ op = .notEquals)
      (isNotBoolean : ty ≠ .boolean) : OperatorTyped op ty ty .boolean
  | join {left right : Ty} (oneString : left = .string ∨ right = .string) :
      OperatorTyped .add left right .string
  | arithmetic {op : BinaryOp} {ty : Ty}
      (isArithmetic : op = .add ∨ op = .subtract ∨ op = .multiply ∨ op = .divide)
      (isNumber : ty = .integer ∨ ty = .decimal) : OperatorTyped op ty ty ty
  | power : OperatorTyped .power .integer .integer .integer

namespace Typing

theorem requireSame_eq_ok {left right : Ty} {offset : Nat} {done : Unit} :
    requireSame left right offset = .ok done ↔ left = right := by
  unfold requireSame
  by_cases same : left = right
  · simp [same]
  · simp [same]

theorem requireNumeric_eq_ok {ty : Ty} {offset : Nat} {done : Unit} :
    requireNumeric ty offset = .ok done ↔ ty = .integer ∨ ty = .decimal := by
  unfold requireNumeric
  cases ty with
  | _ => simp [Ty.isNumeric]

theorem concrete_of_literalTy {literal : Literal} {offset : Nat} {ty : Ty}
    (inRange : literalTy literal offset = .ok ty) :
    ty.Concrete ∧ (Value.ofLiteral literal).className = ty.name := by
  cases literal with
  | integer value =>
      simp only [literalTy] at inRange
      split at inRange
      · cases inRange
        exact ⟨by decide, rfl⟩
      · cases inRange
  | decimal value =>
      simp only [literalTy] at inRange
      split at inRange
      · cases inRange
        exact ⟨by decide, rfl⟩
      · cases inRange
  | _ =>
      cases inRange
      exact ⟨by decide, rfl⟩

theorem comparisonTyped {op : BinaryOp} {left right ty : Ty} {leftOffset rightOffset : Nat}
    (isComparison : op = .less ∨ op = .greater ∨ op = .equals ∨ op = .notEquals)
    (rule : (do
      Ty.comparable.require left leftOffset
      Ty.comparable.require right rightOffset
      requireSame left right rightOffset
      return Ty.boolean) = (.ok ty : Except Fault Ty)) : OperatorTyped op left right ty := by
  obtain ⟨_, leftComparable, rule⟩ := bind_eq_ok.mp rule
  obtain ⟨_, rightComparable, rule⟩ := bind_eq_ok.mp rule
  obtain ⟨_, same, rule⟩ := bind_eq_ok.mp rule
  cases rule
  obtain rfl := requireSame_eq_ok.mp same
  refine .comparison isComparison ?_
  rintro rfl
  exact absurd (Ty.require_eq_ok.mp leftComparable) (by decide)

theorem arithmeticTyped {op : BinaryOp} {left right ty : Ty} {leftOffset rightOffset : Nat}
    (isArithmetic : op = .add ∨ op = .subtract ∨ op = .multiply ∨ op = .divide)
    (rule : (do
      requireNumeric left leftOffset
      requireSame left right rightOffset
      return left) = (.ok ty : Except Fault Ty)) : OperatorTyped op left right ty := by
  obtain ⟨_, isNumber, rule⟩ := bind_eq_ok.mp rule
  obtain ⟨_, same, rule⟩ := bind_eq_ok.mp rule
  cases rule
  obtain rfl := requireSame_eq_ok.mp same
  exact .arithmetic isArithmetic (requireNumeric_eq_ok.mp isNumber)

theorem logicalTyped {op : BinaryOp} {left right ty : Ty} {leftOffset rightOffset : Nat}
    (isLogical : op = .and ∨ op = .or)
    (rule : (do
      Ty.boolean.require left leftOffset
      Ty.boolean.require right rightOffset
      return Ty.boolean) = (.ok ty : Except Fault Ty)) : OperatorTyped op left right ty := by
  obtain ⟨_, leftBoolean, rule⟩ := bind_eq_ok.mp rule
  obtain ⟨_, rightBoolean, rule⟩ := bind_eq_ok.mp rule
  cases rule
  obtain rfl := Ty.eq_of_accepts (by decide) (by decide) (Ty.require_eq_ok.mp leftBoolean)
  obtain rfl := Ty.eq_of_accepts (by decide) (by decide) (Ty.require_eq_ok.mp rightBoolean)
  exact .logical isLogical

theorem operatorTyped_of_binaryTy {op : BinaryOp} {left right ty : Ty}
    {leftOffset rightOffset : Nat}
    (rule : binaryTy op left right leftOffset rightOffset = .ok ty) :
    OperatorTyped op left right ty := by
  cases op with
  | and =>
      exact logicalTyped (.inl rfl) rule
  | or =>
      exact logicalTyped (.inr rfl) rule
  | less =>
      exact comparisonTyped (by decide) rule
  | greater =>
      exact comparisonTyped (by decide) rule
  | equals =>
      exact comparisonTyped (by decide) rule
  | notEquals =>
      exact comparisonTyped (by decide) rule
  | add =>
      simp only [binaryTy] at rule
      split at rule
      · rename_i oneString
        cases rule
        exact .join oneString
      · exact arithmeticTyped (by decide) rule
  | subtract =>
      exact arithmeticTyped (by decide) rule
  | multiply =>
      exact arithmeticTyped (by decide) rule
  | divide =>
      exact arithmeticTyped (by decide) rule
  | power =>
      obtain ⟨_, leftInteger, rule⟩ := bind_eq_ok.mp rule
      obtain ⟨_, rightInteger, rule⟩ := bind_eq_ok.mp rule
      cases rule
      obtain rfl := Ty.eq_of_accepts (by decide) (by decide) (Ty.require_eq_ok.mp leftInteger)
      obtain rfl := Ty.eq_of_accepts (by decide) (by decide) (Ty.require_eq_ok.mp rightInteger)
      exact .power

/-- The checker's rule for an operator admits what the rules above admit, and nothing else. -/
theorem binaryTy_eq_ok {op : BinaryOp} {left right ty : Ty} {leftOffset rightOffset : Nat} :
    binaryTy op left right leftOffset rightOffset = .ok ty ↔ OperatorTyped op left right ty := by
  refine ⟨operatorTyped_of_binaryTy, ?_⟩
  intro typed
  cases typed with
  | logical isLogical =>
      rcases isLogical with rfl | rfl
      · rfl
      · rfl
  | @comparison op ty isComparison isNotBoolean =>
      have comparable : Ty.comparable.accepts left = true := by
        simpa [Ty.accepts] using isNotBoolean
      have leads : (do
          Ty.comparable.require left leftOffset
          Ty.comparable.require left rightOffset
          requireSame left left rightOffset
          return Ty.boolean) = (.ok .boolean : Except Fault Ty) :=
        bind_eq_ok.mpr ⟨(), Ty.require_eq_ok.mpr comparable, bind_eq_ok.mpr ⟨(),
          Ty.require_eq_ok.mpr comparable, bind_eq_ok.mpr ⟨(), requireSame_eq_ok.mpr rfl, rfl⟩⟩⟩
      rcases isComparison with rfl | rfl | rfl | rfl
      all_goals exact leads
  | join oneString =>
      simp only [binaryTy, if_pos oneString]
      rfl
  | arithmetic isArithmetic isNumber =>
      rcases isNumber with rfl | rfl
      all_goals
        rcases isArithmetic with rfl | rfl | rfl | rfl
        all_goals rfl
  | power =>
      rfl

end Typing

theorem OperatorTyped.concrete {op : BinaryOp} {left right ty : Ty}
    (rule : OperatorTyped op left right ty) : ty.Concrete := by
  cases rule with
  | arithmetic isArithmetic isNumber =>
      rcases isNumber with rfl | rfl
      · decide
      · decide
  | _ =>
      decide

end ScriptLang
