import ScriptLang.Proofs.Agreement

/-!
Evaluating typed expressions.

In a state whose scopes agree with the scope that a typed expression was checked in, its value
is allowed for its type, and the scopes agree with that scope afterwards.  The calls of the
expression are assumed to keep to this.
-/

namespace ScriptLang

/-- The step yields a value as `good` says, or stops as the discipline allows; the open scopes
agree with the given scope afterwards. -/
def Sound {α : Type} (D : Discipline) (scope : StaticScope) (step : Eval α) (state : State)
    (good : α → Prop) : Prop :=
  Leads step state (fun value after => good value ∧ StateTyped D scope after)
    fun stop after => D.Allows stop ∧ StateTyped D scope after

/-- The calls of functions that agree with callees are sound, from any scope over the given
globals. -/
def CallsSound (D : Discipline) (globals : StaticFrame) (call : Invocation) : Prop :=
  ∀ {callee : Callee} {function : Function} {arguments : List Value} (offset : Nat)
    {scope : StaticScope} {state : State}, FunctionAgrees D globals callee function →
    List.Forall₂ D.holds callee.signature.parameterTypes arguments → scope.globals = globals →
    StateTyped D scope state →
    Sound D scope (call function arguments offset) state (D.holds callee.signature.returnType)

variable {D : Discipline} {scope : StaticScope} {state : State}

namespace Sound

variable {α β : Type}

theorem pure {value : α} {good : α → Prop} (holds : good value)
    (stateTyped : StateTyped D scope state) :
    Sound D scope (Pure.pure value) state good :=
  ⟨holds, stateTyped⟩

theorem fail {cause : Cause} {offset : Nat} {good : α → Prop} (permitted : D.permits cause)
    (stateTyped : StateTyped D scope state) :
    Sound D scope (Eval.fail cause offset) state good :=
  ⟨permitted, stateTyped⟩

theorem imp {step : Eval α} {good better : α → Prop} (sound : Sound D scope step state good)
    (whenGood : ∀ value, good value → better value) : Sound D scope step state better :=
  Leads.imp sound (fun value _ holds => ⟨whenGood value holds.1, holds.2⟩)
    fun _ _ holds => holds

theorem bind {step : Eval α} {next : α → Eval β} {good : α → Prop} {better : β → Prop}
    (sound : Sound D scope step state good)
    (continues : ∀ value after, good value → StateTyped D scope after →
      Sound D scope (next value) after better) :
    Sound D scope (step >>= next) state better :=
  Leads.bind sound fun value after holds => continues value after holds.1 holds.2

end Sound

/-! ### Looking names up -/

theorem ExprsTyped.length_eq {types : List Ty} {es : List Expr}
    (typed : ExprsTyped D scope types es) : types.length = es.length := by
  induction es generalizing types with
  | nil =>
      cases typed
      rfl
  | cons first rest inductionHypothesis =>
      cases typed with
      | cons firstTyped accepts restTyped =>
          rw [List.length_cons, List.length_cons, inductionHypothesis restTyped]

theorem lookupVariable_sound {name : String} {target : Variable} (offset : Nat)
    (bound : scope.findVariable? name = some target) (stateTyped : StateTyped D scope state) :
    Sound D scope (Eval.lookupVariable name offset) state (CellAgrees D target) := by
  obtain ⟨cell, found, cellAgrees⟩ := stateTyped.variable_bound bound
  unfold Sound Eval.lookupVariable
  rw [leads_bind, leads_get, Chain.lookupVariable_eq_ok.mpr found]
  exact ⟨cellAgrees, stateTyped⟩

theorem lookupFunction_sound {key : String × Nat} {callee : Callee} (offset : Nat)
    (bound : scope.findFunction? key = some callee) (stateTyped : StateTyped D scope state) :
    Sound D scope (Eval.lookupFunction key offset) state
      (FunctionAgrees D scope.globals callee) := by
  obtain ⟨function, found, functionAgrees⟩ := stateTyped.function_bound bound
  unfold Sound Eval.lookupFunction
  rw [leads_bind, leads_get, Chain.lookupFunction_eq_ok.mpr found]
  exact ⟨functionAgrees, stateTyped⟩

theorem ExprTyped.names (e : Expr) {context : Option Ty} {ty : Ty}
    (typed : ExprTyped D scope context e ty) (isNotAny : context ≠ some .any)
    (stateTyped : StateTyped D scope state) : D.names ty := by
  cases e with
  | literal value span decoration =>
      cases typed with
      | literal inRange =>
          exact D.names_concrete (Typing.concrete_of_literalTy inRange).1
  | group inner span decoration =>
      cases typed with
      | group innerTyped =>
          exact ExprTyped.names inner innerTyped isNotAny stateTyped
  | binary op left right span decoration =>
      cases typed with
      | binary leftTyped rightTyped rule =>
          exact D.names_concrete rule.concrete
  | access name span decoration found =>
      cases typed with
      | access bound whole =>
          obtain ⟨cell, _, cellAgrees⟩ := stateTyped.variable_bound bound
          simp only [Typing.wholeTy, if_neg isNotAny] at whole
          split at whole
          · cases whole
          · cases whole
            exact cellAgrees.named
  | element name index span decoration found =>
      cases typed with
      | element indexTyped bound isList =>
          obtain ⟨cell, _, cellAgrees⟩ := stateTyped.variable_bound bound
          exact cellAgrees.named
  | call name arguments span decoration found =>
      cases typed with
      | call bound argumentsTyped =>
          obtain ⟨function, _, functionAgrees⟩ := stateTyped.function_bound bound
          exact functionAgrees.typed.names_returnType
  | list elements span decoration =>
      cases typed

/-! ### Operands, indices and conditions -/

namespace Eval

theorem expectBoolean_sound {value : Value} {symbol : String} (offset : Nat)
    (holds : D.holds .boolean value) (stateTyped : StateTyped D scope state) :
    Sound D scope (expectBoolean symbol offset value) state fun _ => True := by
  rcases D.truth holds with ⟨b, rfl⟩ | permitted
  · exact .pure trivial stateTyped
  · cases value with
    | boolean b =>
        exact .pure trivial stateTyped
    | _ =>
        exact .fail (permitted symbol) stateTyped

theorem expectIndex_sound {value : Value} (offset : Nat) (holds : D.holds .integer value)
    (stateTyped : StateTyped D scope state) :
    Sound D scope (expectIndex offset value) state fun _ => True := by
  rcases D.position holds with ⟨i, rfl⟩ | permitted
  · exact .pure trivial stateTyped
  · cases value with
    | integer i =>
        exact .pure trivial stateTyped
    | _ =>
        exact .fail permitted stateTyped

theorem elementAt_sound {elements : List Value} {good : Value → Prop} (index : Int)
    (offset : Nat) (allGood : ∀ element ∈ elements, good element)
    (stateTyped : StateTyped D scope state) :
    Sound D scope (elementAt (.list elements) index offset) state good := by
  unfold elementAt
  dsimp only
  split
  · rename_i element found
    refine .pure (allGood element ?_) stateTyped
    by_cases negative : index < 0
    · rw [if_pos negative] at found
      cases found
    · rw [if_neg negative] at found
      exact List.mem_of_getElem? found
  · exact .fail (D.outOfRange _ _) stateTyped

theorem applyOperator_sound {op : BinaryOp} {left right : Value} {good : Value → Prop}
    (offset : Nat) (ends : Ends (op.apply left right) good D.permits)
    (stateTyped : StateTyped D scope state) :
    Sound D scope (applyOperator op left right offset) state good := by
  unfold applyOperator
  unfold Ends at ends
  cases applied : op.apply left right with
  | ok value =>
      rw [applied] at ends
      exact .pure ends stateTyped
  | error cause =>
      rw [applied] at ends
      exact .fail ends stateTyped

theorem logical_sound {op : BinaryOp} {left : Value} {right : Eval Value} (offset : Nat)
    (leftHolds : D.holds .boolean left)
    (rightSound : ∀ after, StateTyped D scope after →
      Sound D scope right after (D.holds .boolean))
    (stateTyped : StateTyped D scope state) :
    Sound D scope (logical op offset left right) state (D.holds .boolean) := by
  unfold logical
  apply Sound.bind (expectBoolean_sound offset leftHolds stateTyped)
  intro leftTruth after _ afterTyped
  split
  · exact .pure (D.holds_boolean leftTruth) afterTyped
  · refine (rightSound after afterTyped).bind ?_
    intro rightValue after rightHolds afterTyped
    apply Sound.bind (expectBoolean_sound offset rightHolds afterTyped)
    intro rightTruth after _ afterTyped
    exact .pure (D.holds_boolean rightTruth) afterTyped

end Eval

/-! ### Expressions -/

theorem OperatorTyped.boolean_of_logical {op : BinaryOp} {left right ty : Ty}
    (rule : OperatorTyped op left right ty) (isLogical : op.isLogical = true) :
    left = .boolean ∧ right = .boolean ∧ ty = .boolean := by
  cases rule with
  | logical isLogical =>
      exact ⟨rfl, rfl, rfl⟩
  | comparison isComparison isNotBoolean =>
      rcases isComparison with rfl | rfl | rfl | rfl
      all_goals cases isLogical
  | arithmetic isArithmetic isNumber =>
      rcases isArithmetic with rfl | rfl | rfl | rfl
      all_goals cases isLogical
  | _ =>
      cases isLogical

theorem CellAgrees.holds_whole {target : Variable} {cell : Cell} {context : Option Ty}
    {offset : Nat} {ty : Ty} (cellAgrees : CellAgrees D target cell)
    (whole : Typing.wholeTy target context offset = .ok ty) : D.holds ty cell.value := by
  unfold Typing.wholeTy at whole
  split at whole
  · split at whole
    · cases whole
      exact D.holds_any cell.value
    · cases whole
  · rename_i isSingle
    cases whole
    exact cellAgrees.keeps.single (Bool.eq_false_iff.mpr isSingle)

namespace Eval

variable {call : Invocation}

mutual

theorem expr_sound (calls : CallsSound D scope.globals call) (e : Expr) {context : Option Ty}
    {ty : Ty} {state : State} (typed : ExprTyped D scope context e ty)
    (stateTyped : StateTyped D scope state) :
    Sound D scope (expr call e) state (D.holds ty) := by
  cases e with
  | literal value span decoration =>
      cases typed with
      | literal inRange =>
          exact .pure (D.holds_literal inRange) stateTyped
  | group inner span decoration =>
      cases typed with
      | group innerTyped =>
          exact expr_sound calls inner innerTyped stateTyped
  | binary op left right span decoration =>
      cases typed with
      | binary leftTyped rightTyped rule =>
          rw [expr]
          apply Sound.bind (expr_sound calls left leftTyped stateTyped)
          intro leftValue after leftHolds afterTyped
          by_cases isLogical : op.isLogical = true
          · rw [if_pos isLogical]
            obtain ⟨rfl, rfl, rfl⟩ := rule.boolean_of_logical isLogical
            exact logical_sound span.start leftHolds
              (fun middle middleTyped => expr_sound calls right rightTyped middleTyped) afterTyped
          · rw [if_neg isLogical]
            apply Sound.bind (expr_sound calls right rightTyped afterTyped)
            intro rightValue last rightHolds lastTyped
            have leftNamed := ExprTyped.names left leftTyped (by decide) stateTyped
            have rightNamed := ExprTyped.names right rightTyped (by decide) afterTyped
            have ends := D.operator leftNamed rightNamed (Bool.eq_false_iff.mpr isLogical) rule
              leftHolds rightHolds
            exact applyOperator_sound span.start ends lastTyped
  | access name span decoration found =>
      cases typed with
      | access bound whole =>
          rw [expr]
          apply Sound.bind (lookupVariable_sound span.start bound stateTyped)
          intro cell after cellAgrees afterTyped
          exact .pure (cellAgrees.holds_whole whole) afterTyped
  | element name index span decoration found =>
      cases typed with
      | element indexTyped bound isList =>
          rw [expr]
          apply Sound.bind (lookupVariable_sound span.start bound stateTyped)
          intro _ after _ afterTyped
          apply Sound.bind (expr_sound calls index indexTyped afterTyped)
          intro indexValue after indexHolds afterTyped
          apply Sound.bind (expectIndex_sound index.start indexHolds afterTyped)
          intro position after _ afterTyped
          apply Sound.bind (lookupVariable_sound span.start bound afterTyped)
          intro cell after cellAgrees afterTyped
          obtain ⟨elements, valueEq, _, allHold⟩ := cellAgrees.keeps.list isList
          rw [valueEq]
          exact elementAt_sound position span.start allHold afterTyped
  | call name arguments span decoration found =>
      cases typed with
      | call bound argumentsTyped =>
          rw [expr]
          apply Sound.bind (exprs_sound calls arguments argumentsTyped stateTyped)
          intro values after valuesHold afterTyped
          have sameLength : values.length = arguments.length := by
            rw [← valuesHold.length_eq, argumentsTyped.length_eq]
          rw [sameLength]
          apply Sound.bind (lookupFunction_sound span.start bound afterTyped)
          intro function last functionAgrees lastTyped
          exact calls span.start functionAgrees valuesHold rfl lastTyped
  | list elements span decoration =>
      cases typed

theorem exprs_sound (calls : CallsSound D scope.globals call) (es : List Expr) {types : List Ty}
    {state : State} (typed : ExprsTyped D scope types es) (stateTyped : StateTyped D scope state) :
    Sound D scope (exprs call es) state (List.Forall₂ D.holds types) := by
  cases es with
  | nil =>
      cases typed with
      | nil =>
          exact .pure .nil stateTyped
  | cons first rest =>
      cases typed with
      | cons firstTyped accepts restTyped =>
          rw [exprs]
          apply Sound.bind (expr_sound calls first firstTyped stateTyped)
          intro value after valueHolds afterTyped
          apply Sound.bind (exprs_sound calls rest restTyped afterTyped)
          intro values last valuesHold lastTyped
          exact .pure (.cons (accepts.holds valueHolds) valuesHold) lastTyped

end

theorem list_sound (calls : CallsSound D scope.globals call) {elements : List Expr} (span : Span)
    (decoration : Option Ty) {types : List Ty} (typed : ExprsTyped D scope types elements)
    (stateTyped : StateTyped D scope state) :
    Sound D scope (expr call (.list elements span decoration)) state fun value =>
      ∃ values, value = .list values ∧ List.Forall₂ D.holds types values := by
  rw [expr]
  apply Sound.bind (exprs_sound calls elements typed stateTyped)
  intro values after holds afterTyped
  exact .pure ⟨values, rfl, holds⟩ afterTyped

theorem index_sound (calls : CallsSound D scope.globals call) {e : Expr}
    (typed : ExprTyped D scope none e .integer) (stateTyped : StateTyped D scope state) :
    Sound D scope (index call e) state fun _ => True := by
  apply Sound.bind (expr_sound calls e typed stateTyped)
  intro value after holds afterTyped
  exact expectIndex_sound e.start holds afterTyped

theorem condition_sound (calls : CallsSound D scope.globals call) {e : Expr}
    (typed : ExprTyped D scope none e .boolean) (stateTyped : StateTyped D scope state) :
    Sound D scope (condition call e) state fun _ => True := by
  apply Sound.bind (expr_sound calls e typed stateTyped)
  intro value after holds afterTyped
  exact expectBoolean_sound e.start holds afterTyped

end Eval
end ScriptLang
