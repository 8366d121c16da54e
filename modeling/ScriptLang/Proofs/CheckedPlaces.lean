import ScriptLang.Proofs.Places
import ScriptLang.Proofs.Step
import ScriptLang.Typing.Source

/-!
The places at which checking fails.

Checking a tree that stands at some places fails only at these places, and decorates it without
moving a node, so that what it yields stands at the same places.
-/

namespace ScriptLang

variable {place : Nat → Prop}

/-- The step fails at one of the places, if it fails. -/
abbrev FailsAt {α : Type} (place : Nat → Prop) (step : Except Fault α) : Prop :=
  Confined place step fun _ => True

/-! ### Steps that are given the place to fail at -/

section

variable {offset : Nat} (here : place offset)
include here

theorem Ty.require_failsAt {target source : Ty} : FailsAt place (target.require source offset) :=
  .demand here trivial

theorem Ty.resolve_failsAt {name : String} : FailsAt place (Ty.resolve name offset) := by
  unfold Ty.resolve
  split
  · trivial
  · exact here

variable {β φ : Type} {chain : Chain β φ}

theorem Chain.lookupVariable_failsAt {name : String} :
    FailsAt place (chain.lookupVariable name offset) := by
  unfold Chain.lookupVariable
  split
  · trivial
  · exact here

theorem Chain.lookupFunction_failsAt {key : String × Nat} :
    FailsAt place (chain.lookupFunction key offset) := by
  unfold Chain.lookupFunction
  split
  · trivial
  · exact here

theorem Frame.defineVariable_failsAt {frame : Frame β φ} {name : String} {entry : β} :
    FailsAt place (frame.defineVariable name entry offset) := by
  unfold Frame.defineVariable
  split
  · trivial
  · exact here

theorem Chain.defineVariable_failsAt {name : String} {entry : β} :
    FailsAt place (chain.defineVariable name entry offset) :=
  (Frame.defineVariable_failsAt here).map fun _ _ => trivial

theorem Frame.defineFunction_failsAt {frame : Frame β φ} {key : String × Nat} {entry : φ} :
    FailsAt place (frame.defineFunction key entry offset) := by
  unfold Frame.defineFunction
  split
  · trivial
  · exact here

theorem Chain.defineFunction_failsAt {key : String × Nat} {entry : φ} :
    FailsAt place (chain.defineFunction key entry offset) :=
  (Frame.defineFunction_failsAt here).map fun _ _ => trivial

end

namespace Typing

theorem offset_of_literalTy {value : Literal} {offset : Nat} {fault : Fault}
    (failed : literalTy value offset = .error fault) : fault.offset = offset := by
  cases value with
  | integer value =>
      simp only [literalTy] at failed
      split at failed
      · cases failed
      · cases failed
        rfl
  | decimal value =>
      simp only [literalTy] at failed
      split at failed
      · cases failed
      · cases failed
        rfl
  | _ => cases failed

section

variable {offset : Nat} (here : place offset)
include here

theorem literalTy_failsAt {value : Literal} : FailsAt place (literalTy value offset) := by
  cases result : literalTy value offset with
  | ok ty => trivial
  | error fault =>
      rw [← offset_of_literalTy result] at here
      exact here

theorem requireSame_failsAt {left right : Ty} : FailsAt place (requireSame left right offset) :=
  .demand here trivial

theorem requireNumeric_failsAt {ty : Ty} : FailsAt place (requireNumeric ty offset) :=
  .demand here trivial

theorem wholeTy_failsAt {target : Variable} {context : Option Ty} :
    FailsAt place (wholeTy target context offset) := by
  unfold wholeTy
  split
  · exact .demand here trivial
  · trivial

theorem elementTy_failsAt {target : Variable} : FailsAt place (elementTy target offset) :=
  .demand here trivial

theorem requireMutable_failsAt {target : Option Variable} :
    FailsAt place (requireMutable target offset) := by
  unfold requireMutable
  split
  · exact .demand here trivial
  · trivial

theorem requireMain_failsAt {scope : StaticScope} : FailsAt place (requireMain scope offset) := by
  unfold requireMain
  split
  · exact .demand here trivial
  · exact here

theorem resolveReturn_failsAt {typeName : Option String} :
    FailsAt place (resolveReturn typeName offset) := by
  unfold resolveReturn
  split
  · exact Ty.resolve_failsAt here
  · trivial

theorem resolveAll_failsAt (names : List String) : FailsAt place (resolveAll offset names) := by
  induction names with
  | nil => trivial
  | cons name names inductionHypothesis =>
      rw [resolveAll]
      refine (Ty.resolve_failsAt here).bind fun ty _ => ?_
      exact inductionHypothesis.bind fun types _ => trivial

theorem bindParameters_failsAt (parameters : List (Parameter × Ty)) (scope : StaticScope) :
    FailsAt place (bindParameters offset scope parameters) := by
  induction parameters generalizing scope with
  | nil => trivial
  | cons first rest inductionHypothesis =>
      obtain ⟨parameter, ty⟩ := first
      rw [bindParameters]
      refine (Chain.defineVariable_failsAt here).bind fun wider _ => ?_
      exact inductionHypothesis wider

end

theorem binaryTy_failsAt {op : BinaryOp} {left right : Ty} {leftOffset rightOffset : Nat}
    (atLeft : place leftOffset) (atRight : place rightOffset) :
    FailsAt place (binaryTy op left right leftOffset rightOffset) := by
  cases op with
  | and | or =>
      unfold binaryTy
      refine (Ty.require_failsAt atLeft).bind fun _ _ => ?_
      exact (Ty.require_failsAt atRight).bind fun _ _ => trivial
  | less | greater | equals | notEquals =>
      unfold binaryTy
      refine (Ty.require_failsAt atLeft).bind fun _ _ => ?_
      refine (Ty.require_failsAt atRight).bind fun _ _ => ?_
      exact (requireSame_failsAt atRight).bind fun _ _ => trivial
  | add =>
      unfold binaryTy
      dsimp only
      split
      · trivial
      · refine (requireNumeric_failsAt atLeft).bind fun _ _ => ?_
        exact (requireSame_failsAt atRight).bind fun _ _ => trivial
  | power =>
      unfold binaryTy
      refine (Ty.require_failsAt atLeft).bind fun _ _ => ?_
      exact (Ty.require_failsAt atRight).bind fun _ _ => trivial
  | subtract | multiply | divide =>
      unfold binaryTy
      refine (requireNumeric_failsAt atLeft).bind fun _ _ => ?_
      exact (requireSame_failsAt atRight).bind fun _ _ => trivial

/-! ### Expressions -/

mutual

theorem checkExpr_confined (scope : StaticScope) (context : Option Ty) (e : Expr)
    (placed : e.Placed place) :
    Confined place (checkExpr scope context e) fun checked => checked.1.Placed place := by
  cases e with
  | literal value span old =>
      rw [checkExpr]
      exact (literalTy_failsAt placed).bind fun _ _ => placed
  | group inner span old =>
      rw [checkExpr]
      refine (checkExpr_confined scope context inner placed.2).bind ?_
      rintro ⟨inner', ty⟩ innerPlaced
      exact ⟨placed.1, innerPlaced⟩
  | binary op left right span old =>
      rw [checkExpr]
      refine (checkExpr_confined scope none left placed.2.1).bind ?_
      rintro ⟨left', leftTy⟩ leftPlaced
      refine (checkExpr_confined scope none right placed.2.2).bind ?_
      rintro ⟨right', rightTy⟩ rightPlaced
      refine (binaryTy_failsAt leftPlaced.start rightPlaced.start).bind fun _ _ => ?_
      exact ⟨placed.1, leftPlaced, rightPlaced⟩
  | access name span old oldTarget =>
      rw [checkExpr]
      refine (Chain.lookupVariable_failsAt placed).bind fun _ _ => ?_
      exact (wholeTy_failsAt placed).bind fun _ _ => placed
  | element name index span old oldTarget =>
      rw [checkExpr]
      refine (checkExpr_confined scope none index placed.2).bind ?_
      rintro ⟨index', indexTy⟩ indexPlaced
      refine (Ty.require_failsAt indexPlaced.start).bind fun _ _ => ?_
      refine (Chain.lookupVariable_failsAt placed.1).bind fun _ _ => ?_
      exact (elementTy_failsAt placed.1).bind fun _ _ => ⟨placed.1, indexPlaced⟩
  | call name arguments span old oldCallee =>
      rw [checkExpr]
      refine (Chain.lookupFunction_failsAt placed.1).bind fun callee _ => ?_
      refine (checkArguments_confined scope callee.signature.parameterTypes arguments
        placed.2).bind fun arguments' argumentsPlaced => ?_
      exact ⟨placed.1, argumentsPlaced⟩
  | list elements span old =>
      rw [checkExpr]
      refine (checkElements_confined scope (context.getD .any) elements
        placed.2).bind fun elements' elementsPlaced => ?_
      exact ⟨placed.1, elementsPlaced⟩

theorem checkArguments_confined (scope : StaticScope) (types : List Ty) (es : List Expr)
    (placed : AllPlaced place es) :
    Confined place (checkArguments scope types es) (AllPlaced place) := by
  cases es with
  | nil =>
      rw [checkArguments]
      · trivial
      · simp
  | cons first rest =>
      cases types with
      | nil =>
          rw [checkArguments]
          · exact placed
          · simp
      | cons expected types =>
          rw [checkArguments]
          refine (checkExpr_confined scope (some expected) first placed.1).bind ?_
          rintro ⟨first', received⟩ firstPlaced
          dsimp only
          split
          · refine (checkArguments_confined scope types rest placed.2).bind ?_
            intro rest' restPlaced
            exact ⟨firstPlaced, restPlaced⟩
          · exact firstPlaced.start

theorem checkElements_confined (scope : StaticScope) (expected : Ty) (es : List Expr)
    (placed : AllPlaced place es) :
    Confined place (checkElements scope expected es) (AllPlaced place) := by
  cases es with
  | nil =>
      rw [checkElements]
      trivial
  | cons first rest =>
      rw [checkElements]
      refine (checkExpr_confined scope (some expected) first placed.1).bind ?_
      rintro ⟨first', received⟩ firstPlaced
      refine (Ty.require_failsAt firstPlaced.start).bind fun _ _ => ?_
      refine (checkElements_confined scope expected rest placed.2).bind ?_
      intro rest' restPlaced
      exact ⟨firstPlaced, restPlaced⟩

end

/-! ### Statements -/

theorem checkBinding_confined {scope : StaticScope} {typeName : Option String}
    {value : Option Expr} {offset : Nat} (here : place offset)
    (placed : OptionPlaced place value) :
    Confined place (checkBinding scope typeName value offset) fun checked =>
      OptionPlaced place checked.1 := by
  unfold checkBinding
  split
  · rename_i name e
    refine (Ty.resolve_failsAt here).bind fun declared _ => ?_
    refine (checkExpr_confined scope (some declared) e (placed e rfl)).bind ?_
    rintro ⟨e', received⟩ valuePlaced
    exact (Ty.require_failsAt valuePlaced.start).bind fun _ _ => .some valuePlaced
  · exact (Ty.resolve_failsAt here).bind fun _ _ => .none
  · rename_i e
    refine (checkExpr_confined scope none e (placed e rfl)).bind ?_
    rintro ⟨e', ty⟩ valuePlaced
    exact .some valuePlaced
  · exact here

theorem checkCondition_confined {scope : StaticScope} {condition : Expr}
    (placed : condition.Placed place) :
    Confined place (checkCondition scope condition) (Expr.Placed place) := by
  unfold checkCondition
  refine (checkExpr_confined scope none condition placed).bind ?_
  rintro ⟨condition', ty⟩ conditionPlaced
  exact (Ty.require_failsAt conditionPlaced.start).bind fun _ _ => conditionPlaced

theorem checkAgainst_confined {scope : StaticScope} {expected : Ty} {value : Expr}
    (placed : value.Placed place) :
    Confined place (checkAgainst scope expected value) (Expr.Placed place) := by
  unfold checkAgainst
  refine (checkExpr_confined scope (some expected) value placed).bind ?_
  rintro ⟨value', received⟩ valuePlaced
  exact (Ty.require_failsAt valuePlaced.start).bind fun _ _ => valuePlaced

theorem requireDefault_failsAt {cases : List Case} {offset : Nat} (here : place offset)
    (placed : CasesPlaced place cases) : FailsAt place (requireDefault cases offset) := by
  unfold requireDefault
  split
  · exact here
  · rename_i last lastEq
    exact .demand (placed.of_mem (List.mem_of_getLast? lastEq)).start trivial

mutual

theorem checkStmt_confined (scope : StaticScope) (s : Stmt) (placed : s.Placed place) :
    Confined place (checkStmt scope s) fun checked => checked.1.Placed place := by
  cases s with
  | expression value span =>
      rw [checkStmt]
      split
      · refine (checkExpr_confined scope none value placed.2).bind ?_
        rintro ⟨value', ty⟩ valuePlaced
        exact ⟨placed.1, valuePlaced⟩
      · exact placed.1
  | declaration name typeName value span old =>
      rw [checkStmt]
      refine (checkBinding_confined placed.1 placed.2).bind ?_
      rintro ⟨value', ty⟩ valuePlaced
      exact (Chain.defineVariable_failsAt placed.1).bind fun _ _ => ⟨placed.1, valuePlaced⟩
  | assignment receiver value span =>
      rw [checkStmt]
      split
      · refine (checkExpr_confined scope none receiver placed.2.1).bind ?_
        rintro ⟨receiver', expected⟩ receiverPlaced
        refine (requireMutable_failsAt placed.1).bind fun _ _ => ?_
        refine (checkAgainst_confined placed.2.2).bind fun value' valuePlaced => ?_
        exact ⟨placed.1, receiverPlaced, valuePlaced⟩
      · exact placed.1
  | conditional condition thenBlock elseBlock span =>
      rw [checkStmt]
      obtain ⟨here, inCondition, inThen, inElse⟩ := placed
      split
      · exact here
      · refine (checkCondition_confined inCondition).bind fun condition' conditionPlaced => ?_
        refine (checkBlock_confined scope.child thenBlock inThen).bind
          fun thenBlock' thenPlaced => ?_
        refine (checkBlock_confined scope.child elseBlock inElse).bind
          fun elseBlock' elsePlaced => ?_
        exact ⟨here, conditionPlaced, thenPlaced, elsePlaced⟩
  | switch subject cases span =>
      rw [checkStmt]
      refine (checkExpr_confined scope none subject placed.2.1).bind ?_
      rintro ⟨subject', expected⟩ subjectPlaced
      refine (requireDefault_failsAt placed.1 placed.2.2).bind fun _ _ => ?_
      refine (checkCases_confined scope expected cases placed.2.2).bind
        fun cases' casesPlaced => ?_
      exact ⟨placed.1, subjectPlaced, casesPlaced⟩
  | loop condition body span =>
      rw [checkStmt]
      refine (checkCondition_confined placed.2.1).bind fun condition' conditionPlaced => ?_
      refine (checkBlock_confined scope.child body placed.2.2).bind fun body' bodyPlaced => ?_
      exact ⟨placed.1, conditionPlaced, bodyPlaced⟩
  | result value span =>
      rw [checkStmt]
      split
      · exact placed.1
      · refine (checkAgainst_confined placed.2).bind fun value' valuePlaced => ?_
        exact ⟨placed.1, valuePlaced⟩

theorem checkBlock_confined (scope : StaticScope) (b : List Stmt)
    (placed : BlockPlaced place b) :
    Confined place (checkBlock scope b) (BlockPlaced place) := by
  cases b with
  | nil =>
      rw [checkBlock]
      trivial
  | cons first rest =>
      rw [checkBlock]
      refine (checkStmt_confined scope first placed.1).bind ?_
      rintro ⟨first', next⟩ firstPlaced
      refine (checkBlock_confined next rest placed.2).bind fun rest' restPlaced => ?_
      exact ⟨firstPlaced, restPlaced⟩

theorem checkCases_confined (scope : StaticScope) (expected : Ty) (cs : List Case)
    (placed : CasesPlaced place cs) :
    Confined place (checkCases scope expected cs) (CasesPlaced place) := by
  cases cs with
  | nil =>
      rw [checkCases]
      trivial
  | cons first rest =>
      rw [checkCases]
      refine (checkCase_confined scope expected first placed.1).bind
        fun first' firstPlaced => ?_
      refine (checkCases_confined scope expected rest placed.2).bind fun rest' restPlaced => ?_
      exact ⟨firstPlaced, restPlaced⟩

theorem checkCase_confined (scope : StaticScope) (expected : Ty) (c : Case)
    (placed : c.Placed place) :
    Confined place (checkCase scope expected c) (Case.Placed place) := by
  obtain ⟨value, body, span⟩ := c
  obtain ⟨here, inValue, inBody⟩ := placed
  cases value with
  | none =>
      rw [checkCase]
      refine (checkBlock_confined scope.child body inBody).bind fun body' bodyPlaced => ?_
      exact ⟨here, .none, bodyPlaced⟩
  | some value =>
      rw [checkCase]
      refine (checkExpr_confined scope none value (inValue value rfl)).bind ?_
      rintro ⟨value', received⟩ valuePlaced
      refine (Ty.require_failsAt valuePlaced.start).bind fun _ _ => ?_
      refine (checkBlock_confined scope.child body inBody).bind fun body' bodyPlaced => ?_
      exact ⟨here, .some valuePlaced, bodyPlaced⟩

end

/-! ### Programs -/

theorem checkGlobal_confined {scope : StaticScope} {global : GlobalDecl}
    (placed : global.Placed place) :
    Confined place (checkGlobal scope global) fun checked => checked.1.Placed place := by
  unfold checkGlobal
  refine (checkBinding_confined placed.start placed.value).bind ?_
  rintro ⟨value', ty⟩ valuePlaced
  exact (Chain.defineVariable_failsAt placed.start).bind fun _ _ => ⟨placed.start, valuePlaced⟩

theorem declareFunction_confined {scope : StaticScope} {function : FunctionDecl}
    (placed : function.Placed place) :
    Confined place (declareFunction scope function) fun declared =>
      declared.1.Placed place := by
  unfold declareFunction
  refine (resolveAll_failsAt placed.start _).bind fun types _ => ?_
  refine (resolveReturn_failsAt placed.start).bind fun returnType _ => ?_
  exact (Chain.defineFunction_failsAt placed.start).bind
    fun _ _ => ⟨placed.start, placed.body⟩

theorem calleeOf_failsAt {scope : StaticScope} {function : FunctionDecl}
    (here : place function.span.start) : FailsAt place (calleeOf scope function) := by
  unfold calleeOf
  split
  · trivial
  · exact Chain.lookupFunction_failsAt here

theorem checkFunction_confined {scope : StaticScope} {function : FunctionDecl}
    (placed : function.Placed place) :
    Confined place (checkFunction scope function) (FunctionDecl.Placed place) := by
  unfold checkFunction
  refine (calleeOf_failsAt placed.start).bind fun callee _ => ?_
  refine (bindParameters_failsAt placed.start _ _).bind fun inner _ => ?_
  refine (checkBlock_confined inner function.body placed.body).bind fun body' bodyPlaced => ?_
  exact ⟨placed.start, bodyPlaced⟩

/-- The step of checking a program fails at one of the places, or yields a value as `good`
says. -/
abbrev GlobalConfined {α : Type} (place : Nat → Prop) (step : GlobalCheck α)
    (globals : StaticFrame) (good : α → Prop) : Prop :=
  Leads step globals (fun value _ => good value) (fun fault _ => place fault.offset)

theorem binding_confined {α : Type} {good : α → Prop}
    {step : StaticScope → Except Fault (α × StaticScope)} {globals : StaticFrame}
    (confined : Confined place (step (.ofGlobals globals)) fun result => good result.1) :
    GlobalConfined place (binding step) globals good := by
  unfold GlobalConfined Leads binding
  cases result : step (.ofGlobals globals) with
  | ok pair =>
      obtain ⟨value, scope⟩ := pair
      exact confined.of_ok result
  | error fault => exact confined.of_error result

theorem reading_confined {α : Type} {good : α → Prop} {step : StaticScope → Except Fault α}
    {globals : StaticFrame} (confined : Confined place (step (.ofGlobals globals)) good) :
    GlobalConfined place (reading step) globals good := by
  unfold GlobalConfined Leads reading
  cases result : step (.ofGlobals globals) with
  | ok value => exact confined.of_ok result
  | error fault => exact confined.of_error result

theorem checkEach_confined {α : Type} {before after : α → Prop} {step : α → GlobalCheck α}
    (each : ∀ value globals, before value → GlobalConfined place (step value) globals after)
    (values : List α) (globals : StaticFrame) (holds : ∀ value ∈ values, before value) :
    GlobalConfined place (checkEach step values) globals fun results =>
      ∀ value ∈ results, after value := by
  induction values generalizing globals with
  | nil => exact fun value member => absurd member List.not_mem_nil
  | cons first rest inductionHypothesis =>
      obtain ⟨firstHolds, restHolds⟩ := List.forall_mem_cons.mp holds
      rw [checkEach]
      refine (each first globals firstHolds).bind fun first' wider firstGood => ?_
      refine (inductionHypothesis wider restHolds).bind fun rest' _ restGood => ?_
      exact List.forall_mem_cons.mpr ⟨firstGood, restGood⟩

theorem checkSource_confined {source : Source} (placed : source.Placed place)
    (globals : StaticFrame) :
    GlobalConfined place (checkSource source) globals (Source.Placed place) := by
  unfold checkSource
  refine Leads.bind (checkEach_confined
    (fun _ _ placed => binding_confined (checkGlobal_confined placed)) _ _
    placed.globals) fun globals' _ globalsPlaced => ?_
  refine Leads.bind (checkEach_confined
    (fun _ _ placed => binding_confined (declareFunction_confined placed)) _ _
    placed.functions) fun declared _ declaredPlaced => ?_
  refine Leads.bind (checkEach_confined
    (fun _ _ placed => reading_confined (checkFunction_confined placed)) _ _
    declaredPlaced) fun functions' _ functionsPlaced => ?_
  refine Leads.bind (reading_confined (requireMain_failsAt placed.stop)) fun _ _ _ => ?_
  exact ⟨globalsPlaced, functionsPlaced, placed.start, placed.stop⟩

end Typing

theorem Source.check_confined {source : Source} (placed : source.Placed place) :
    Confined place source.check (Source.Placed place) := by
  unfold Source.check
  cases result : Typing.checkSource source Typing.builtinFrame with
  | ok checked globals =>
      exact (Typing.checkSource_confined placed _).of_ok result
  | error fault globals =>
      exact (Typing.checkSource_confined placed _).of_error result

end ScriptLang
