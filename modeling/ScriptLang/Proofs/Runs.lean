import ScriptLang.Evaluation.Source
import ScriptLang.Proofs.Names
import ScriptLang.Proofs.Statements

/-!
Calling typed functions, and running typed programs.

The induction over calls is on the fuel alone: the body of a function is typed in the globals,
whoever calls it.  While globals are evaluated no function is bound but the built-in ones, whose
bodies are typed in any globals.
-/

namespace ScriptLang

variable {D : Discipline} {returns : Ty} {scope : StaticScope} {state : State}

/-! ### Results of blocks -/

namespace Eval

/-- A block whose last statement returns never ends without a result. -/
theorem block_returns {call : Invocation} {fuel : Nat} (b : List Stmt) {state after : State}
    {flow : Flow} (ends : endsWithResult b = true)
    (ended : block call fuel b state = .ok flow after) : ∃ value, flow = .returned value := by
  induction b generalizing state with
  | nil =>
      cases ends
  | cons first rest inductionHypothesis =>
      rw [block] at ended
      obtain ⟨firstFlow, middle, firstEnded, ended⟩ := step_bind_eq_ok.mp ended
      cases firstFlow with
      | returned value =>
          cases ended
          exact ⟨value, rfl⟩
      | normal =>
          cases rest with
          | nil =>
              cases first with
              | result value span =>
                  rw [stmt] at firstEnded
                  obtain ⟨_, _, _, impossible⟩ := step_bind_eq_ok.mp firstEnded
                  cases impossible
              | _ =>
                  cases ends
          | cons second others =>
              exact inductionHypothesis ends ended

end Eval

theorem Flow.Holds.callValue {flow : Flow} (holds : flow.Holds D returns)
    (blankOrReturned : D.blank returns ∨ ∃ value, flow = .returned value) :
    D.holds returns flow.callValue := by
  cases flow with
  | returned value =>
      exact holds
  | normal =>
      rcases blankOrReturned with blank | ⟨value, impossible⟩
      · exact D.holds_nil blank
      · cases impossible

/-! ### Calls -/

namespace Eval

theorem bindArguments_agrees {globals : StaticFrame} {outer : StaticScope}
    {static last : StaticFrame} {frame : RunFrame} {types : List Ty} {arguments : List Value}
    (parameters : List Parameter) {checkOffset : Nat} (offset : Nat)
    (holds : List.Forall₂ D.holds types arguments) (arity : types.length = parameters.length)
    (named : ∀ ty ∈ types, D.names ty)
    (bound : Typing.bindParameters checkOffset (outer.push static) (parameters.zip types) =
      .ok (outer.push last))
    (agrees : FrameAgrees D globals static frame) :
    ∃ bodyFrame, bindArguments offset frame (parameters.zip (arguments.zip types)) =
        .ok bodyFrame ∧ FrameAgrees D globals last bodyFrame := by
  induction holds generalizing parameters static frame with
  | nil =>
      cases parameters with
      | nil =>
          cases bound
          exact ⟨frame, rfl, agrees⟩
      | cons first rest =>
          cases arity
  | @cons ty value types arguments valueHolds _ inductionHypothesis =>
      cases parameters with
      | nil =>
          cases arity
      | cons first rest =>
          rw [List.zip_cons_cons, Typing.bindParameters] at bound
          obtain ⟨wider, defined, restBound⟩ := bind_eq_ok.mp bound
          obtain ⟨unbound, rfl⟩ := Chain.defineVariable_push_eq_ok.mp defined
          have wider : FrameAgrees D globals
              (static.addVariable first.name (.plain first.name ty true false))
              (frame.addVariable first.name
                { binding := .plain first.name ty true false, value := value }) :=
            agrees.addVariable first.name
              ⟨rfl, named ty List.mem_cons_self, .ofSingle valueHolds⟩
          obtain ⟨bodyFrame, restEq, bodyAgrees⟩ := inductionHypothesis rest
            (Nat.succ.inj arity) (fun other member => named other (List.mem_cons_of_mem ty member))
            restBound wider
          refine ⟨bodyFrame, ?_, bodyAgrees⟩
          have firstBound := (Frame.defineVariable_eq_ok_iff frame _ first.name
            { binding := .plain first.name ty true false, value := value } offset).mpr
              ⟨agrees.unbound unbound, rfl⟩
          rw [List.zip_cons_cons, List.zip_cons_cons, bindArguments]
          exact bind_eq_ok.mpr ⟨_, firstBound, restEq⟩

/-- The body of a call runs over the globals, and the blocks of the caller stay as they are. -/
theorem inCall_sound {α : Type} {step : Eval α} {good : α → Prop} {static : StaticFrame}
    {frame : RunFrame} (frameAgrees : FrameAgrees D scope.globals static frame)
    (stateTyped : StateTyped D scope state)
    (inside : ∀ inner, StateTyped D ((Chain.ofGlobals scope.globals).push static) inner →
      SoundInside D (.ofGlobals scope.globals) step inner good) :
    Sound D scope (inCall frame step) state good := by
  have entered : StateTyped D ((Chain.ofGlobals scope.globals).push static)
      { state with scope := { state.scope with locals := [frame] } } :=
    ⟨.cons frameAgrees .nil, stateTyped.globals⟩
  have led := inside _ entered
  unfold SoundInside Leads at led
  unfold Sound Leads inCall
  cases ended : step { state with scope := { state.scope with locals := [frame] } } with
  | ok value inner =>
      rw [ended] at led
      obtain ⟨holds, _, innerTyped⟩ := led
      exact ⟨holds, stateTyped.locals, innerTyped.globals⟩
  | error stop inner =>
      rw [ended] at led
      obtain ⟨allowed, _, innerTyped⟩ := led
      exact ⟨allowed, stateTyped.locals, innerTyped.globals⟩

theorem body_sound {call : Invocation} (calls : CallsSound D scope.globals call) (fuel : Nat)
    (b : List Stmt) {frame : StaticFrame} (typed : BlockTyped D returns scope frame b)
    (ends : D.blank returns ∨ endsWithResult b = true)
    (stateTyped : StateTyped D (scope.push frame) state) :
    SoundInside D scope (block call fuel b) state fun flow => D.holds returns flow.callValue := by
  have led := block_sound calls fuel b typed stateTyped
  unfold SoundInside Leads at led ⊢
  cases ended : block call fuel b state with
  | ok flow after =>
      rw [ended] at led
      refine ⟨led.1.callValue ?_, led.2⟩
      rcases ends with blank | ends
      · exact .inl blank
      · exact .inr (block_returns b ends ended)
  | error stop after =>
      rw [ended] at led
      exact led

theorem invoke_declared {function : Function} {declaration : FunctionDecl} {frame : RunFrame}
    {arguments : List Value} (fuel offset : Nat) (bodyEq : function.body = .declared declaration)
    (bound : bindArguments declaration.span.start
      { Frame.empty with returnType := some function.signature.returnType }
      (declaration.parameters.zip (arguments.zip function.signature.parameterTypes)) =
        .ok frame) :
    invoke (fuel + 1) function arguments offset = (do
      let flow ← inCall frame (block (invoke fuel) fuel declaration.body)
      return flow.callValue) := by
  rw [invoke, bodyEq]
  dsimp only
  rw [bound]
  rfl

theorem invoke_sound (fuel : Nat) (globals : StaticFrame) :
    CallsSound D globals (invoke fuel) := by
  induction fuel with
  | zero =>
      intro callee function arguments offset scope state _ _ _ stateTyped
      exact ⟨trivial, stateTyped⟩
  | succ fuel inductionHypothesis =>
      intro callee function arguments offset scope state agrees holds globalsEq stateTyped
      subst globalsEq
      obtain ⟨signature, body⟩ := function
      have signatureEq : signature = callee.signature := agrees.same
      have typed : BodyTyped D scope.globals callee.signature body := agrees.typed
      rw [← signatureEq] at typed holds ⊢
      cases typed with
      | builtin builtin =>
          have ends := D.builtin state.sink holds
          unfold Ends at ends
          unfold Sound Leads
          rw [invoke]
          dsimp only
          cases applied : builtin.apply arguments state.sink with
          | mk result sink =>
              rw [applied] at ends
              cases result with
              | ok value =>
                  exact ⟨ends, stateTyped⟩
              | error cause =>
                  exact ⟨ends, stateTyped⟩
      | @declared declaration types returns frame arity named returnsNamed bound typed ends =>
          obtain ⟨bodyFrame, boundEq, bodyAgrees⟩ := bindArguments_agrees declaration.parameters
            declaration.span.start holds arity named bound
            (.ofEmpty scope.globals (some returns) (some returns))
          rw [invoke_declared fuel offset rfl boundEq]
          have inside : Sound D scope
              (inCall bodyFrame (block (invoke fuel) fuel declaration.body)) state
              fun flow => D.holds returns flow.callValue := by
            apply inCall_sound bodyAgrees stateTyped
            intro inner innerTyped
            have calls : CallsSound D (Chain.ofGlobals scope.globals).globals (invoke fuel) :=
              inductionHypothesis
            exact body_sound calls fuel declaration.body typed ends innerTyped
          apply Sound.bind inside
          intro flow after flowHolds afterTyped
          exact .pure flowHolds afterTyped

end Eval

/-! ### What evaluation leaves behind -/

namespace StateTyped

open Eval

variable {fuel : Nat} {after : State}

theorem after_expr {e : Expr} {context : Option Ty} {ty : Ty} {value : Value}
    (stateTyped : StateTyped D scope state) (typed : ExprTyped D scope context e ty)
    (evaluated : expr (invoke fuel) e state = .ok value after) :
    D.holds ty value ∧ StateTyped D scope after :=
  (expr_sound (invoke_sound fuel scope.globals) e typed stateTyped).of_ok evaluated

theorem after_exprs {es : List Expr} {types : List Ty} {values : List Value}
    (stateTyped : StateTyped D scope state) (typed : ExprsTyped D scope types es)
    (evaluated : exprs (invoke fuel) es state = .ok values after) :
    List.Forall₂ D.holds types values ∧ StateTyped D scope after :=
  (exprs_sound (invoke_sound fuel scope.globals) es typed stateTyped).of_ok evaluated

theorem after_index {e : Expr} {i : Int} (stateTyped : StateTyped D scope state)
    (typed : ExprTyped D scope none e .integer)
    (indexed : index (invoke fuel) e state = .ok i after) : StateTyped D scope after :=
  ((index_sound (invoke_sound fuel scope.globals) typed stateTyped).of_ok indexed).2

theorem after_condition {e : Expr} {truth : Bool} (stateTyped : StateTyped D scope state)
    (typed : ExprTyped D scope none e .boolean)
    (tested : condition (invoke fuel) e state = .ok truth after) : StateTyped D scope after :=
  ((condition_sound (invoke_sound fuel scope.globals) typed stateTyped).of_ok tested).2

theorem after_assignable {name : String} {target : Variable} {nameOffset offset : Nat}
    (stateTyped : StateTyped D scope state) (bound : scope.findVariable? name = some target)
    (isMutable : target.mutable = true)
    (assigned : assignable name nameOffset offset state = .ok () after) :
    StateTyped D scope after :=
  ((assignable_sound nameOffset offset bound isMutable stateTyped).of_ok assigned).2

theorem after_arguments {name : String} {arguments : List Expr} {callee : Callee}
    {values : List Value} (stateTyped : StateTyped D scope state)
    (bound : scope.findFunction? (name, arguments.length) = some callee)
    (typed : ExprsTyped D scope callee.signature.parameterTypes arguments)
    (evaluated : exprs (invoke fuel) arguments state = .ok values after) :
    List.Forall₂ D.holds callee.signature.parameterTypes values ∧ StateTyped D scope after ∧
      scope.findFunction? (name, values.length) = some callee := by
  obtain ⟨holds, afterTyped⟩ := stateTyped.after_exprs typed evaluated
  rw [← typed.length_eq, holds.length_eq] at bound
  exact ⟨holds, afterTyped, bound⟩

end StateTyped

/-! ### Programs -/

def OnlyBuiltins (static : StaticFrame) : Prop :=
  ∀ key callee, static.findFunction? key = some callee →
    ∃ builtin : Builtin, callee = builtin.callee

theorem OnlyBuiltins.addVariable {static : StaticFrame} (onlyBuiltins : OnlyBuiltins static)
    (name : String) (target : Variable) : OnlyBuiltins (static.addVariable name target) :=
  onlyBuiltins

theorem BodyTyped.of_builtin {globals : StaticFrame} {builtin : Builtin} {body : Body}
    (typed : BodyTyped D globals builtin.signature body) (others : StaticFrame) :
    BodyTyped D others builtin.signature body := by
  generalize signatureEq : builtin.signature = signature at typed ⊢
  cases typed with
  | builtin found =>
      exact .builtin found
  | declared arity named returnsNamed bound typed ends =>
      have sameName := congrArg Signature.name signatureEq
      have sameQualified := congrArg Signature.qualifiedName signatureEq
      have isPlain : builtin.signature.qualifiedName = builtin.signature.name :=
        sameQualified.trans sameName.symm
      cases builtin with
      | print =>
          exact absurd isPlain (by decide)
      | logarithm =>
          exact absurd isPlain (by decide)
      | converter =>
          exact absurd isPlain (by decide)

theorem FrameAgrees.inGlobals {globals static : StaticFrame} {frame : RunFrame}
    (agrees : FrameAgrees D globals static frame) (onlyBuiltins : OnlyBuiltins static)
    (others : StaticFrame) : FrameAgrees D others static frame := by
  refine ⟨agrees.cells, ?_⟩
  intro key
  have related := agrees.functions key
  cases staticFound : static.findFunction? key with
  | none =>
      rw [agrees.functionUnbound staticFound]
      exact .none
  | some callee =>
      obtain ⟨builtin, rfl⟩ := onlyBuiltins key callee staticFound
      rw [staticFound] at related
      obtain ⟨function, found, functionAgrees⟩ := exists_of_rel_some related
      rw [found]
      exact .some ⟨functionAgrees.same, functionAgrees.typed.of_builtin others⟩

theorem StateTyped.ofGlobals {static : StaticFrame}
    (stateTyped : StateTyped D (.ofGlobals static) state) :
    ∃ frame, state.scope = .ofGlobals frame ∧ FrameAgrees D static static frame := by
  obtain ⟨⟨locals, globals⟩, sink⟩ := state
  obtain ⟨localsAgree, globalsAgree⟩ := stateTyped
  cases localsAgree
  exact ⟨globals, rfl, globalsAgree⟩

theorem holds_of_replicate {ty : Ty} {values : List Value} (count : Nat)
    (holds : List.Forall₂ D.holds (List.replicate count ty) values) :
    ∀ value ∈ values, D.holds ty value := by
  induction count generalizing values with
  | zero =>
      cases holds
      intro value member
      cases member
  | succ count inductionHypothesis =>
      rw [List.replicate_succ] at holds
      cases holds with
      | cons firstHolds restHolds =>
          intro value member
          rcases List.mem_cons.mp member with rfl | inRest
          · exact firstHolds
          · exact inductionHypothesis restHolds value inRest

theorem GlobalTyped.named {static : StaticFrame} {global : GlobalDecl} {target : Variable}
    (typed : GlobalTyped D static global target)
    (stateTyped : StateTyped D (.ofGlobals static) state) : D.names target.ty := by
  cases typed with
  | list isList initial named sized typed =>
      exact named
  | single isSingle typed =>
      exact typed.names stateTyped

theorem GlobalTyped.target_eq {static : StaticFrame} {global : GlobalDecl} {target : Variable}
    (typed : GlobalTyped D static global target) :
    target = .plain global.name target.ty global.mutable global.isList := by
  cases typed with
  | list isList initial named sized typed =>
      rw [isList]
      rfl
  | single isSingle typed =>
      rw [isSingle]
      rfl

namespace Eval

variable {static : StaticFrame}

theorem globalValue_sound (fuel : Nat) {global : GlobalDecl} {target : Variable}
    (typed : GlobalTyped D static global target)
    (stateTyped : StateTyped D (.ofGlobals static) state) :
    Sound D (.ofGlobals static) (initialValue (invoke fuel) global.value) state
      (D.Keeps target) := by
  cases typed with
  | @list elements span ty isList initial named sized typed =>
      rw [initial, initialValue]
      apply (list_sound (invoke_sound fuel static) span (some ty) typed stateTyped).imp
      intro value ⟨values, valueEq, holds⟩
      constructor
      · intro impossible
        cases impossible
      · intro _
        have sameLength : elements.length = values.length := by
          rw [← holds.length_eq, List.length_replicate]
        rw [sameLength] at sized
        exact ⟨values, valueEq, sized, holds_of_replicate _ holds⟩
  | single isSingle typed =>
      exact (initialValue_sound (invoke_sound fuel static) typed stateTyped).imp
        fun value holds => .ofSingle holds

theorem defineGlobal_sound (fuel : Nat) {global : GlobalDecl} {target : Variable}
    (onlyBuiltins : OnlyBuiltins static) (typed : GlobalTyped D static global target)
    (decorated : global.target = some target)
    (unbound : static.findVariable? global.name = none)
    (stateTyped : StateTyped D (.ofGlobals static) state) :
    Leads (defineGlobal fuel global) state
      (fun _ after => StateTyped D (.ofGlobals (static.addVariable global.name target)) after)
      fun stop after => D.Allows stop ∧ StateTyped D (.ofGlobals static) after := by
  unfold defineGlobal
  apply Leads.bind (globalValue_sound fuel typed stateTyped)
  intro value after holds
  obtain ⟨keeps, afterTyped⟩ := holds
  obtain ⟨frame, scopeEq, agrees⟩ := afterTyped.ofGlobals
  have targetEq := typed.target_eq
  rw [decorated, declaredTy]
  dsimp only
  rw [← targetEq]
  let cell : Cell := { binding := target, value := value }
  have name_eq : target.name = global.name := by
    rw [targetEq]
    rfl
  have defined : after.scope.defineVariable target.name cell global.span.start =
      .ok (.ofGlobals (frame.addVariable global.name cell)) := by
    rw [scopeEq, name_eq]
    exact Chain.defineVariable_ofGlobals_eq_ok.mpr ⟨agrees.unbound unbound, rfl⟩
  unfold defineVariable
  rw [leads_bind, leads_get, leads_bind, defined]
  have cellAgrees : CellAgrees D target cell := ⟨rfl, typed.named stateTyped, keeps⟩
  refine ⟨.nil, ?_⟩
  exact (agrees.addVariable global.name cellAgrees).inGlobals onlyBuiltins _

theorem defineGlobals_sound (fuel : Nat) {globals : List GlobalDecl} {static last : StaticFrame}
    {state : State} (onlyBuiltins : OnlyBuiltins static)
    (typed : GlobalsTyped D static globals last)
    (stateTyped : StateTyped D (.ofGlobals static) state) :
    Leads (defineGlobals fuel globals) state
      (fun _ after => OnlyBuiltins last ∧ StateTyped D (.ofGlobals last) after)
      fun stop after => D.Allows stop ∧ ∃ bound, StateTyped D (.ofGlobals bound) after := by
  induction globals generalizing static state with
  | nil =>
      cases typed
      exact ⟨onlyBuiltins, stateTyped⟩
  | cons first rest inductionHypothesis =>
      cases typed with
      | @cons _ _ _ _ target firstTyped decorated unbound restTyped =>
          rw [defineGlobals]
          apply Leads.bind ((defineGlobal_sound fuel onlyBuiltins firstTyped decorated unbound
            stateTyped).imp (fun _ _ holds => holds) fun _ _ holds => ⟨holds.1, _, holds.2⟩)
          intro _ after afterTyped
          have restBuiltins := onlyBuiltins.addVariable first.name target
          exact inductionHypothesis restBuiltins restTyped afterTyped

end Eval

/-- The globals that functions are being bound into; their bodies are typed in all globals. -/
def FunctionsTyped (D : Discipline) (globals : StaticFrame) (functions : List FunctionDecl) :
    Prop :=
  ∀ function ∈ functions, ∀ callee, function.callee = some callee →
    BodyTyped D globals callee.signature (.declared function)

theorem functionOf_agrees {globals : StaticFrame} {function : FunctionDecl} {callee : Callee}
    (decorated : function.callee = some callee) (named : callee.signature.name = function.name)
    (plain : callee.signature.qualifiedName = function.name)
    (typed : BodyTyped D globals callee.signature (.declared function)) :
    FunctionAgrees D globals callee (Eval.functionOf function) := by
  obtain ⟨⟨name, qualifiedName, parameterTypes, returnType⟩, kind⟩ := callee
  dsimp only at named plain
  subst named
  subst plain
  have same : (Eval.functionOf function).signature =
      ⟨function.name, function.name, parameterTypes, returnType⟩ := by
    unfold Eval.functionOf
    rw [decorated]
    rfl
  exact ⟨same, typed⟩

namespace Eval

theorem defineFunction_sound {globals static : StaticFrame} {function : FunctionDecl}
    {callee : Callee} {frame : RunFrame} (offset : Nat)
    (functionAgrees : FunctionAgrees D globals callee (functionOf function))
    (unbound : static.findFunction? callee.signature.key = none)
    (scopeEq : state.scope = .ofGlobals frame) (agrees : FrameAgrees D globals static frame) :
    Leads (defineFunction (functionOf function) offset) state
      (fun _ after => ∃ wider, after.scope = .ofGlobals wider ∧
        FrameAgrees D globals (static.addFunction callee.signature.key callee) wider)
      fun _ _ => False := by
  have defined : state.scope.defineFunction (functionOf function).signature.key
      (functionOf function) offset =
      .ok (.ofGlobals (frame.addFunction callee.signature.key (functionOf function))) := by
    rw [scopeEq, functionAgrees.same]
    exact Chain.defineFunction_ofGlobals_eq_ok.mpr ⟨agrees.functionUnbound unbound, rfl⟩
  unfold defineFunction
  rw [leads_bind, leads_get, leads_bind, defined]
  exact ⟨_, rfl, agrees.addFunction callee.signature.key functionAgrees⟩

theorem defineFunctions_sound {globals static : StaticFrame} {functions : List FunctionDecl}
    {frame : RunFrame} {state : State} (declared : FunctionsDeclared static functions globals)
    (bodies : FunctionsTyped D globals functions) (scopeEq : state.scope = .ofGlobals frame)
    (agrees : FrameAgrees D globals static frame) :
    Leads (defineFunctions functions) state
      (fun _ after => StateTyped D (.ofGlobals globals) after) fun _ _ => False := by
  induction functions generalizing static frame state with
  | nil =>
      cases declared
      refine ⟨?_, ?_⟩
      · rw [scopeEq]
        exact .nil
      · rw [scopeEq]
        exact agrees
  | cons first rest inductionHypothesis =>
      cases declared with
      | cons decorated named plain unbound restDeclared =>
          have typed := bodies first List.mem_cons_self _ decorated
          have functionAgrees := functionOf_agrees decorated named plain typed
          rw [defineFunctions]
          apply Leads.bind (defineFunction_sound first.span.start functionAgrees unbound scopeEq
            agrees)
          intro _ after ⟨wider, widerEq, widerAgrees⟩
          exact inductionHypothesis restDeclared
            (fun function member => bodies function (List.mem_cons_of_mem first member)) widerEq
            widerAgrees

end Eval

theorem onlyBuiltins_builtinFrame : OnlyBuiltins Typing.builtinFrame := by
  intro key callee bound
  obtain ⟨builtin, _, _, rfl⟩ := Frame.findFunction?_ofBuiltins.mp bound
  exact ⟨builtin, rfl⟩

theorem FrameAgrees.addBuiltin {globals static : StaticFrame} {frame : RunFrame}
    (agrees : FrameAgrees D globals static frame) (builtin : Builtin) :
    FrameAgrees D globals (static.addFunction builtin.signature.key builtin.callee)
      (frame.addFunction builtin.signature.key (.ofBuiltin builtin)) :=
  agrees.addFunction builtin.signature.key ⟨rfl, .builtin builtin⟩

theorem State.initial_typed (sink : Sink) :
    StateTyped D (.ofGlobals Typing.builtinFrame) (.initial sink) := by
  have empty : FrameAgrees D Typing.builtinFrame .empty .empty := .ofEmpty _ none none
  exact ⟨.nil, ((empty.addBuiltin .print).addBuiltin .logarithm).addBuiltin .converter⟩

namespace Eval

theorem load_sound {source : Source} {early globals : StaticFrame} (fuel : Nat)
    (typed : SourceTyped D source early globals)
    (stateTyped : StateTyped D (.ofGlobals Typing.builtinFrame) state) :
    Leads (load fuel source) state
      (fun main after => StateTyped D (.ofGlobals globals) after ∧
        ∃ callee, FunctionAgrees D globals callee main ∧
          callee.signature.parameterTypes = [] ∧ callee.signature.returnType = .integer)
      fun stop after => D.Allows stop ∧ ∃ bound, StateTyped D (.ofGlobals bound) after := by
  unfold load
  apply Leads.bind (defineGlobals_sound fuel onlyBuiltins_builtinFrame typed.globalsTyped
    stateTyped)
  intro _ after ⟨onlyBuiltins, afterTyped⟩
  obtain ⟨frame, scopeEq, agrees⟩ := afterTyped.ofGlobals
  apply Leads.bind ((defineFunctions_sound typed.declared typed.bodies scopeEq
    (agrees.inGlobals onlyBuiltins globals)).imp (fun _ _ holds => holds)
      fun _ _ impossible => impossible.elim)
  intro _ last lastTyped
  obtain ⟨callee, bound, noParameters, isInteger⟩ := typed.main
  obtain ⟨main, found, mainAgrees⟩ := lastTyped.function_bound bound
  rw [leads_bind, leads_get, found]
  exact ⟨lastTyped, callee, mainAgrees, noParameters, isInteger⟩

/-- A typed program yields an integer, or whatever else the discipline allows for one. -/
theorem program_sound {source : Source} {early globals : StaticFrame} (fuel : Nat)
    (typed : SourceTyped D source early globals)
    (stateTyped : StateTyped D (.ofGlobals Typing.builtinFrame) state) :
    Leads (program fuel source) state
      (fun value after => D.holds .integer value ∧ StateTyped D (.ofGlobals globals) after)
      fun stop after => D.Allows stop ∧ ∃ bound, StateTyped D (.ofGlobals bound) after := by
  unfold program
  apply Leads.bind (load_sound fuel typed stateTyped)
  intro main after ⟨afterTyped, callee, agrees, noParameters, isInteger⟩
  have noArguments : List.Forall₂ D.holds callee.signature.parameterTypes [] := by
    rw [noParameters]
    exact .nil
  have called := invoke_sound fuel globals source.span.start agrees noArguments rfl afterTyped
  rw [isInteger] at called
  exact Leads.imp called (fun _ _ holds => holds) fun _ _ holds => ⟨holds.1, _, holds.2⟩

end Eval
end ScriptLang
