import ScriptLang.Evaluation.Source
import ScriptLang.Proofs.CheckedPlaces
import ScriptLang.Proofs.Names

/-!
The places at which a run fails.

A run of a program that stands at some places fails only at these places.  What carries this
through the calls is that every function in scope is built in, or declared by a tree that stands
at the places.  A call of a built-in function fails where the call stands.
-/

namespace ScriptLang

variable (place : Nat → Prop)

/-- The declaration behind the function, if there is one, stands at the places. -/
def Function.Placed (function : Function) : Prop :=
  ∀ declaration, function.body = .declared declaration → declaration.Placed place

def RunFrame.Placed (frame : RunFrame) : Prop :=
  ∀ key function, frame.findFunction? key = some function → function.Placed place

structure RunScope.Placed (scope : RunScope) : Prop where
  locals : ∀ frame ∈ scope.locals, RunFrame.Placed place frame
  globals : RunFrame.Placed place scope.globals

def State.Placed (state : State) : Prop :=
  RunScope.Placed place state.scope

def Stop.At : Stop → Prop
  | .fault found => place found.offset
  | .outOfFuel => True

/-- The step keeps the functions in scope at the places and stops at one of them, or yields a
value as `good` says. -/
def RunConfined {α : Type} (step : Eval α) (good : α → Prop) : Prop :=
  ∀ state : State, state.Placed place →
    Leads step state (fun value after => good value ∧ after.Placed place)
      (fun stop _ => stop.At place)

abbrev RunFailsAt {α : Type} (step : Eval α) : Prop :=
  RunConfined place step fun _ => True

variable {place}

/-! ### Scopes of a run -/

namespace RunFrame.Placed

variable {frame : RunFrame}

theorem ofNoFunctions (none : frame.functionEntries = []) : RunFrame.Placed place frame := by
  intro key function found
  unfold Frame.findFunction? at found
  rw [none] at found
  cases found

theorem addVariable (placed : RunFrame.Placed place frame) (name : String) (cell : Cell) :
    RunFrame.Placed place (frame.addVariable name cell) :=
  placed

theorem updateVariable (placed : RunFrame.Placed place frame) (name : String)
    (change : Cell → Cell) : RunFrame.Placed place (frame.updateVariable name change) :=
  placed

theorem addFunction (placed : RunFrame.Placed place frame) (key : String × Nat)
    {function : Function} (functionPlaced : function.Placed place) :
    RunFrame.Placed place (frame.addFunction key function) := by
  intro other found foundEq
  rw [Frame.findFunction?_addFunction] at foundEq
  split at foundEq
  · cases foundEq
    exact functionPlaced
  · exact placed other found foundEq

theorem defineVariable (placed : RunFrame.Placed place frame) (name : String) (cell : Cell)
    {offset : Nat} (here : place offset) :
    Confined place (frame.defineVariable name cell offset) (RunFrame.Placed place) := by
  unfold Frame.defineVariable
  split
  · exact placed.addVariable name cell
  · exact here

theorem defineFunction (placed : RunFrame.Placed place frame) (key : String × Nat)
    {function : Function} (functionPlaced : function.Placed place) {offset : Nat}
    (here : place offset) :
    Confined place (frame.defineFunction key function offset) (RunFrame.Placed place) := by
  unfold Frame.defineFunction
  split
  · exact placed.addFunction key functionPlaced
  · exact here

end RunFrame.Placed

theorem RunFrame.updateFirst_placed (name : String) (change : Cell → Cell)
    (frames : List RunFrame) (placed : ∀ frame ∈ frames, RunFrame.Placed place frame)
    {updated : List RunFrame} (found : Chain.updateFirst name change frames = some updated) :
    ∀ frame ∈ updated, RunFrame.Placed place frame := by
  induction frames generalizing updated with
  | nil => cases found
  | cons frame outer inductionHypothesis =>
      obtain ⟨framePlaced, outerPlaced⟩ := List.forall_mem_cons.mp placed
      unfold Chain.updateFirst at found
      split at found
      · cases found
        exact List.forall_mem_cons.mpr ⟨framePlaced.updateVariable name change, outerPlaced⟩
      · obtain ⟨outer', outerEq, rfl⟩ := Option.map_eq_some_iff.mp found
        exact List.forall_mem_cons.mpr
          ⟨framePlaced, inductionHypothesis outerPlaced outerEq⟩

namespace RunScope.Placed

variable {scope : RunScope}

theorem ofGlobals {globals : RunFrame} (placed : RunFrame.Placed place globals) :
    RunScope.Placed place (.ofGlobals globals) :=
  ⟨fun _ member => absurd member List.not_mem_nil, placed⟩

theorem frames (placed : RunScope.Placed place scope) :
    ∀ frame ∈ scope.frames, RunFrame.Placed place frame :=
  List.forall_mem_append.mpr ⟨placed.locals, List.forall_mem_singleton.mpr placed.globals⟩

theorem findFunction (placed : RunScope.Placed place scope) {key : String × Nat}
    {function : Function} (found : scope.findFunction? key = some function) :
    function.Placed place := by
  obtain ⟨frame, member, foundHere⟩ := List.exists_of_findSome?_eq_some found
  exact placed.frames frame member key function foundHere

theorem push (placed : RunScope.Placed place scope) {frame : RunFrame}
    (framePlaced : RunFrame.Placed place frame) : RunScope.Placed place (scope.push frame) :=
  ⟨List.forall_mem_cons.mpr ⟨framePlaced, placed.locals⟩, placed.globals⟩

theorem tail (placed : RunScope.Placed place scope) :
    RunScope.Placed place { scope with locals := scope.locals.tail } :=
  ⟨fun frame member => placed.locals frame (List.mem_of_mem_tail member), placed.globals⟩

theorem innermost (placed : RunScope.Placed place scope) :
    RunFrame.Placed place scope.innermost := by
  obtain ⟨locals, globals⟩ := scope
  cases locals with
  | nil => exact placed.globals
  | cons frame outer => exact placed.locals frame List.mem_cons_self

theorem withInnermost (placed : RunScope.Placed place scope) {frame : RunFrame}
    (framePlaced : RunFrame.Placed place frame) :
    RunScope.Placed place (scope.withInnermost frame) := by
  obtain ⟨locals, globals⟩ := scope
  cases locals with
  | nil => exact ⟨placed.locals, framePlaced⟩
  | cons first outer =>
      obtain ⟨_, outerPlaced⟩ := List.forall_mem_cons.mp placed.locals
      exact ⟨List.forall_mem_cons.mpr ⟨framePlaced, outerPlaced⟩, placed.globals⟩

theorem updateVariable (placed : RunScope.Placed place scope) (name : String)
    (change : Cell → Cell) : RunScope.Placed place (scope.updateVariable name change) := by
  unfold Chain.updateVariable
  split
  · rename_i locals found
    exact ⟨RunFrame.updateFirst_placed name change _ placed.locals found, placed.globals⟩
  · exact ⟨placed.locals, placed.globals.updateVariable name change⟩

end RunScope.Placed

theorem State.initial_placed (sink : Sink) : (State.initial sink).Placed place := by
  apply RunScope.Placed.ofGlobals
  intro key function found declaration isDeclared
  obtain ⟨builtin, _, _, rfl⟩ := Frame.findFunction?_ofBuiltins.mp found
  cases isDeclared

/-! ### Rules for steps -/

namespace RunConfined

variable {α β : Type} {good : α → Prop} {best : β → Prop}

theorem pure {value : α} (holds : good value) : RunConfined place (Pure.pure value) good :=
  fun _ placed => ⟨holds, placed⟩

theorem bind {step : Eval α} {next : α → Eval β} (confined : RunConfined place step good)
    (continues : ∀ value, good value → RunConfined place (next value) best) :
    RunConfined place (step >>= next) best := by
  intro state placed
  refine (confined state placed).bind fun value after reached => ?_
  exact continues value reached.1 after reached.2

theorem fail {cause : Cause} {offset : Nat} (here : place offset) :
    RunConfined place (Eval.fail cause offset) good :=
  fun _ _ => here

theorem ofExcept {step : Except Fault α} (confined : Confined place step good) :
    RunConfined place (Eval.ofExcept step) good := by
  intro state placed
  cases step with
  | ok value => exact ⟨confined, placed⟩
  | error fault => exact confined

end RunConfined

namespace Eval

/-! ### Steps on the scopes -/

theorem lookupVariable_failsAt {name : String} {offset : Nat} (here : place offset) :
    RunFailsAt place (lookupVariable name offset) := by
  intro state placed
  exact RunConfined.ofExcept (Chain.lookupVariable_failsAt here) state placed

theorem lookupFunction_confined {key : String × Nat} {offset : Nat} (here : place offset) :
    RunConfined place (lookupFunction key offset) (Function.Placed place) := by
  intro state placed
  refine RunConfined.ofExcept ?_ state placed
  unfold Chain.lookupFunction
  split
  · rename_i function found
    exact placed.findFunction found
  · exact here

theorem defineVariable_failsAt {binding : Variable} {value : Value} {offset : Nat}
    (here : place offset) : RunFailsAt place (defineVariable binding value offset) := by
  intro state placed
  have defined := (placed.innermost.defineVariable binding.name
    { binding := binding, value := value } here).map
      fun _ framePlaced => placed.withInnermost framePlaced
  refine (RunConfined.ofExcept defined state placed).bind fun scope after reached => ?_
  exact ⟨trivial, reached.1⟩

theorem defineFunction_failsAt {function : Function} {offset : Nat}
    (functionPlaced : function.Placed place) (here : place offset) :
    RunFailsAt place (defineFunction function offset) := by
  intro state placed
  have defined := (placed.innermost.defineFunction function.signature.key
    functionPlaced here).map fun _ framePlaced => placed.withInnermost framePlaced
  refine (RunConfined.ofExcept defined state placed).bind fun scope after reached => ?_
  exact ⟨trivial, reached.1⟩

theorem store_failsAt {name : String} {value : Value} : RunFailsAt place (store name value) :=
  fun _ placed => ⟨trivial, placed.updateVariable name _⟩

theorem inBlock_failsAt {α : Type} {step : Eval α} (confined : RunFailsAt place step) :
    RunFailsAt place (inBlock step) := by
  intro state placed
  have inside : State.Placed place { state with scope := state.scope.child } :=
    RunScope.Placed.push placed (.ofNoFunctions rfl)
  have led := confined _ inside
  unfold Leads at led ⊢
  unfold inBlock
  dsimp only
  cases result : step { state with scope := state.scope.child } with
  | ok value inner =>
      rw [result] at led
      exact ⟨trivial, led.2.tail⟩
  | error stop inner =>
      rw [result] at led
      exact led

theorem inCall_failsAt {α : Type} {frame : RunFrame} {step : Eval α}
    (framePlaced : RunFrame.Placed place frame) (confined : RunFailsAt place step) :
    RunFailsAt place (inCall frame step) := by
  intro state placed
  have inside :
      State.Placed place { state with scope := { state.scope with locals := [frame] } } :=
    ⟨List.forall_mem_singleton.mpr framePlaced, placed.globals⟩
  have led := confined _ inside
  unfold Leads at led ⊢
  unfold inCall
  dsimp only
  cases result : step { state with scope := { state.scope with locals := [frame] } } with
  | ok value inner =>
      rw [result] at led
      exact ⟨trivial, placed.locals, led.2.globals⟩
  | error stop inner =>
      rw [result] at led
      exact led

/-! ### Expressions -/

section

variable {offset : Nat} (here : place offset)
include here

theorem expectBoolean_failsAt {operator : String} {value : Value} :
    RunFailsAt place (expectBoolean operator offset value) := by
  unfold expectBoolean
  split
  · exact .pure trivial
  · exact .fail here

theorem expectIndex_failsAt {value : Value} : RunFailsAt place (expectIndex offset value) := by
  unfold expectIndex
  split
  · exact .pure trivial
  · exact .fail here

theorem elementAt_failsAt {list : Value} {index : Int} :
    RunFailsAt place (elementAt list index offset) := by
  unfold elementAt
  split
  · split
    · exact .pure trivial
    · exact .fail here
  · exact .fail here

theorem applyOperator_failsAt {op : BinaryOp} {left right : Value} :
    RunFailsAt place (applyOperator op left right offset) := by
  unfold applyOperator
  split
  · exact .pure trivial
  · exact .fail here

theorem logical_failsAt {op : BinaryOp} {left : Value} {right : Eval Value}
    (confined : RunFailsAt place right) : RunFailsAt place (logical op offset left right) := by
  unfold logical
  refine (expectBoolean_failsAt here).bind fun truth _ => ?_
  split
  · exact .pure trivial
  · refine confined.bind fun value _ => ?_
    exact (expectBoolean_failsAt here).bind fun _ _ => .pure trivial

end

def InvocationPlaced (place : Nat → Prop) (invoke : Invocation) : Prop :=
  ∀ function arguments offset, function.Placed place → place offset →
    RunFailsAt place (invoke function arguments offset)

variable {invoke : Invocation}

mutual

theorem expr_failsAt (invokes : InvocationPlaced place invoke) (e : Expr)
    (placed : e.Placed place) : RunFailsAt place (expr invoke e) := by
  cases e with
  | literal value span ty =>
      rw [expr]
      exact .pure trivial
  | group inner span ty =>
      rw [expr]
      exact expr_failsAt invokes inner placed.2
  | binary op left right span ty =>
      rw [expr]
      refine (expr_failsAt invokes left placed.2.1).bind fun leftValue _ => ?_
      split
      · exact logical_failsAt placed.1 (expr_failsAt invokes right placed.2.2)
      · refine (expr_failsAt invokes right placed.2.2).bind fun rightValue _ => ?_
        exact applyOperator_failsAt placed.1
  | access name span ty target =>
      rw [expr]
      exact (lookupVariable_failsAt placed).bind fun _ _ => .pure trivial
  | element name index span ty target =>
      rw [expr]
      refine (lookupVariable_failsAt placed.1).bind fun _ _ => ?_
      refine (expr_failsAt invokes index placed.2).bind fun _ _ => ?_
      refine (expectIndex_failsAt placed.2.start).bind fun _ _ => ?_
      refine (lookupVariable_failsAt placed.1).bind fun _ _ => ?_
      exact elementAt_failsAt placed.1
  | call name arguments span ty callee =>
      rw [expr]
      refine (exprs_failsAt invokes arguments placed.2).bind fun values _ => ?_
      refine (lookupFunction_confined placed.1).bind fun function functionPlaced => ?_
      exact invokes function values span.start functionPlaced placed.1
  | list elements span ty =>
      rw [expr]
      exact (exprs_failsAt invokes elements placed.2).bind fun _ _ => .pure trivial

theorem exprs_failsAt (invokes : InvocationPlaced place invoke) (es : List Expr)
    (placed : AllPlaced place es) : RunFailsAt place (exprs invoke es) := by
  cases es with
  | nil =>
      rw [exprs]
      exact .pure trivial
  | cons first rest =>
      rw [exprs]
      refine (expr_failsAt invokes first placed.1).bind fun _ _ => ?_
      exact (exprs_failsAt invokes rest placed.2).bind fun _ _ => .pure trivial

end

theorem index_failsAt (invokes : InvocationPlaced place invoke) {e : Expr}
    (placed : e.Placed place) : RunFailsAt place (index invoke e) :=
  (expr_failsAt invokes e placed).bind fun _ _ => expectIndex_failsAt placed.start

theorem condition_failsAt (invokes : InvocationPlaced place invoke) {e : Expr}
    (placed : e.Placed place) : RunFailsAt place (condition invoke e) :=
  (expr_failsAt invokes e placed).bind fun _ _ => expectBoolean_failsAt placed.start

/-! ### Statements -/

theorem initialValue_failsAt (invokes : InvocationPlaced place invoke) {value : Option Expr}
    (placed : OptionPlaced place value) : RunFailsAt place (initialValue invoke value) := by
  unfold initialValue
  split
  · exact expr_failsAt invokes _ (placed _ rfl)
  · exact .pure trivial

theorem assignable_failsAt {name : String} {nameOffset offset : Nat} (atName : place nameOffset)
    (here : place offset) : RunFailsAt place (assignable name nameOffset offset) := by
  unfold assignable
  refine (lookupVariable_failsAt atName).bind fun cell _ => ?_
  split
  · exact .pure trivial
  · exact .fail here

theorem storeElement_failsAt {name : String} {position : Int} {value : Value} {offset : Nat}
    (here : place offset) : RunFailsAt place (storeElement name position value offset) := by
  unfold storeElement
  refine (lookupVariable_failsAt here).bind fun cell _ => ?_
  split
  · split
    · exact store_failsAt
    · exact .fail here
  · exact .fail here

theorem assign_failsAt (invokes : InvocationPlaced place invoke) {receiver value : Expr}
    {offset : Nat} (here : place offset)
    (receiverPlaced : receiver.Placed place) (valuePlaced : value.Placed place) :
    RunFailsAt place (assign invoke receiver value offset) := by
  unfold assign
  split
  · refine (assignable_failsAt receiverPlaced here).bind fun _ _ => ?_
    exact (expr_failsAt invokes value valuePlaced).bind fun _ _ => store_failsAt
  · refine (assignable_failsAt receiverPlaced.1 here).bind fun _ _ => ?_
    refine (index_failsAt invokes receiverPlaced.2).bind fun position _ => ?_
    refine (expr_failsAt invokes value valuePlaced).bind fun result _ => ?_
    exact storeElement_failsAt receiverPlaced.1
  · exact .fail here

theorem rounds_failsAt (fuel : Nat) {test : Eval Bool} {body : Eval Flow}
    (testConfined : RunFailsAt place test) (bodyConfined : RunFailsAt place body) :
    RunFailsAt place (rounds fuel test body) := by
  induction fuel with
  | zero => exact fun _ _ => trivial
  | succ fuel inductionHypothesis =>
      intro state placed
      unfold Leads rounds
      have tested := testConfined state placed
      cases testResult : test state with
      | error stop after => exact tested.of_error testResult
      | ok truth after =>
          have afterPlaced := (tested.of_ok testResult).2
          cases truth with
          | false => exact ⟨trivial, afterPlaced⟩
          | true =>
              have ran := bodyConfined after afterPlaced
              dsimp only
              cases bodyResult : body after with
              | error stop final => exact ran.of_error bodyResult
              | ok flow final =>
                  have finalPlaced := (ran.of_ok bodyResult).2
                  cases flow with
                  | returned value => exact ⟨trivial, finalPlaced⟩
                  | normal => exact inductionHypothesis final finalPlaced

theorem matchesCase_failsAt (invokes : InvocationPlaced place invoke) {subject : Value}
    {value : Option Expr} (placed : OptionPlaced place value) :
    RunFailsAt place (matchesCase invoke subject value) := by
  unfold matchesCase
  split
  · exact (expr_failsAt invokes _ (placed _ rfl)).bind fun _ _ => .pure trivial
  · exact .pure trivial

mutual

theorem stmt_failsAt (invokes : InvocationPlaced place invoke) (fuel : Nat) (s : Stmt)
    (placed : s.Placed place) : RunFailsAt place (stmt invoke fuel s) := by
  cases s with
  | expression value span =>
      rw [stmt]
      exact (expr_failsAt invokes value placed.2).bind fun _ _ => .pure trivial
  | declaration name typeName value span target =>
      rw [stmt]
      refine (initialValue_failsAt invokes placed.2).bind fun _ _ => ?_
      exact (defineVariable_failsAt placed.1).bind fun _ _ => .pure trivial
  | assignment receiver value span =>
      rw [stmt]
      refine (assign_failsAt invokes placed.1 placed.2.1 placed.2.2).bind fun _ _ => ?_
      exact .pure trivial
  | conditional test thenBlock elseBlock span =>
      rw [stmt]
      obtain ⟨_, inTest, inThen, inElse⟩ := placed
      refine (condition_failsAt invokes inTest).bind fun truth _ => ?_
      split
      · exact inBlock_failsAt (block_failsAt invokes fuel thenBlock inThen)
      · exact inBlock_failsAt (block_failsAt invokes fuel elseBlock inElse)
  | switch subject cases span =>
      rw [stmt]
      refine (expr_failsAt invokes subject placed.2.1).bind fun value _ => ?_
      exact firstCase_failsAt invokes fuel value cases placed.2.2
  | loop test body span =>
      rw [stmt]
      exact rounds_failsAt fuel (condition_failsAt invokes placed.2.1)
        (inBlock_failsAt (block_failsAt invokes fuel body placed.2.2))
  | result value span =>
      rw [stmt]
      exact (expr_failsAt invokes value placed.2).bind fun _ _ => .pure trivial

theorem block_failsAt (invokes : InvocationPlaced place invoke) (fuel : Nat) (b : List Stmt)
    (placed : BlockPlaced place b) : RunFailsAt place (block invoke fuel b) := by
  cases b with
  | nil =>
      rw [block]
      exact .pure trivial
  | cons first rest =>
      rw [block]
      refine (stmt_failsAt invokes fuel first placed.1).bind fun flow _ => ?_
      cases flow with
      | returned value => exact .pure trivial
      | normal => exact block_failsAt invokes fuel rest placed.2

theorem firstCase_failsAt (invokes : InvocationPlaced place invoke) (fuel : Nat)
    (subject : Value) (cs : List Case) (placed : CasesPlaced place cs) :
    RunFailsAt place (firstCase invoke fuel subject cs) := by
  cases cs with
  | nil =>
      rw [firstCase]
      exact .pure trivial
  | cons first rest =>
      obtain ⟨value, body, span⟩ := first
      obtain ⟨⟨_, inValue, inBody⟩, inRest⟩ := placed
      rw [firstCase]
      refine (matchesCase_failsAt invokes inValue).bind fun matched _ => ?_
      split
      · exact inBlock_failsAt (block_failsAt invokes fuel body inBody)
      · exact firstCase_failsAt invokes fuel subject rest inRest

end

/-! ### Calls and programs -/

theorem bindArguments_confined {offset : Nat} (here : place offset)
    (bindings : List (Parameter × Value × Ty)) {frame : RunFrame}
    (placed : RunFrame.Placed place frame) :
    Confined place (bindArguments offset frame bindings) (RunFrame.Placed place) := by
  induction bindings generalizing frame with
  | nil => exact placed
  | cons first rest inductionHypothesis =>
      obtain ⟨parameter, value, ty⟩ := first
      rw [bindArguments]
      exact (placed.defineVariable parameter.name _ here).bind fun wider widerPlaced =>
        inductionHypothesis widerPlaced

theorem invoke_failsAt (fuel : Nat) : InvocationPlaced place (Eval.invoke fuel) := by
  -- By induction on the depth of calls: the body that a call runs stands at the places.
  induction fuel with
  | zero =>
      intro function arguments offset _ _ state placed
      exact trivial
  | succ fuel inductionHypothesis =>
      intro function arguments offset functionPlaced here
      rw [Eval.invoke]
      split
      · intro state placed
        unfold Leads
        dsimp only
        cases Builtin.apply _ arguments state.sink with
        | mk result sink =>
            cases result with
            | ok value => exact ⟨trivial, placed⟩
            | error cause => exact here
      · rename_i declaration isDeclared
        have declarationPlaced := functionPlaced declaration isDeclared
        have emptyPlaced : RunFrame.Placed place
            { Frame.empty with returnType := some function.signature.returnType } :=
          .ofNoFunctions rfl
        have bound := bindArguments_confined declarationPlaced.start
          (declaration.parameters.zip (arguments.zip function.signature.parameterTypes))
          emptyPlaced
        refine (RunConfined.ofExcept bound).bind fun frame framePlaced => ?_
        refine (inCall_failsAt framePlaced (block_failsAt inductionHypothesis fuel
          declaration.body declarationPlaced.body)).bind fun _ _ => ?_
        exact .pure trivial
      · exact .fail here

theorem defineGlobals_failsAt (fuel : Nat) (globals : List GlobalDecl)
    (placed : ∀ global ∈ globals, global.Placed place) :
    RunFailsAt place (defineGlobals fuel globals) := by
  induction globals with
  | nil => exact .pure trivial
  | cons first rest inductionHypothesis =>
      obtain ⟨firstPlaced, restPlaced⟩ := List.forall_mem_cons.mp placed
      rw [defineGlobals]
      have defined : RunFailsAt place (defineGlobal fuel first) :=
        (initialValue_failsAt (invoke_failsAt fuel) firstPlaced.value).bind
          fun _ _ => defineVariable_failsAt firstPlaced.start
      exact defined.bind fun _ _ => inductionHypothesis restPlaced

theorem functionOf_placed {declaration : FunctionDecl} (placed : declaration.Placed place) :
    (functionOf declaration).Placed place := by
  intro other isDeclared
  cases isDeclared
  exact placed

theorem defineFunctions_failsAt (functions : List FunctionDecl)
    (placed : ∀ function ∈ functions, function.Placed place) :
    RunFailsAt place (defineFunctions functions) := by
  induction functions with
  | nil => exact .pure trivial
  | cons first rest inductionHypothesis =>
      obtain ⟨firstPlaced, restPlaced⟩ := List.forall_mem_cons.mp placed
      rw [defineFunctions]
      exact (defineFunction_failsAt (functionOf_placed firstPlaced) firstPlaced.start).bind
        fun _ _ => inductionHypothesis restPlaced

theorem load_confined (fuel : Nat) {source : Source} (placed : source.Placed place) :
    RunConfined place (load fuel source) (Function.Placed place) := by
  unfold load
  refine (defineGlobals_failsAt fuel source.globals placed.globals).bind fun _ _ => ?_
  refine (defineFunctions_failsAt source.functions placed.functions).bind fun _ _ => ?_
  intro state statePlaced
  refine (leads_bind _ _ _ _ _).mpr ((leads_get _ _ _).mpr ?_)
  split
  · rename_i main found
    exact ⟨statePlaced.findFunction found, statePlaced⟩
  · exact placed.stop

theorem program_failsAt (fuel : Nat) {source : Source} (placed : source.Placed place) :
    RunFailsAt place (program fuel source) :=
  (load_confined fuel placed).bind fun main mainPlaced =>
    invoke_failsAt fuel main [] source.span.start mainPlaced placed.start

end Eval

theorem Source.run_failsAt {source : Source} (placed : source.Placed place) {fuel : Nat}
    {sink : Sink} {fault : Fault} (failed : (source.run fuel sink).result = .error (.fault fault)) :
    place fault.offset := by
  have led := Eval.program_failsAt fuel placed (.initial sink) (State.initial_placed sink)
  unfold Source.run at failed
  cases result : Eval.program fuel source (.initial sink) with
  | ok value state =>
      rw [result] at failed
      cases failed
  | error stop state =>
      rw [result] at failed
      cases failed
      exact led.of_error result

end ScriptLang
