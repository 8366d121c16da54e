import Mathlib.Order.Defs.Unbundled
import ScriptLang.Proofs.Moments
import ScriptLang.Proofs.Step

/-!
What evaluation leaves as it is.

A relation between the states before and after a step says what the step leaves as it is.
Whatever is evaluated, from whatever tree, keeps to such a relation if the steps do that change a
state: stores, definitions, and what opens and closes blocks and calls.  There are two relations,
as statements may declare variables in their own block and expressions may not.
-/

namespace ScriptLang

def Stmt.declared? : Stmt → Option String
  | .declaration name _ _ _ _ => some name
  | _ => none

namespace Eval

variable {α β : Type}

/-- However the step ends, the state behind it is related to the one before it. -/
def Respects (related : State → State → Prop) (step : Eval α) : Prop :=
  ∀ state, Leads step state (fun _ after => related state after) fun _ after =>
    related state after

/-- The function is called so that the states before and after are related. -/
def CallsRespect (related : State → State → Prop) (call : Invocation) : Prop :=
  ∀ function arguments offset, Respects related (call function arguments offset)

namespace Respects

variable {related wider : State → State → Prop} {step : Eval α} {state after : State}

theorem imp (respects : Respects related step)
    (implied : ∀ before after, related before after → wider before after) :
    Respects wider step :=
  fun state => (respects state).imp (fun _ after => implied state after)
    fun _ after => implied state after

theorem and (first : Respects related step) (second : Respects wider step) :
    Respects (fun before after => related before after ∧ wider before after) step := by
  intro state
  have ledFirst := first state
  have ledSecond := second state
  unfold Leads at ledFirst ledSecond ⊢
  cases ended : step state with
  | ok value after =>
      rw [ended] at ledFirst ledSecond
      exact ⟨ledFirst, ledSecond⟩
  | error stop after =>
      rw [ended] at ledFirst ledSecond
      exact ⟨ledFirst, ledSecond⟩

theorem trivial (step : Eval α) : Respects (fun _ _ => True) step := by
  intro state
  unfold Leads
  cases step state with
  | ok value after => exact True.intro
  | error stop after => exact True.intro

theorem of_ok {value : α} (respects : Respects related step)
    (ended : step state = .ok value after) : related state after :=
  (respects state).of_ok ended

section Preorder

variable [IsPreorder State related]

theorem pure (value : α) : Respects related (Pure.pure value) :=
  fun state => refl_of related state

theorem fail (cause : Cause) (offset : Nat) : Respects related (Eval.fail cause offset : Eval α) :=
  fun state => refl_of related state

theorem ofExcept (result : Except Fault α) : Respects related (Eval.ofExcept result) := by
  intro state
  cases result with
  | ok value => exact refl_of related state
  | error fault => exact refl_of related state

theorem bind {next : α → Eval β} (first : Respects related step)
    (second : ∀ value, Respects related (next value)) : Respects related (step >>= next) := by
  intro state
  refine (first state).bind fun value middle before => ?_
  exact (second value middle).imp (fun _ _ behind => trans_of related before behind)
    fun _ _ behind => trans_of related before behind

theorem ofExcept_bind {result : Except Fault α} {next : α → Eval β}
    (second : ∀ value, result = .ok value → Respects related (next value)) :
    Respects related (Eval.ofExcept result >>= next) := by
  intro state
  cases result with
  | ok value => exact second value rfl state
  | error fault => exact refl_of related state

end Preorder

theorem inBlock (respects : Respects wider step)
    (closes : ∀ before inner : State, wider before.opened inner → related before
      { inner with scope := { inner.scope with locals := inner.scope.locals.tail } }) :
    Respects related (Eval.inBlock step) := by
  intro state
  have led := respects { state with scope := state.scope.child }
  unfold Leads at led
  unfold Leads Eval.inBlock
  cases ended : step { state with scope := state.scope.child } with
  | ok value inner =>
      rw [ended] at led
      exact closes state inner led
  | error stop inner =>
      rw [ended] at led
      exact closes state inner led

/-- A call respects what is as it was when the caller's blocks are put back. -/
theorem inCall {frame : RunFrame} (respects : Respects wider step)
    (leaves : ∀ before inner : State, wider (before.entered frame) inner → related before
      { inner with scope := { inner.scope with locals := before.scope.locals } }) :
    Respects related (Eval.inCall frame step) := by
  intro state
  have led := respects { state with scope := { state.scope with locals := [frame] } }
  unfold Leads at led
  unfold Leads Eval.inCall
  cases ended : step { state with scope := { state.scope with locals := [frame] } } with
  | ok value inner =>
      rw [ended] at led
      exact leaves state inner led
  | error stop inner =>
      rw [ended] at led
      exact leaves state inner led

end Respects

/-! ### Expressions -/

section Expressions

variable {steady : State → State → Prop} [IsPreorder State steady]

theorem lookupVariable_respects (name : String) (offset : Nat) :
    Respects steady (lookupVariable name offset) :=
  fun state => Respects.ofExcept (state.scope.lookupVariable name offset) state

theorem lookupFunction_respects (key : String × Nat) (offset : Nat) :
    Respects steady (lookupFunction key offset) :=
  fun state => Respects.ofExcept (state.scope.lookupFunction key offset) state

theorem expectBoolean_respects (operator : String) (offset : Nat) (value : Value) :
    Respects steady (expectBoolean operator offset value) := by
  unfold expectBoolean
  split
  · exact .pure _
  · exact .fail _ _

theorem expectIndex_respects (offset : Nat) (value : Value) :
    Respects steady (expectIndex offset value) := by
  unfold expectIndex
  split
  · exact .pure _
  · exact .fail _ _

theorem elementAt_respects (list : Value) (index : Int) (offset : Nat) :
    Respects steady (elementAt list index offset) := by
  unfold elementAt
  split
  · split
    · exact .pure _
    · exact .fail _ _
  · exact .fail _ _

theorem applyOperator_respects (op : BinaryOp) (left right : Value) (offset : Nat) :
    Respects steady (applyOperator op left right offset) := by
  unfold applyOperator
  split
  · exact .pure _
  · exact .fail _ _

theorem logical_respects (op : BinaryOp) (offset : Nat) (left : Value) {right : Eval Value}
    (rightRespects : Respects steady right) : Respects steady (logical op offset left right) := by
  unfold logical
  refine (expectBoolean_respects _ _ left).bind fun truth => ?_
  split
  · exact .pure _
  · refine rightRespects.bind fun value => ?_
    exact (expectBoolean_respects _ _ value).bind fun _ => .pure _

variable {call : Invocation}

mutual

theorem expr_respects (calls : CallsRespect steady call) (e : Expr) :
    Respects steady (expr call e) := by
  cases e with
  | literal value span ty =>
      rw [expr]
      exact .pure _
  | group inner span ty =>
      rw [expr]
      exact expr_respects calls inner
  | binary op left right span ty =>
      rw [expr]
      refine (expr_respects calls left).bind fun leftValue => ?_
      split
      · exact logical_respects op span.start leftValue (expr_respects calls right)
      · refine (expr_respects calls right).bind fun rightValue => ?_
        exact applyOperator_respects op leftValue rightValue span.start
  | access name span ty target =>
      rw [expr]
      exact (lookupVariable_respects name span.start).bind fun _ => .pure _
  | element name index span ty target =>
      rw [expr]
      refine (lookupVariable_respects name span.start).bind fun _ => ?_
      refine (expr_respects calls index).bind fun value => ?_
      refine (expectIndex_respects index.start value).bind fun position => ?_
      refine (lookupVariable_respects name span.start).bind fun cell => ?_
      exact elementAt_respects cell.value position span.start
  | call name arguments span ty callee =>
      rw [expr]
      refine (exprs_respects calls arguments).bind fun values => ?_
      refine (lookupFunction_respects (name, values.length) span.start).bind fun function => ?_
      exact calls function values span.start
  | list elements span ty =>
      rw [expr]
      exact (exprs_respects calls elements).bind fun _ => .pure _

theorem exprs_respects (calls : CallsRespect steady call) (es : List Expr) :
    Respects steady (exprs call es) := by
  cases es with
  | nil =>
      rw [exprs]
      exact .pure _
  | cons first rest =>
      rw [exprs]
      refine (expr_respects calls first).bind fun value => ?_
      exact (exprs_respects calls rest).bind fun _ => .pure _

end

theorem index_respects (calls : CallsRespect steady call) (e : Expr) :
    Respects steady (index call e) :=
  (expr_respects calls e).bind fun value => expectIndex_respects e.start value

theorem condition_respects (calls : CallsRespect steady call) (e : Expr) :
    Respects steady (condition call e) :=
  (expr_respects calls e).bind fun value => expectBoolean_respects "condition" e.start value

theorem initialValue_respects (calls : CallsRespect steady call) (value : Option Expr) :
    Respects steady (initialValue call value) := by
  cases value with
  | none => exact .pure _
  | some value => exact expr_respects calls value

theorem matchesCase_respects (calls : CallsRespect steady call) (subject : Value)
    (value : Option Expr) : Respects steady (matchesCase call subject value) := by
  cases value with
  | none => exact .pure _
  | some value => exact (expr_respects calls value).bind fun _ => .pure _

theorem assignable_respects (name : String) (nameOffset offset : Nat) :
    Respects steady (assignable name nameOffset offset) := by
  unfold assignable
  refine (lookupVariable_respects name nameOffset).bind fun cell => ?_
  split
  · exact .pure _
  · exact .fail _ _

theorem storeElement_respects (stores : ∀ name value, Respects steady (store name value))
    (name : String) (index : Int) (value : Value) (offset : Nat) :
    Respects steady (storeElement name index value offset) := by
  unfold storeElement
  refine (lookupVariable_respects name offset).bind fun cell => ?_
  split
  · split
    · exact stores _ _
    · exact .fail _ _
  · exact .fail _ _

theorem assign_respects (stores : ∀ name value, Respects steady (store name value))
    (calls : CallsRespect steady call) (receiver value : Expr) (offset : Nat) :
    Respects steady (assign call receiver value offset) := by
  unfold assign
  split
  · refine (assignable_respects _ _ _).bind fun _ => ?_
    exact (expr_respects calls value).bind fun result => stores _ result
  · refine (assignable_respects _ _ _).bind fun _ => ?_
    refine (index_respects calls _).bind fun position => ?_
    refine (expr_respects calls value).bind fun result => ?_
    exact storeElement_respects stores _ position result _
  · exact .fail _ _

theorem rounds_respects {test : Eval Bool} {body : Eval Flow} (testRespects : Respects steady test)
    (bodyRespects : Respects steady body) (count : Nat) :
    Respects steady (rounds count test body) := by
  induction count with
  | zero =>
      exact fun state => refl_of steady state
  | succ count inductionHypothesis =>
      rw [rounds_succ]
      refine testRespects.bind fun truth => ?_
      split
      · refine bodyRespects.bind fun flow => ?_
        cases flow with
        | normal => exact inductionHypothesis
        | returned value => exact .pure _
      · exact .pure _

end Expressions

/-! ### Declarations -/

section Declarations

variable {wide : State → State → Prop} [IsPreorder State wide]

theorem defineVariable_respects (binding : Variable) (value : Value) (offset : Nat)
    (adds : ∀ state : State, state.scope.innermost.findVariable? binding.name = none →
      wide state { state with
        scope := state.scope.withInnermost (state.scope.innermost.addVariable binding.name
          { binding := binding, value := value }) }) :
    Respects wide (defineVariable binding value offset) := by
  intro state
  refine (leads_bind _ _ _ _ _).mpr ((leads_get _ _ _).mpr ?_)
  dsimp only
  unfold Chain.defineVariable Frame.defineVariable
  cases free : state.scope.innermost.findVariable? binding.name with
  | none => exact adds state free
  | some cell => exact refl_of wide state

theorem defineFunction_respects (function : Function) (offset : Nat)
    (adds : ∀ state : State,
      state.scope.innermost.findFunction? function.signature.key = none →
      wide state { state with
        scope := state.scope.withInnermost
          (state.scope.innermost.addFunction function.signature.key function) }) :
    Respects wide (defineFunction function offset) := by
  intro state
  refine (leads_bind _ _ _ _ _).mpr ((leads_get _ _ _).mpr ?_)
  unfold Chain.defineFunction Frame.defineFunction
  cases free : state.scope.innermost.findFunction? function.signature.key with
  | none => exact adds state free
  | some found => exact refl_of wide state

end Declarations

/-! ### Statements -/

/-- The frame in which the body of a function begins: the parameters of some call, over nothing. -/
def IsBodyFrame (returnType : Ty) (frame : RunFrame) : Prop :=
  ∃ offset bindings,
    bindArguments offset { Frame.empty with returnType := some returnType } bindings = .ok frame

/-- The steps that change a state keep to the relations: to the narrow one what is evaluated
inside an expression, a block or a call, and to the wide one what is evaluated in a block that may
come to have more variables. -/
structure FrameLaws (steady wide : State → State → Prop) : Prop where
  steadyPreorder : IsPreorder State steady
  widePreorder : IsPreorder State wide
  widens : ∀ before after, steady before after → wide before after
  prints : ∀ state sink, steady state { state with sink := sink }
  assigns : ∀ call, CallsRespect steady call → ∀ receiver value offset,
    Respects steady (assign call receiver value offset)
  definesVariable : ∀ binding value offset, Respects wide (defineVariable binding value offset)
  definesFunction : ∀ function offset, Respects wide (defineFunction function offset)
  closesBlock : ∀ step : Eval Flow, Respects wide step → Respects steady (inBlock step)
  closesCall : ∀ returnType frame, IsBodyFrame returnType frame → ∀ step : Eval Flow,
    Respects wide step → Respects steady (inCall frame step)

namespace FrameLaws

variable {steady wide : State → State → Prop} {call : Invocation}

theorem stmt_of_steady (laws : FrameLaws steady wide) (calls : CallsRespect steady call)
    {fuel : Nat} {s : Stmt} (steadily : s.declared? = none → Respects steady (stmt call fuel s)) :
    Respects wide (stmt call fuel s) := by
  have := laws.steadyPreorder
  have := laws.widePreorder
  cases s with
  | declaration name typeName value span target =>
      rw [stmt]
      refine ((initialValue_respects calls value).imp laws.widens).bind fun result => ?_
      exact (laws.definesVariable _ result span.start).bind fun _ => .pure _
  | _ =>
      exact (steadily rfl).imp laws.widens

mutual

/-- A statement that declares nothing leaves its own block, too, with the variables it had. -/
theorem stmt_steady (laws : FrameLaws steady wide) (calls : CallsRespect steady call) (fuel : Nat)
    (s : Stmt) (plain : s.declared? = none) : Respects steady (stmt call fuel s) := by
  have := laws.steadyPreorder
  cases s with
  | declaration name typeName value span target =>
      cases plain
  | expression value span =>
      rw [stmt]
      exact (expr_respects calls value).bind fun _ => .pure _
  | assignment receiver value span =>
      rw [stmt]
      exact (laws.assigns call calls receiver value span.start).bind fun _ => .pure _
  | conditional test thenBlock elseBlock span =>
      rw [stmt]
      refine (condition_respects calls test).bind fun truth => ?_
      split
      · exact laws.closesBlock _ (laws.block_respects calls fuel thenBlock)
      · exact laws.closesBlock _ (laws.block_respects calls fuel elseBlock)
  | switch subject cases span =>
      rw [stmt]
      refine (expr_respects calls subject).bind fun value => ?_
      exact laws.firstCase_respects calls fuel value cases
  | loop test body span =>
      rw [stmt]
      have bodyRespects := laws.closesBlock _ (laws.block_respects calls fuel body)
      exact rounds_respects (condition_respects calls test) bodyRespects fuel
  | result value span =>
      rw [stmt]
      exact (expr_respects calls value).bind fun _ => .pure _

theorem block_respects (laws : FrameLaws steady wide) (calls : CallsRespect steady call)
    (fuel : Nat) (b : List Stmt) : Respects wide (block call fuel b) := by
  have := laws.widePreorder
  cases b with
  | nil =>
      rw [block]
      exact .pure _
  | cons first rest =>
      rw [block]
      refine (laws.stmt_of_steady calls (laws.stmt_steady calls fuel first)).bind fun flow => ?_
      cases flow with
      | normal => exact laws.block_respects calls fuel rest
      | returned value => exact .pure _

theorem firstCase_respects (laws : FrameLaws steady wide) (calls : CallsRespect steady call)
    (fuel : Nat) (subject : Value) (cs : List Case) :
    Respects steady (firstCase call fuel subject cs) := by
  have := laws.steadyPreorder
  cases cs with
  | nil =>
      rw [firstCase]
      exact .pure _
  | cons first rest =>
      obtain ⟨value, body, span⟩ := first
      rw [firstCase]
      refine (matchesCase_respects calls subject value).bind fun matched => ?_
      split
      · exact laws.closesBlock _ (laws.block_respects calls fuel body)
      · exact laws.firstCase_respects calls fuel subject rest

end

theorem stmt_respects (laws : FrameLaws steady wide) (calls : CallsRespect steady call)
    (fuel : Nat) (s : Stmt) : Respects wide (stmt call fuel s) :=
  laws.stmt_of_steady calls (laws.stmt_steady calls fuel s)

/-! ### Calls and programs -/

theorem invoke_respects (laws : FrameLaws steady wide) (fuel : Nat) :
    CallsRespect steady (invoke fuel) := by
  -- By induction on the depth of calls.
  have := laws.steadyPreorder
  induction fuel with
  | zero =>
      intro function arguments offset state
      exact refl_of steady state
  | succ fuel inductionHypothesis =>
      intro function arguments offset
      rw [invoke]
      split
      · intro state
        unfold Leads
        dsimp only
        cases Builtin.apply _ arguments state.sink with
        | mk result sink =>
            cases result with
            | ok value => exact laws.prints state sink
            | error cause => exact laws.prints state sink
      · refine .ofExcept_bind fun frame bound => ?_
        have blocks := laws.block_respects inductionHypothesis fuel
        exact (laws.closesCall _ frame ⟨_, _, bound⟩ _ (blocks _)).bind fun _ => .pure _
      · exact .fail _ _

theorem defineGlobal_respects (laws : FrameLaws steady wide) (fuel : Nat) (global : GlobalDecl) :
    Respects wide (defineGlobal fuel global) := by
  have := laws.steadyPreorder
  have := laws.widePreorder
  unfold defineGlobal
  have calls := laws.invoke_respects fuel
  refine ((initialValue_respects calls global.value).imp laws.widens).bind fun value => ?_
  exact laws.definesVariable _ value global.span.start

theorem defineGlobals_respects (laws : FrameLaws steady wide) (fuel : Nat)
    (globals : List GlobalDecl) : Respects wide (defineGlobals fuel globals) := by
  have := laws.widePreorder
  induction globals with
  | nil => exact .pure _
  | cons first rest inductionHypothesis =>
      rw [defineGlobals]
      exact (laws.defineGlobal_respects fuel first).bind fun _ => inductionHypothesis

theorem defineFunctions_respects (laws : FrameLaws steady wide) (functions : List FunctionDecl) :
    Respects wide (defineFunctions functions) := by
  have := laws.widePreorder
  induction functions with
  | nil => exact .pure _
  | cons first rest inductionHypothesis =>
      rw [defineFunctions]
      exact (laws.definesFunction _ _).bind fun _ => inductionHypothesis

theorem load_respects (laws : FrameLaws steady wide) (fuel : Nat) (source : Source) :
    Respects wide (load fuel source) := by
  have := laws.widePreorder
  unfold load
  refine (laws.defineGlobals_respects fuel source.globals).bind fun _ => ?_
  refine (laws.defineFunctions_respects source.functions).bind fun _ => ?_
  intro state
  refine (leads_bind _ _ _ _ _).mpr ((leads_get _ _ _).mpr ?_)
  split
  · exact refl_of wide state
  · exact refl_of wide state

theorem program_respects (laws : FrameLaws steady wide) (fuel : Nat) (source : Source) :
    Respects wide (program fuel source) := by
  have := laws.widePreorder
  unfold program
  refine (laws.load_respects fuel source).bind fun main => ?_
  exact (laws.invoke_respects fuel main [] source.span.start).imp laws.widens

theorem task_respects (laws : FrameLaws steady wide) (fuel : Nat) (task : Task) :
    Respects wide (Eval.task fuel task) := by
  have := laws.steadyPreorder
  have := laws.widePreorder
  have calls := laws.invoke_respects fuel
  cases task with
  | source source =>
      exact (laws.program_respects fuel source).bind fun _ => .pure _
  | globals globals =>
      exact laws.defineGlobals_respects fuel globals
  | functions functions =>
      exact laws.defineFunctions_respects functions
  | call function arguments offset =>
      exact ((calls function arguments offset).imp laws.widens).bind fun _ => .pure _
  | block statements =>
      exact (laws.block_respects calls fuel statements).bind fun _ => .pure _
  | statement statement =>
      exact (laws.stmt_respects calls fuel statement).bind fun _ => .pure _
  | cases subject cases =>
      exact ((laws.firstCase_respects calls fuel subject cases).imp laws.widens).bind
        fun _ => .pure _
  | rounds count test body =>
      have bodyRespects := laws.closesBlock _ (laws.block_respects calls fuel body)
      have roundsRespect := rounds_respects (condition_respects calls test) bodyRespects count
      exact (roundsRespect.imp laws.widens).bind fun _ => .pure _
  | expression e =>
      exact ((expr_respects calls e).imp laws.widens).bind fun _ => .pure _
  | expressions es =>
      exact ((exprs_respects calls es).imp laws.widens).bind fun _ => .pure _

end FrameLaws
end Eval

/-! ### Moments -/

theorem Moment.last_of_respects {moment : Moment} {related : State → State → Prop}
    (respects : Eval.Respects related (Eval.task moment.fuel moment.task)) :
    related moment.state moment.last := by
  have led := respects moment.state
  unfold Moment.last
  unfold Leads at led
  cases ended : Eval.task moment.fuel moment.task moment.state with
  | ok value after =>
      rw [ended] at led
      exact led
  | error stop after =>
      rw [ended] at led
      exact led

open Eval in
/-- What a wide relation leaves as it is stays as it is where a block is opened or the body of a
function entered. -/
structure LastingLaws (wide lasting : State → State → Prop) : Prop where
  preorder : IsPreorder State lasting
  lasts : ∀ before after, wide before after → lasting before after
  opens : ∀ state : State, lasting state state.opened
  enters : ∀ (state : State) returnType frame, IsBodyFrame returnType frame →
    lasting state (state.entered frame)

namespace LastingLaws

open Eval

variable {steady wide lasting : State → State → Prop} {fuel : Nat} {task next : Task}
  {state after : State}

theorem of_respects {α : Type} {step : Eval α} {value : α} (lastingLaws : LastingLaws wide lasting)
    (respects : Respects wide step) (ended : step state = .ok value after) :
    lasting state after :=
  lastingLaws.lasts _ _ (respects.of_ok ended)

theorem part (lastingLaws : LastingLaws wide lasting) (laws : FrameLaws steady wide)
    (part : Part fuel task state next after) : lasting state after := by
  have := laws.steadyPreorder
  have := laws.widePreorder
  have := lastingLaws.preorder
  have calls := laws.invoke_respects fuel
  have ofSteady : ∀ {α : Type} {step : Eval α} {value : α} {before behind : State},
      Respects steady step → step before = .ok value behind → lasting before behind :=
    fun respects ended => lastingLaws.of_respects (respects.imp laws.widens) ended
  cases part with
  | functions bound =>
      exact lastingLaws.of_respects (laws.defineGlobals_respects fuel _) bound
  | main loaded =>
      exact lastingLaws.of_respects (laws.load_respects fuel _) loaded
  | nextGlobals bound =>
      exact lastingLaws.of_respects (laws.defineGlobal_respects fuel _) bound
  | nextFunctions bound =>
      exact lastingLaws.of_respects (laws.definesFunction _ _) bound
  | nextStatements ended =>
      exact lastingLaws.of_respects (laws.stmt_respects calls fuel _) ended
  | assigned assigned =>
      exact ofSteady (assignable_respects _ _ _) assigned
  | position assigned =>
      exact ofSteady (assignable_respects _ _ _) assigned
  | assignedElement assigned indexed =>
      have toIndex := ofSteady (assignable_respects _ _ _) assigned
      exact trans_of lasting toIndex (ofSteady (index_respects calls _) indexed)
  | branch tested =>
      have toBranch := ofSteady (condition_respects calls _) tested
      exact trans_of lasting toBranch (lastingLaws.opens _)
  | cases evaluated =>
      exact ofSteady (expr_respects calls _) evaluated
  | chosen matched =>
      have toCase := ofSteady (matchesCase_respects calls _ _) matched
      exact trans_of lasting toCase (lastingLaws.opens _)
  | nextCases matched =>
      exact ofSteady (matchesCase_respects calls _ _) matched
  | round tested =>
      have toRound := ofSteady (condition_respects calls _) tested
      exact trans_of lasting toRound (lastingLaws.opens _)
  | @nextRounds _ _ body _ _ _ tested ended =>
      have toRound := ofSteady (condition_respects calls _) tested
      have bodyRespects := laws.closesBlock _ (laws.block_respects calls fuel body)
      exact trans_of lasting toRound (ofSteady bodyRespects ended)
  | right evaluated needed =>
      exact ofSteady (expr_respects calls _) evaluated
  | index found =>
      exact ofSteady (lookupVariable_respects _ _) found
  | call evaluated found =>
      have toCall := ofSteady (exprs_respects calls _) evaluated
      exact trans_of lasting toCall (ofSteady (lookupFunction_respects _ _) found)
  | others evaluated =>
      exact ofSteady (expr_respects calls _) evaluated
  | _ =>
      exact refl_of lasting state

theorem entered {moment inner : Moment} (lastingLaws : LastingLaws wide lasting)
    (laws : FrameLaws steady wide) (enters : moment.Enters inner) :
    lasting moment.state inner.state := by
  cases enters with
  | part part =>
      exact lastingLaws.part laws part
  | body bodyEq bound =>
      exact lastingLaws.enters _ _ _ ⟨_, _, bound⟩

theorem reached {moment inner : Moment} (lastingLaws : LastingLaws wide lasting)
    (laws : FrameLaws steady wide) (reaches : Relation.ReflTransGen Moment.Enters moment inner) :
    lasting moment.state inner.state := by
  have := lastingLaws.preorder
  induction reaches with
  | refl => exact refl_of lasting moment.state
  | tail _ enters inductionHypothesis =>
      exact trans_of lasting inductionHypothesis (lastingLaws.entered laws enters)

theorem last (lastingLaws : LastingLaws wide lasting) (laws : FrameLaws steady wide)
    (moment : Moment) : lasting moment.state moment.last :=
  lastingLaws.lasts _ _
    (Moment.last_of_respects (laws.task_respects moment.fuel moment.task))

end LastingLaws
end ScriptLang
