import ScriptLang.Proofs.Moments
import ScriptLang.Proofs.Runs

/-!
Every moment of a typed run is typed.

A typed task has parts that are typed where they begin, as what is evaluated before them keeps
the scopes in agreement.  So the tasks of all moments are typed, and the variables of all frames
keep to the discipline.
-/

namespace ScriptLang

/-- The variables of the frame have values that the discipline allows for them. -/
def FrameKeeps (D : Discipline) (frame : RunFrame) : Prop :=
  ∀ name cell, frame.findVariable? name = some cell → D.Keeps cell.binding cell.value

/-- The task is typed in scopes that the state agrees with. -/
inductive TaskTyped (D : Discipline) : Task → State → Prop where
  | source {source : Source} {early globals : StaticFrame} {state : State}
      (typed : SourceTyped D source early globals)
      (stateTyped : StateTyped D (.ofGlobals Typing.builtinFrame) state) :
      TaskTyped D (.source source) state
  | globals {globals : List GlobalDecl} {static last : StaticFrame} {state : State}
      (onlyBuiltins : OnlyBuiltins static) (typed : GlobalsTyped D static globals last)
      (stateTyped : StateTyped D (.ofGlobals static) state) :
      TaskTyped D (.globals globals) state
  | functions {functions : List FunctionDecl} {static globals : StaticFrame} {frame : RunFrame}
      {state : State} (declared : FunctionsDeclared static functions globals)
      (bodies : FunctionsTyped D globals functions) (scopeEq : state.scope = .ofGlobals frame)
      (agrees : FrameAgrees D globals static frame) : TaskTyped D (.functions functions) state
  | call {function : Function} {arguments : List Value} {offset : Nat} {scope : StaticScope}
      {callee : Callee} {state : State} (agrees : FunctionAgrees D scope.globals callee function)
      (holds : List.Forall₂ D.holds callee.signature.parameterTypes arguments)
      (stateTyped : StateTyped D scope state) : TaskTyped D (.call function arguments offset) state
  | block {statements : List Stmt} {returns : Ty} {outer : StaticScope} {frame : StaticFrame}
      {state : State} (typed : BlockTyped D returns outer frame statements)
      (stateTyped : StateTyped D (outer.push frame) state) : TaskTyped D (.block statements) state
  | statement {statement : Stmt} {returns : Ty} {outer : StaticScope} {frame next : StaticFrame}
      {state : State} (typed : StmtTyped D returns outer frame statement next)
      (stateTyped : StateTyped D (outer.push frame) state) :
      TaskTyped D (.statement statement) state
  | cases {subject : Value} {cases : List Case} {returns : Ty} {scope : StaticScope}
      {state : State} (typed : CasesTyped D returns scope cases)
      (stateTyped : StateTyped D scope state) : TaskTyped D (.cases subject cases) state
  | rounds {count : Nat} {test : Expr} {body : List Stmt} {returns : Ty} {scope : StaticScope}
      {state : State} (testTyped : ExprTyped D scope none test .boolean)
      (bodyTyped : BlockTyped D returns scope .empty body) (stateTyped : StateTyped D scope state) :
      TaskTyped D (.rounds count test body) state
  | expression {e : Expr} {context : Option Ty} {ty : Ty} {scope : StaticScope} {state : State}
      (typed : ExprTyped D scope context e ty) (stateTyped : StateTyped D scope state) :
      TaskTyped D (.expression e) state
  | list {elements : List Expr} {span : Span} {decoration : Option Ty} {types : List Ty}
      {scope : StaticScope} {state : State} (typed : ExprsTyped D scope types elements)
      (stateTyped : StateTyped D scope state) :
      TaskTyped D (.expression (.list elements span decoration)) state
  | expressions {es : List Expr} {types : List Ty} {scope : StaticScope} {state : State}
      (typed : ExprsTyped D scope types es) (stateTyped : StateTyped D scope state) :
      TaskTyped D (.expressions es) state

structure MomentTyped (D : Discipline) (moment : Moment) : Prop where
  task : TaskTyped D moment.task moment.state
  suspended : ∀ frame ∈ moment.suspended, FrameKeeps D frame

variable {D : Discipline} {scope : StaticScope} {state middle : State}

/-! ### Parts -/

theorem StateTyped.opened (stateTyped : StateTyped D scope state) :
    StateTyped D (scope.push .empty) state.opened :=
  stateTyped.push (.ofEmpty scope.globals none none)

theorem TaskTyped.ofBinding {value : Expr} {ty : Ty}
    (typed : BindingTyped D scope (some value) ty) (stateTyped : StateTyped D scope state) :
    TaskTyped D (.expression value) state := by
  cases typed with
  | inferred typed =>
      exact .expression typed stateTyped
  | given named typed accepts =>
      exact .expression typed stateTyped

theorem TaskTyped.ofGlobal {static : StaticFrame} {global : GlobalDecl} {target : Variable}
    {value : Expr} (typed : GlobalTyped D static global target)
    (initial : global.value = some value) (stateTyped : StateTyped D (.ofGlobals static) state) :
    TaskTyped D (.expression value) state := by
  cases typed with
  | list isList isLiteral named sized typed =>
      rw [isLiteral] at initial
      cases initial
      exact .list typed stateTyped
  | single isSingle typed =>
      rw [initial] at typed
      exact .ofBinding typed stateTyped

section Parts

open Eval

variable {fuel : Nat} {next : Task} {after : State}

theorem SourceTyped.part {source : Source} {early globals : StaticFrame}
    (typed : SourceTyped D source early globals)
    (stateTyped : StateTyped D (.ofGlobals Typing.builtinFrame) state)
    (part : Part fuel (.source source) state next after) : TaskTyped D next after := by
  cases part with
  | globals =>
      exact .globals onlyBuiltins_builtinFrame typed.globalsTyped stateTyped
  | functions bound =>
      obtain ⟨onlyBuiltins, afterTyped⟩ := (defineGlobals_sound fuel onlyBuiltins_builtinFrame
        typed.globalsTyped stateTyped).of_ok bound
      obtain ⟨frame, scopeEq, agrees⟩ := afterTyped.ofGlobals
      exact .functions typed.declared typed.bodies scopeEq (agrees.inGlobals onlyBuiltins _)
  | main loaded =>
      obtain ⟨afterTyped, callee, agrees, noParameters, _⟩ :=
        (load_sound fuel typed stateTyped).of_ok loaded
      have noArguments : List.Forall₂ D.holds callee.signature.parameterTypes [] := by
        rw [noParameters]
        exact .nil
      have agrees : FunctionAgrees D (Chain.ofGlobals globals).globals callee _ := agrees
      exact .call agrees noArguments afterTyped

theorem GlobalsTyped.part {globals : List GlobalDecl} {static last : StaticFrame}
    (typed : GlobalsTyped D static globals last) (onlyBuiltins : OnlyBuiltins static)
    (stateTyped : StateTyped D (.ofGlobals static) state)
    (part : Part fuel (.globals globals) state next after) : TaskTyped D next after := by
  cases typed with
  | nil =>
      cases part
  | cons firstTyped decorated unbound restTyped =>
      cases part with
      | global initial =>
          exact .ofGlobal firstTyped initial stateTyped
      | nextGlobals bound =>
          have afterTyped := (defineGlobal_sound fuel onlyBuiltins firstTyped decorated unbound
            stateTyped).of_ok bound
          exact .globals (onlyBuiltins.addVariable _ _) restTyped afterTyped

theorem FunctionsDeclared.part {functions : List FunctionDecl} {static globals : StaticFrame}
    {frame : RunFrame} (declared : FunctionsDeclared static functions globals)
    (bodies : FunctionsTyped D globals functions) (scopeEq : state.scope = .ofGlobals frame)
    (agrees : FrameAgrees D globals static frame)
    (part : Part fuel (.functions functions) state next after) : TaskTyped D next after := by
  cases declared with
  | nil =>
      cases part
  | @cons _ _ first rest _ decorated named plain unbound restDeclared =>
      cases part with
      | nextFunctions bound =>
          have typed := bodies first List.mem_cons_self _ decorated
          have functionAgrees := functionOf_agrees decorated named plain typed
          obtain ⟨wider, widerEq, widerAgrees⟩ := (defineFunction_sound first.span.start
            functionAgrees unbound scopeEq agrees).of_ok bound
          have restBodies : FunctionsTyped D _ rest := fun function member =>
            bodies function (List.mem_cons_of_mem first member)
          exact .functions restDeclared restBodies widerEq widerAgrees

theorem BlockTyped.part {statements : List Stmt} {returns : Ty} {outer : StaticScope}
    {frame : StaticFrame} (typed : BlockTyped D returns outer frame statements)
    (stateTyped : StateTyped D (outer.push frame) state)
    (part : Part fuel (.block statements) state next after) : TaskTyped D next after := by
  cases typed with
  | nil =>
      cases part
  | cons firstTyped restTyped =>
      cases part with
      | firstStatement =>
          exact .statement firstTyped stateTyped
      | nextStatements ended =>
          have executed := stmt_sound (invoke_sound fuel _) fuel _ firstTyped stateTyped
          exact .block restTyped (executed.of_ok ended).2

theorem StmtTyped.part {statement : Stmt} {returns : Ty} {outer : StaticScope}
    {frame wider : StaticFrame} (typed : StmtTyped D returns outer frame statement wider)
    (stateTyped : StateTyped D (outer.push frame) state)
    (part : Part fuel (.statement statement) state next after) : TaskTyped D next after := by
  cases typed with
  | expression typed =>
      cases part with
      | called =>
          exact .expression typed stateTyped
  | declaration typed unbound =>
      cases part with
      | declared =>
          exact .ofBinding typed stateTyped
  | assignWhole bound isSingle isMutable typed accepts =>
      cases part with
      | assigned assignable =>
          exact .expression typed (stateTyped.after_assignable bound isMutable assignable)
  | assignElement indexTyped bound isList isMutable typed accepts =>
      cases part with
      | position assignable =>
          exact .expression indexTyped (stateTyped.after_assignable bound isMutable assignable)
      | assignedElement assignable indexed =>
          have middleTyped := stateTyped.after_assignable bound isMutable assignable
          exact .expression typed (middleTyped.after_index indexTyped indexed)
  | conditional conditionTyped thenTyped elseTyped =>
      cases part with
      | test =>
          exact .expression conditionTyped stateTyped
      | @branch _ _ _ _ truth _ _ tested =>
          have middleTyped := stateTyped.after_condition conditionTyped tested
          cases truth with
          | true =>
              exact .block thenTyped middleTyped.opened
          | false =>
              exact .block elseTyped middleTyped.opened
  | switch subjectTyped casesTyped =>
      cases part with
      | subject =>
          exact .expression subjectTyped stateTyped
      | cases evaluated =>
          exact .cases casesTyped (stateTyped.after_expr subjectTyped evaluated).2
  | loop conditionTyped bodyTyped =>
      cases part with
      | rounds =>
          exact .rounds conditionTyped bodyTyped stateTyped
  | result typed accepts =>
      cases part with
      | returned =>
          exact .expression typed stateTyped

theorem CasesTyped.part {subject : Value} {cases : List Case} {returns : Ty}
    (typed : CasesTyped D returns scope cases) (stateTyped : StateTyped D scope state)
    (part : Part fuel (.cases subject cases) state next after) : TaskTyped D next after := by
  cases typed with
  | nil =>
      cases part
  | value valueTyped bodyTyped restTyped =>
      cases part with
      | caseValue =>
          exact .expression valueTyped stateTyped
      | chosen matched =>
          have middleTyped := ((matchesCase_sound (invoke_sound fuel _) subject valueTyped
            stateTyped).of_ok matched).2
          exact .block bodyTyped middleTyped.opened
      | nextCases matched =>
          have middleTyped := ((matchesCase_sound (invoke_sound fuel _) subject valueTyped
            stateTyped).of_ok matched).2
          exact .cases restTyped middleTyped
  | default bodyTyped restTyped =>
      cases part with
      | chosen matched =>
          cases matched
          exact .block bodyTyped stateTyped.opened
      | nextCases matched =>
          cases matched

theorem part_of_rounds {count : Nat} {test : Expr} {body : List Stmt} {returns : Ty}
    (testTyped : ExprTyped D scope none test .boolean)
    (bodyTyped : BlockTyped D returns scope .empty body) (stateTyped : StateTyped D scope state)
    (part : Part fuel (.rounds count test body) state next after) : TaskTyped D next after := by
  cases part with
  | roundTest =>
      exact .expression testTyped stateTyped
  | round tested =>
      exact .block bodyTyped (stateTyped.after_condition testTyped tested).opened
  | nextRounds tested ended =>
      have middleTyped := stateTyped.after_condition testTyped tested
      have bodySound := inBlock_sound middleTyped fun inner innerTyped =>
        block_sound (invoke_sound fuel _) fuel _ bodyTyped innerTyped
      exact .rounds testTyped bodyTyped (bodySound.of_ok ended).2

theorem ExprTyped.part {e : Expr} {context : Option Ty} {ty : Ty}
    (typed : ExprTyped D scope context e ty) (stateTyped : StateTyped D scope state)
    (part : Part fuel (.expression e) state next after) : TaskTyped D next after := by
  cases typed with
  | literal inRange =>
      cases part
  | group innerTyped =>
      cases part with
      | group =>
          exact .expression innerTyped stateTyped
  | binary leftTyped rightTyped rule =>
      cases part with
      | left =>
          exact .expression leftTyped stateTyped
      | right evaluated needed =>
          exact .expression rightTyped (stateTyped.after_expr leftTyped evaluated).2
  | access bound whole =>
      cases part
  | element indexTyped bound isList =>
      cases part with
      | index found =>
          have middleTyped := ((lookupVariable_sound _ bound stateTyped).of_ok found).2
          exact .expression indexTyped middleTyped
  | call bound argumentsTyped =>
      cases part with
      | arguments =>
          exact .expressions argumentsTyped stateTyped
      | call evaluated found =>
          obtain ⟨holds, middleTyped, bound⟩ :=
            stateTyped.after_arguments bound argumentsTyped evaluated
          obtain ⟨agrees, laterTyped⟩ := (lookupFunction_sound _ bound middleTyped).of_ok found
          exact .call agrees holds laterTyped

theorem ExprsTyped.part {es : List Expr} {types : List Ty} (typed : ExprsTyped D scope types es)
    (stateTyped : StateTyped D scope state)
    (part : Part fuel (.expressions es) state next after) : TaskTyped D next after := by
  cases typed with
  | nil =>
      cases part
  | cons firstTyped accepts restTyped =>
      cases part with
      | first =>
          exact .expression firstTyped stateTyped
      | others evaluated =>
          exact .expressions restTyped (stateTyped.after_expr firstTyped evaluated).2

/-- The parts of a typed task are typed where they begin. -/
theorem TaskTyped.part {task : Task} (typed : TaskTyped D task state)
    (part : Part fuel task state next after) : TaskTyped D next after := by
  cases typed with
  | source typed stateTyped =>
      exact typed.part stateTyped part
  | globals onlyBuiltins typed stateTyped =>
      exact typed.part onlyBuiltins stateTyped part
  | functions declared bodies scopeEq agrees =>
      exact declared.part bodies scopeEq agrees part
  | call agrees holds stateTyped =>
      cases part
  | block typed stateTyped =>
      exact typed.part stateTyped part
  | statement typed stateTyped =>
      exact typed.part stateTyped part
  | cases typed stateTyped =>
      exact typed.part stateTyped part
  | rounds testTyped bodyTyped stateTyped =>
      exact part_of_rounds testTyped bodyTyped stateTyped part
  | expression typed stateTyped =>
      exact typed.part stateTyped part
  | list typed stateTyped =>
      cases part with
      | elements =>
          exact .expressions typed stateTyped
  | expressions typed stateTyped =>
      exact typed.part stateTyped part

end Parts

/-! ### Moments -/

theorem FrameAgrees.keeps {globals static : StaticFrame} {frame : RunFrame}
    (agrees : FrameAgrees D globals static frame) : FrameKeeps D frame := by
  intro name cell found
  have related := agrees.cells name
  rw [found] at related
  cases staticFound : static.findVariable? name with
  | none =>
      rw [staticFound] at related
      cases related
  | some target =>
      rw [staticFound] at related
      cases related with
      | some cellAgrees =>
          rw [cellAgrees.same]
          exact cellAgrees.keeps

theorem framesKeep {globals : StaticFrame} {statics : List StaticFrame} {frames : List RunFrame}
    (agree : List.Forall₂ (FrameAgrees D globals) statics frames) :
    ∀ frame ∈ frames, FrameKeeps D frame := by
  induction agree with
  | nil =>
      exact List.forall_mem_nil _
  | cons headAgrees _ inductionHypothesis =>
      exact List.forall_mem_cons.mpr ⟨headAgrees.keeps, inductionHypothesis⟩

theorem StateTyped.keeps (stateTyped : StateTyped D scope state) :
    ∀ frame ∈ state.scope.frames, FrameKeeps D frame :=
  framesKeep stateTyped.frames

theorem leads_discard {α : Type} {step : Eval α} {good : α → State → Prop}
    {bad : Stop → State → Prop} (led : Leads step state good bad)
    (whenGood : ∀ value after, good value after → ∃ scope, StateTyped D scope after)
    (whenBad : ∀ stop after, bad stop after → D.Allows stop ∧ ∃ scope, StateTyped D scope after) :
    Leads (do let _ ← step) state (fun _ after => ∃ scope, StateTyped D scope after)
      fun stop after => D.Allows stop ∧ ∃ scope, StateTyped D scope after :=
  Leads.bind (led.imp whenGood whenBad) fun _ _ holds => holds

theorem Sound.discard {α : Type} {step : Eval α} {good : α → Prop}
    (sound : Sound D scope step state good) :
    Leads (do let _ ← step) state (fun _ after => ∃ scope, StateTyped D scope after)
      fun stop after => D.Allows stop ∧ ∃ scope, StateTyped D scope after :=
  leads_discard sound (fun _ _ holds => ⟨_, holds.2⟩) fun _ _ holds => ⟨holds.1, _, holds.2⟩

open Eval in
/-- However the evaluation of a typed task ends, its state agrees with some scope. -/
theorem TaskTyped.ends {task : Task} (fuel : Nat) (typed : TaskTyped D task state) :
    Leads (Eval.task fuel task) state (fun _ after => ∃ scope, StateTyped D scope after)
      fun stop after => D.Allows stop ∧ ∃ scope, StateTyped D scope after := by
  cases typed with
  | source typed stateTyped =>
      exact leads_discard (program_sound fuel typed stateTyped) (fun _ _ holds => ⟨_, holds.2⟩)
        fun _ _ holds => ⟨holds.1, _, holds.2.choose_spec⟩
  | globals onlyBuiltins typed stateTyped =>
      exact (defineGlobals_sound fuel onlyBuiltins typed stateTyped).imp
        (fun _ _ holds => ⟨_, holds.2⟩) fun _ _ holds => ⟨holds.1, _, holds.2.choose_spec⟩
  | functions declared bodies scopeEq agrees =>
      exact (defineFunctions_sound declared bodies scopeEq agrees).imp
        (fun _ _ afterTyped => ⟨_, afterTyped⟩) fun _ _ impossible => impossible.elim
  | @call _ _ offset _ _ _ agrees holds stateTyped =>
      exact (invoke_sound fuel _ offset agrees holds rfl stateTyped).discard
  | block typed stateTyped =>
      exact leads_discard (block_sound (invoke_sound fuel _) fuel _ typed stateTyped)
        (fun _ _ holds => ⟨_, holds.2.choose_spec⟩)
        fun _ _ holds => ⟨holds.1, _, holds.2.choose_spec⟩
  | statement typed stateTyped =>
      exact leads_discard (stmt_sound (invoke_sound fuel _) fuel _ typed stateTyped)
        (fun _ _ holds => ⟨_, holds.2⟩) fun _ _ holds => ⟨holds.1, _, holds.2⟩
  | @cases subject _ _ _ _ typed stateTyped =>
      exact (firstCase_sound (invoke_sound fuel _) fuel subject _ typed stateTyped).discard
  | @rounds count _ _ _ scope _ testTyped bodyTyped stateTyped =>
      have testSound : ∀ state, StateTyped D scope state →
          Sound D scope (condition (invoke fuel) _) state fun _ => True :=
        fun state stateTyped => condition_sound (invoke_sound fuel _) testTyped stateTyped
      have bodySound : ∀ state, StateTyped D scope state →
          Sound D scope (inBlock (Eval.block (invoke fuel) fuel _)) state (Flow.Holds D _) :=
        fun state stateTyped => inBlock_sound stateTyped fun inner innerTyped =>
          block_sound (invoke_sound fuel _) fuel _ bodyTyped innerTyped
      exact (rounds_sound testSound bodySound count stateTyped).discard
  | expression typed stateTyped =>
      exact (expr_sound (invoke_sound fuel _) _ typed stateTyped).discard
  | @list _ span decoration _ _ _ typed stateTyped =>
      exact (list_sound (invoke_sound fuel _) span decoration typed stateTyped).discard
  | expressions typed stateTyped =>
      exact (exprs_sound (invoke_sound fuel _) _ typed stateTyped).discard

theorem TaskTyped.keeps {task : Task} (typed : TaskTyped D task state) :
    ∀ frame ∈ state.scope.frames, FrameKeeps D frame := by
  cases typed with
  | functions declared bodies scopeEq agrees =>
      rw [scopeEq]
      exact List.forall_mem_singleton.mpr agrees.keeps
  | _ =>
      apply StateTyped.keeps
      assumption

open Eval in
/-- The body of a called function is typed where it begins, and the caller's blocks keep to the
discipline while they wait. -/
theorem MomentTyped.enters {moment next : Moment} (typed : MomentTyped D moment)
    (enters : moment.Enters next) : MomentTyped D next := by
  cases enters with
  | part part =>
      exact ⟨typed.task.part part, typed.suspended⟩
  | @body function declaration arguments offset fuel suspended frame state bodyEq bound =>
      constructor
      · cases typed.task with
        | @call _ _ _ scope callee _ agrees holds stateTyped =>
            have bodyTyped := agrees.typed
            rw [bodyEq] at bodyTyped
            rw [agrees.same] at bound
            generalize callee.signature = signature at bodyTyped holds bound
            cases bodyTyped with
            | declared arity named returnsNamed boundStatic blockTyped ends =>
                obtain ⟨bodyFrame, boundEq, bodyAgrees⟩ := bindArguments_agrees
                  declaration.parameters declaration.span.start holds arity named boundStatic
                  (.ofEmpty scope.globals (some _) (some _))
                have sameFrame : frame = bodyFrame := Except.ok.inj (bound.symm.trans boundEq)
                subst sameFrame
                have entered : StateTyped D ((Chain.ofGlobals scope.globals).push _)
                    (state.entered frame) := ⟨.cons bodyAgrees .nil, stateTyped.globals⟩
                exact .block blockTyped entered
      · intro waiting member
        rcases List.mem_append.mp member with inCaller | before
        · exact typed.task.keeps waiting (List.mem_append_left _ inCaller)
        · exact typed.suspended waiting before

theorem momentTyped_of_reaches {source : Source} {early globals : StaticFrame} {fuel : Nat}
    {sink : Sink} {moment : Moment} (typed : SourceTyped D source early globals)
    (reaches : source.Reaches fuel sink moment) : MomentTyped D moment := by
  induction reaches with
  | refl =>
      exact ⟨.source typed (State.initial_typed sink), List.forall_mem_nil _⟩
  | tail _ enters inductionHypothesis =>
      exact inductionHypothesis.enters enters

/-- A variable that lives at a typed moment has a value that the discipline allows for it. -/
theorem MomentTyped.lives {moment : Moment} {cell : Cell} (typed : MomentTyped D moment)
    (lives : moment.Lives cell) : D.Keeps cell.binding cell.value := by
  obtain ⟨state, beginsOrEnds, frame, member, name, found⟩ := lives
  rcases List.mem_append.mp member with inScope | waiting
  · rcases beginsOrEnds with rfl | rfl
    · exact typed.task.keeps frame inScope name cell found
    · have ended := typed.task.ends moment.fuel
      unfold Moment.last at inScope
      unfold Leads at ended
      cases result : Eval.task moment.fuel moment.task moment.state with
      | ok value after =>
          rw [result] at ended inScope
          obtain ⟨scope, afterTyped⟩ := ended
          exact afterTyped.keeps frame inScope name cell found
      | error stop after =>
          rw [result] at ended inScope
          obtain ⟨_, scope, afterTyped⟩ := ended
          exact afterTyped.keeps frame inScope name cell found
  · exact typed.suspended frame waiting name cell found

end ScriptLang
