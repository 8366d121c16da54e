import ScriptLang.Proofs.Alike

/-!
Two runs side by side.

Alike trees, run in alike states, end alike.  Both runs take the same steps, so the proof goes along
evaluation, one rule for each kind of step.  A call is met by induction on the fuel.
-/

namespace ScriptLang

section

variable (places : Nat → Nat → Prop) {α β : Type}

/-- Steps that ended alike, with values as `good` says or both early. -/
inductive EndsAlike (good : α → β → Prop) :
    EStateM.Result Stop State α → EStateM.Result Stop State β → Prop where
  | ok {value : α} {value' : β} {after after' : State} (values : good value value')
      (states : after.Alike places after') : EndsAlike good (.ok value after) (.ok value' after')
  | error {stop stop' : Stop} {after after' : State} (stops : stop.Alike places stop')
      (states : after.Alike places after') :
      EndsAlike good (.error stop after) (.error stop' after')

/-- From alike states, the two steps end alike. -/
def StepsAlike (first : Eval α) (second : Eval β) (good : α → β → Prop) : Prop :=
  ∀ state state' : State, state.Alike places state' →
    EndsAlike places good (first state) (second state')

def CallsAlike (call call' : Invocation) : Prop :=
  ∀ (function function' : Function) (arguments : List Value) (offset offset' : Nat),
    FunctionAlike places function function' → places offset offset' →
    StepsAlike places (call function arguments offset) (call' function' arguments offset') Eq

end

variable {places : Nat → Nat → Prop} {α β γ δ : Type} {offset offset' : Nat}

/-! ### Rules for steps -/

theorem EndsAlike.bind {good : α → β → Prop} {better : γ → δ → Prop} {first : Eval α}
    {second : Eval β} {next : α → Eval γ} {next' : β → Eval δ} {state state' : State}
    (ends : EndsAlike places good (first state) (second state'))
    (continues : ∀ value value', good value value' →
      StepsAlike places (next value) (next' value') better) :
    EndsAlike places better ((first >>= next) state) ((second >>= next') state') := by
  change EndsAlike places better (EStateM.bind first next state)
    (EStateM.bind second next' state')
  unfold EStateM.bind
  generalize first state = result at ends ⊢
  generalize second state' = result' at ends ⊢
  cases ends with
  | ok values afterStates => exact continues _ _ values _ _ afterStates
  | error stops afterStates => exact .error stops afterStates

namespace StepsAlike

variable {good : α → β → Prop} {better : γ → δ → Prop} {first : Eval α} {second : Eval β}

theorem pure {value : α} {value' : β} (values : good value value') :
    StepsAlike places (Pure.pure value) (Pure.pure value') good :=
  fun _ _ states => .ok values states

theorem stop {early early' : Stop} (stops : early.Alike places early') :
    StepsAlike places (throw early) (throw early') good :=
  fun _ _ states => .error stops states

theorem fail (cause : Cause) (here : places offset offset') :
    StepsAlike places (Eval.fail cause offset) (Eval.fail cause offset') good :=
  .stop (.fault ⟨rfl, here⟩)

theorem ofExcept {result : Except Fault α} {result' : Except Fault β}
    (results : ResultsAlike (FaultsAlike places) good result result') :
    StepsAlike places (Eval.ofExcept result) (Eval.ofExcept result') good := by
  cases results with
  | ok values => exact .pure values
  | error faults => exact .stop (.fault faults)

theorem bind {next : α → Eval γ} {next' : β → Eval δ}
    (steps : StepsAlike places first second good)
    (continues : ∀ value value', good value value' →
      StepsAlike places (next value) (next' value') better) :
    StepsAlike places (first >>= next) (second >>= next') better :=
  fun state state' states => (steps state state' states).bind continues

theorem get : StepsAlike places MonadState.get MonadState.get (State.Alike places) :=
  fun _ _ states => .ok states states

theorem set {state state' : State} (states : state.Alike places state') :
    StepsAlike places (MonadStateOf.set state) (MonadStateOf.set state') Eq :=
  fun _ _ _ => .ok rfl states

theorem inBlock (steps : StepsAlike places first second good) :
    StepsAlike places (Eval.inBlock first) (Eval.inBlock second) good := by
  intro state state' states
  have opened : RunScope.Alike places state.scope.child state'.scope.child :=
    states.scope.push (.ofEmpty none none)
  have ends := steps { state with scope := state.scope.child }
    { state' with scope := state'.scope.child } ⟨opened, states.sink⟩
  unfold Eval.inBlock
  generalize first { state with scope := state.scope.child } = result at ends ⊢
  generalize second { state' with scope := state'.scope.child } = result' at ends ⊢
  cases ends with
  | ok values inner => exact .ok values ⟨inner.scope.tail, inner.sink⟩
  | error stops inner => exact .error stops ⟨inner.scope.tail, inner.sink⟩

/-- The callers get their own blocks back, and share the globals that their calls left. -/
theorem inCall {frame frame' : RunFrame} (frames : frame.Alike places frame')
    (steps : StepsAlike places first second good) :
    StepsAlike places (Eval.inCall frame first) (Eval.inCall frame' second) good := by
  intro state state' states
  have entered : RunScope.Alike places { state.scope with locals := [frame] }
      { state'.scope with locals := [frame'] } := ⟨.cons frames .nil, states.scope.globals⟩
  have ends := steps { state with scope := { state.scope with locals := [frame] } }
    { state' with scope := { state'.scope with locals := [frame'] } } ⟨entered, states.sink⟩
  unfold Eval.inCall
  generalize first { state with scope := { state.scope with locals := [frame] } } = result
    at ends ⊢
  generalize second { state' with scope := { state'.scope with locals := [frame'] } } = result'
    at ends ⊢
  cases ends with
  | ok values inner =>
      exact .ok values ⟨⟨states.scope.locals, inner.scope.globals⟩, inner.sink⟩
  | error stops inner =>
      exact .error stops ⟨⟨states.scope.locals, inner.scope.globals⟩, inner.sink⟩

end StepsAlike

/-! ### Look-ups, definitions and stores -/

namespace Eval

theorem lookupVariable_alike (name : String) (here : places offset offset') :
    StepsAlike places (lookupVariable name offset) (lookupVariable name offset') CellAlike := by
  unfold lookupVariable
  apply StepsAlike.get.bind
  intro state state' states
  exact .ofExcept (states.scope.lookupVariable name here)

theorem lookupFunction_alike (key : String × Nat) (here : places offset offset') :
    StepsAlike places (lookupFunction key offset) (lookupFunction key offset')
      (FunctionAlike places) := by
  unfold lookupFunction
  apply StepsAlike.get.bind
  intro state state' states
  exact .ofExcept (states.scope.lookupFunction key here)

theorem defineVariable_alike (name : String) (ty ty' : Ty) (isMutable isList isList' : Bool)
    (value : Value) (here : places offset offset') :
    StepsAlike places (defineVariable (.plain name ty isMutable isList) value offset)
      (defineVariable (.plain name ty' isMutable isList') value offset') Eq := by
  have cells : CellAlike { binding := .plain name ty isMutable isList, value := value }
      { binding := .plain name ty' isMutable isList', value := value } := ⟨rfl, rfl, rfl⟩
  unfold defineVariable
  apply StepsAlike.get.bind
  intro state state' states
  apply StepsAlike.bind (.ofExcept (states.scope.defineVariable name cells here))
  intro scope scope' scopes
  exact .set ⟨scopes, states.sink⟩

theorem defineFunction_alike {function function' : Function}
    (functions : FunctionAlike places function function') (here : places offset offset') :
    StepsAlike places (defineFunction function offset) (defineFunction function' offset') Eq := by
  have sameKey : function.signature.key = function'.signature.key :=
    Prod.ext functions.name functions.arity
  unfold defineFunction
  apply StepsAlike.get.bind
  intro state state' states
  rw [sameKey]
  apply StepsAlike.bind
    (.ofExcept (states.scope.defineFunction function'.signature.key functions here))
  intro scope scope' scopes
  exact .set ⟨scopes, states.sink⟩

theorem store_alike (name : String) (value : Value) :
    StepsAlike places (store name value) (store name value) Eq := by
  intro state state' states
  refine .ok rfl ⟨states.scope.updateVariable name ?_, states.sink⟩
  intro cell cell' cells
  exact ⟨cells.name, cells.sameMutable, rfl⟩

/-! ### Expressions -/

theorem expectBoolean_alike (operator : String) (value : Value) (here : places offset offset') :
    StepsAlike places (expectBoolean operator offset value) (expectBoolean operator offset' value)
      Eq := by
  unfold expectBoolean
  split
  · exact .pure rfl
  · exact .fail _ here

theorem expectIndex_alike (value : Value) (here : places offset offset') :
    StepsAlike places (expectIndex offset value) (expectIndex offset' value) Eq := by
  unfold expectIndex
  split
  · exact .pure rfl
  · exact .fail _ here

theorem elementAt_alike (list : Value) (position : Int) (here : places offset offset') :
    StepsAlike places (elementAt list position offset) (elementAt list position offset') Eq := by
  unfold elementAt
  split
  · split
    · exact .pure rfl
    · exact .fail _ here
  · exact .fail _ here

theorem applyOperator_alike (op : BinaryOp) (left right : Value) (here : places offset offset') :
    StepsAlike places (applyOperator op left right offset) (applyOperator op left right offset')
      Eq := by
  unfold applyOperator
  split
  · exact .pure rfl
  · exact .fail _ here

theorem logical_alike (op : BinaryOp) (left : Value) {right right' : Eval Value}
    (here : places offset offset') (rights : StepsAlike places right right' Eq) :
    StepsAlike places (logical op offset left right) (logical op offset' left right') Eq := by
  unfold logical
  apply (expectBoolean_alike _ left here).bind
  rintro truth _ rfl
  by_cases decided : ((op == .and) != truth) = true
  · rw [if_pos decided, if_pos decided]
    exact .pure rfl
  · rw [if_neg decided, if_neg decided]
    apply rights.bind
    rintro value _ rfl
    apply (expectBoolean_alike _ value here).bind
    rintro other _ rfl
    exact .pure rfl

variable {call call' : Invocation}

mutual

theorem expr_alike (calls : CallsAlike places call call') {e e' : Expr}
    (alike : ExprAlike places e e') : StepsAlike places (expr call e) (expr call' e') Eq := by
  cases alike with
  | literal value =>
      rw [expr, expr]
      exact .pure rfl
  | group here innerAlike =>
      rw [expr, expr]
      exact expr_alike calls innerAlike
  | wrapped here innerAlike =>
      rw [expr.eq_def call' (.group _ _ _)]
      exact expr_alike calls innerAlike
  | binary op here leftAlike rightAlike =>
      rw [expr, expr]
      apply (expr_alike calls leftAlike).bind
      rintro leftValue _ rfl
      by_cases isLogical : op.isLogical = true
      · rw [if_pos isLogical, if_pos isLogical]
        exact logical_alike op leftValue here (expr_alike calls rightAlike)
      · rw [if_neg isLogical, if_neg isLogical]
        apply (expr_alike calls rightAlike).bind
        rintro rightValue _ rfl
        exact applyOperator_alike op leftValue rightValue here
  | access name here =>
      rw [expr, expr]
      apply (lookupVariable_alike name here).bind
      intro cell cell' cells
      exact .pure cells.value
  | element name here indexAlike =>
      rw [expr, expr]
      apply (lookupVariable_alike name here).bind
      intro _ _ _
      apply (expr_alike calls indexAlike).bind
      rintro indexValue _ rfl
      apply (expectIndex_alike indexValue indexAlike.start).bind
      rintro position _ rfl
      apply (lookupVariable_alike name here).bind
      intro cell cell' cells
      rw [cells.value]
      exact elementAt_alike cell'.value position here
  | call name here argumentsAlike =>
      rw [expr, expr]
      apply (exprs_alike calls argumentsAlike).bind
      rintro values _ rfl
      apply (lookupFunction_alike (name, values.length) here).bind
      intro function function' functions
      exact calls function function' values _ _ functions here
  | list here elementsAlike =>
      rw [expr, expr]
      apply (exprs_alike calls elementsAlike).bind
      rintro values _ rfl
      exact .pure rfl

theorem exprs_alike (calls : CallsAlike places call call') {es es' : List Expr}
    (alike : ExprsAlike places es es') :
    StepsAlike places (exprs call es) (exprs call' es') Eq := by
  cases alike with
  | nil =>
      rw [exprs, exprs]
      exact .pure rfl
  | cons firstAlike restAlike =>
      rw [exprs, exprs]
      apply (expr_alike calls firstAlike).bind
      rintro value _ rfl
      apply (exprs_alike calls restAlike).bind
      rintro values _ rfl
      exact .pure rfl

end

theorem index_alike (calls : CallsAlike places call call') {e e' : Expr}
    (alike : ExprAlike places e e') : StepsAlike places (index call e) (index call' e') Eq := by
  apply (expr_alike calls alike).bind
  rintro value _ rfl
  exact expectIndex_alike value alike.start

theorem condition_alike (calls : CallsAlike places call call') {e e' : Expr}
    (alike : ExprAlike places e e') :
    StepsAlike places (condition call e) (condition call' e') Eq := by
  apply (expr_alike calls alike).bind
  rintro value _ rfl
  exact expectBoolean_alike _ value alike.start

/-! ### Statements -/

theorem initialValue_alike (calls : CallsAlike places call call') {value value' : Option Expr}
    (alike : Option.Rel (ExprAlike places) value value') :
    StepsAlike places (initialValue call value) (initialValue call' value') Eq := by
  cases alike with
  | none => exact .pure rfl
  | some valueAlike => exact expr_alike calls valueAlike

theorem assignable_alike (name : String) {nameOffset nameOffset' : Nat}
    (nameHere : places nameOffset nameOffset') (here : places offset offset') :
    StepsAlike places (assignable name nameOffset offset) (assignable name nameOffset' offset')
      Eq := by
  unfold assignable
  apply (lookupVariable_alike name nameHere).bind
  intro cell cell' cells
  rw [cells.sameMutable, cells.name]
  split
  · exact .pure rfl
  · exact .fail _ here

theorem storeElement_alike (name : String) (position : Int) (value : Value)
    (here : places offset offset') :
    StepsAlike places (storeElement name position value offset)
      (storeElement name position value offset') Eq := by
  unfold storeElement
  apply (lookupVariable_alike name here).bind
  intro cell cell' cells
  rw [cells.value]
  split
  · split
    · exact store_alike name _
    · exact .fail _ here
  · exact .fail _ here

theorem assign_of_not_access {receiver : Expr} (notAccess : Typing.isAccess receiver = false)
    (value : Expr) : assign call receiver value offset = fail .invalidAssignmentTarget offset := by
  cases receiver with
  | access | element => cases notAccess
  | _ => rfl

theorem assign_alike (calls : CallsAlike places call call') {receiver receiver' value value' : Expr}
    (receiverAlike : ExprAlike places receiver receiver')
    (sameAccess : Typing.isAccess receiver = Typing.isAccess receiver')
    (valueAlike : ExprAlike places value value') (here : places offset offset') :
    StepsAlike places (assign call receiver value offset) (assign call' receiver' value' offset')
      Eq := by
  cases receiverAlike with
  | access name nameHere =>
      rw [assign, assign]
      apply (assignable_alike name nameHere here).bind
      intro _ _ _
      apply (expr_alike calls valueAlike).bind
      rintro assigned _ rfl
      exact store_alike name assigned
  | element name nameHere indexAlike =>
      rw [assign, assign]
      apply (assignable_alike name nameHere here).bind
      intro _ _ _
      apply (index_alike calls indexAlike).bind
      rintro position _ rfl
      apply (expr_alike calls valueAlike).bind
      rintro assigned _ rfl
      exact storeElement_alike name position assigned nameHere
  | wrapped _ _ =>
      rw [assign_of_not_access sameAccess, assign_of_not_access rfl]
      exact .fail _ here
  | literal | group | binary | call | list =>
      exact .fail _ here

theorem rounds_alike {condition condition' : Eval Bool} {body body' : Eval Flow}
    (conditions : StepsAlike places condition condition' Eq)
    (bodies : StepsAlike places body body' Eq) (fuel : Nat) :
    StepsAlike places (rounds fuel condition body) (rounds fuel condition' body') Eq := by
  induction fuel with
  | zero =>
      exact .stop .outOfFuel
  | succ fuel inductionHypothesis =>
      rw [rounds_succ, rounds_succ]
      apply conditions.bind
      rintro truth _ rfl
      cases truth with
      | false =>
          exact .pure rfl
      | true =>
          apply bodies.bind
          rintro flow _ rfl
          cases flow with
          | returned value => exact .pure rfl
          | normal => exact inductionHypothesis

theorem matchesCase_alike (calls : CallsAlike places call call') (subject : Value)
    {value value' : Option Expr} (alike : Option.Rel (ExprAlike places) value value') :
    StepsAlike places (matchesCase call subject value) (matchesCase call' subject value') Eq := by
  cases alike with
  | none =>
      exact .pure rfl
  | some valueAlike =>
      apply (expr_alike calls valueAlike).bind
      rintro found _ rfl
      exact .pure rfl

mutual

theorem stmt_alike (calls : CallsAlike places call call') (fuel : Nat) (s : Stmt) {s' : Stmt}
    (alike : StmtAlike places s s') :
    StepsAlike places (stmt call fuel s) (stmt call' fuel s') Eq := by
  cases s with
  | expression value span =>
      cases alike with
      | expression valueAlike =>
          rw [stmt, stmt]
          apply (expr_alike calls valueAlike).bind
          intro _ _ _
          exact .pure rfl
  | declaration name typeName value span target =>
      cases alike with
      | declaration _ here valueAlike =>
          rw [stmt, stmt]
          apply (initialValue_alike calls valueAlike).bind
          rintro initial _ rfl
          apply (defineVariable_alike name _ _ true false false initial here).bind
          intro _ _ _
          exact .pure rfl
  | assignment receiver value span =>
      cases alike with
      | assignment here receiverAlike sameAccess valueAlike =>
          rw [stmt, stmt]
          apply (assign_alike calls receiverAlike sameAccess valueAlike here).bind
          intro _ _ _
          exact .pure rfl
  | conditional test thenBlock elseBlock span =>
      cases alike with
      | conditional testAlike thenAlike elseAlike =>
          rw [stmt, stmt]
          apply (condition_alike calls testAlike).bind
          rintro truth _ rfl
          cases truth with
          | true => exact (block_alike calls fuel thenBlock thenAlike).inBlock
          | false => exact (block_alike calls fuel elseBlock elseAlike).inBlock
  | switch subject cs span =>
      cases alike with
      | switch subjectAlike casesAlike =>
          rw [stmt, stmt]
          apply (expr_alike calls subjectAlike).bind
          rintro value _ rfl
          exact firstCase_alike calls fuel value cs casesAlike
  | loop test body span =>
      cases alike with
      | loop testAlike bodyAlike =>
          rw [stmt, stmt]
          exact rounds_alike (condition_alike calls testAlike)
            (block_alike calls fuel body bodyAlike).inBlock fuel
  | result value span =>
      cases alike with
      | result valueAlike =>
          rw [stmt, stmt]
          apply (expr_alike calls valueAlike).bind
          rintro returned _ rfl
          exact .pure rfl

theorem block_alike (calls : CallsAlike places call call') (fuel : Nat) (b : List Stmt)
    {b' : List Stmt} (alike : BlockAlike places b b') :
    StepsAlike places (block call fuel b) (block call' fuel b') Eq := by
  cases b with
  | nil =>
      cases alike with
      | nil =>
          rw [block, block]
          exact .pure rfl
  | cons first rest =>
      cases alike with
      | cons firstAlike restAlike =>
          rw [block, block]
          apply (stmt_alike calls fuel first firstAlike).bind
          rintro flow _ rfl
          cases flow with
          | returned value => exact .pure rfl
          | normal => exact block_alike calls fuel rest restAlike

theorem firstCase_alike (calls : CallsAlike places call call') (fuel : Nat) (subject : Value)
    (cs : List Case) {cs' : List Case} (alike : CasesAlike places cs cs') :
    StepsAlike places (firstCase call fuel subject cs) (firstCase call' fuel subject cs') Eq := by
  cases cs with
  | nil =>
      cases alike with
      | nil =>
          rw [firstCase, firstCase]
          exact .pure rfl
  | cons first rest =>
      cases alike with
      | cons valueAlike bodyAlike restAlike =>
          rw [firstCase, firstCase]
          apply (matchesCase_alike calls subject valueAlike).bind
          rintro matching _ rfl
          cases matching with
          | true => exact (block_alike calls fuel _ bodyAlike).inBlock
          | false => exact firstCase_alike calls fuel subject rest restAlike

end

/-! ### Calls -/

/-- The types of the parameters go into their cells only, so their number is all that counts. -/
theorem bindArguments_alike {parameters parameters' : List Parameter}
    (names : parameters.map Parameter.name = parameters'.map Parameter.name)
    (arguments : List Value) {types types' : List Ty} (sameLength : types.length = types'.length)
    (here : places offset offset') {frame frame' : RunFrame} (frames : frame.Alike places frame') :
    ResultsAlike (FaultsAlike places) (RunFrame.Alike places)
      (bindArguments offset frame (parameters.zip (arguments.zip types)))
      (bindArguments offset' frame' (parameters'.zip (arguments.zip types'))) := by
  induction parameters generalizing parameters' arguments types types' frame frame' with
  | nil =>
      cases parameters' with
      | nil => exact .ok frames
      | cons first' rest' => cases names
  | cons first rest inductionHypothesis =>
      cases parameters' with
      | nil =>
          cases names
      | cons first' rest' =>
          obtain ⟨firstName, restNames⟩ := List.cons.inj names
          cases arguments with
          | nil =>
              exact .ok frames
          | cons value values =>
              cases types with
              | nil =>
                  rw [List.eq_nil_of_length_eq_zero sameLength.symm]
                  exact .ok frames
              | cons ty types =>
                  cases types' with
                  | nil =>
                      cases sameLength
                  | cons ty' types' =>
                      have cells : CellAlike ⟨.plain first.name ty true false, value⟩
                          ⟨.plain first'.name ty' true false, value⟩ := ⟨firstName, rfl, rfl⟩
                      rw [List.zip_cons_cons, List.zip_cons_cons, List.zip_cons_cons,
                        List.zip_cons_cons, bindArguments, bindArguments]
                      rw [firstName] at cells ⊢
                      apply (frames.defineVariable first'.name cells here).bind
                      intro bound bound' boundFrames
                      exact inductionHypothesis restNames values (Nat.succ.inj sameLength)
                        boundFrames

theorem builtin_alike (builtin : Builtin) (arguments : List Value)
    {function function' : Function} (fuel : Nat) (isBuiltin : function.body = .builtin builtin)
    (isBuiltin' : function'.body = .builtin builtin) (here : places offset offset') :
    StepsAlike places (invoke (fuel + 1) function arguments offset)
      (invoke (fuel + 1) function' arguments offset') Eq := by
  intro state state' states
  rw [invoke, invoke, isBuiltin, isBuiltin']
  dsimp only
  rw [states.sink]
  cases builtin.apply arguments state'.sink with
  | mk result sink =>
      cases result with
      | ok value => exact .ok rfl ⟨states.scope, rfl⟩
      | error cause => exact .error (.fault ⟨rfl, here⟩) ⟨states.scope, rfl⟩

theorem invoke_alike (fuel : Nat) : CallsAlike places (invoke fuel) (invoke fuel) := by
  -- By induction on the fuel, which the calls inside a body have less of.
  induction fuel with
  | zero =>
      intro function function' arguments offset offset' functions here
      exact .stop .outOfFuel
  | succ fuel inductionHypothesis =>
      intro function function' arguments offset offset' functions here
      have bodies := functions.body
      generalize bodyEq : function.body = body at bodies
      generalize bodyEq' : function'.body = body' at bodies
      cases bodies with
      | builtin builtin =>
          exact builtin_alike builtin arguments fuel bodyEq bodyEq' here
      | declared declarations =>
          rw [invoke, invoke, bodyEq, bodyEq']
          apply StepsAlike.bind (.ofExcept (bindArguments_alike declarations.parameters arguments
            functions.arity declarations.here (.ofEmpty _ _)))
          intro frame frame' frames
          apply ((block_alike inductionHypothesis fuel _ declarations.body).inCall frames).bind
          rintro flow _ rfl
          exact .pure rfl
      | absent =>
          rw [invoke, invoke, bodyEq, bodyEq', functions.name]
          exact .fail _ here

/-! ### Programs -/

theorem defineGlobal_alike (fuel : Nat) {global global' : GlobalDecl}
    (alike : global.Alike places global') :
    StepsAlike places (defineGlobal fuel global) (defineGlobal fuel global') Eq := by
  unfold defineGlobal
  apply (initialValue_alike (invoke_alike fuel) alike.value).bind
  rintro value _ rfl
  rw [alike.name, alike.sameMutable]
  exact defineVariable_alike _ _ _ _ _ _ value alike.here

theorem defineGlobals_alike (fuel : Nat) {globals globals' : List GlobalDecl}
    (alike : List.Forall₂ (GlobalDecl.Alike places) globals globals') :
    StepsAlike places (defineGlobals fuel globals) (defineGlobals fuel globals') Eq := by
  induction alike with
  | nil =>
      exact .pure rfl
  | cons firstAlike _ inductionHypothesis =>
      rw [defineGlobals, defineGlobals]
      apply (defineGlobal_alike fuel firstAlike).bind
      intro _ _ _
      exact inductionHypothesis

theorem functionOf_name (declaration : FunctionDecl) :
    (functionOf declaration).signature.name = declaration.name := by
  unfold functionOf
  cases declaration.callee with
  | none => rfl
  | some callee => rfl

theorem functionOf_arity {declaration : FunctionDecl} (fits : declaration.Fits) :
    (functionOf declaration).signature.arity = declaration.arity := by
  unfold functionOf
  cases found : declaration.callee with
  | none => exact List.length_map _
  | some callee => exact fits callee found

theorem functionOf_alike {declaration declaration' : FunctionDecl} (fits : declaration.Fits)
    (fits' : declaration'.Fits) (alike : declaration.Alike places declaration') :
    FunctionAlike places (functionOf declaration) (functionOf declaration') := by
  have sameArity : declaration.arity = declaration'.arity := by
    simpa [FunctionDecl.arity] using congrArg List.length alike.parameters
  refine ⟨?_, ?_, .declared alike⟩
  · rw [functionOf_name, functionOf_name, alike.name]
  · rw [functionOf_arity fits, functionOf_arity fits', sameArity]

theorem defineFunctions_alike {functions functions' : List FunctionDecl}
    (fit : ∀ function ∈ functions, function.Fits) (fit' : ∀ function ∈ functions', function.Fits)
    (alike : List.Forall₂ (FunctionDecl.Alike places) functions functions') :
    StepsAlike places (defineFunctions functions) (defineFunctions functions') Eq := by
  induction alike with
  | nil =>
      exact .pure rfl
  | cons firstAlike _ inductionHypothesis =>
      obtain ⟨firstFits, restFit⟩ := List.forall_mem_cons.mp fit
      obtain ⟨firstFits', restFit'⟩ := List.forall_mem_cons.mp fit'
      rw [defineFunctions, defineFunctions]
      apply (defineFunction_alike (functionOf_alike firstFits firstFits' firstAlike)
        firstAlike.here).bind
      intro _ _ _
      exact inductionHypothesis restFit restFit'

theorem findMain_alike (here : places offset offset') :
    StepsAlike places
      (do match (← MonadState.get).scope.findFunction? ("main", 0) with
          | some main => return main
          | none => fail .missingMain offset : Eval Function)
      (do match (← MonadState.get).scope.findFunction? ("main", 0) with
          | some main => return main
          | none => fail .missingMain offset' : Eval Function)
      (FunctionAlike places) := by
  apply StepsAlike.get.bind
  intro state state' states
  have found := states.scope.findFunction? ("main", 0)
  generalize state.scope.findFunction? ("main", 0) = main at found ⊢
  generalize state'.scope.findFunction? ("main", 0) = main' at found ⊢
  cases found with
  | none => exact .fail _ here
  | some functions => exact .pure functions

theorem load_alike (fuel : Nat) {source source' : Source}
    (fit : ∀ function ∈ source.functions, function.Fits)
    (fit' : ∀ function ∈ source'.functions, function.Fits)
    (alike : source.Alike places source') :
    StepsAlike places (load fuel source) (load fuel source') (FunctionAlike places) := by
  unfold load
  apply (defineGlobals_alike fuel alike.globals).bind
  intro _ _ _
  apply (defineFunctions_alike fit fit' alike.functions).bind
  intro _ _ _
  exact findMain_alike alike.stop

theorem program_alike (fuel : Nat) {source source' : Source}
    (fit : ∀ function ∈ source.functions, function.Fits)
    (fit' : ∀ function ∈ source'.functions, function.Fits)
    (alike : source.Alike places source') :
    StepsAlike places (program fuel source) (program fuel source') Eq := by
  unfold program
  apply (load_alike fuel fit fit' alike).bind
  intro main main' functions
  exact invoke_alike fuel main main' [] _ _ functions alike.start

end Eval

theorem Source.run_alike_of_ends {source source' : Source} {fuel : Nat} {sink : Sink}
    (ends : EndsAlike places Eq (Eval.program fuel source (.initial sink))
      (Eval.program fuel source' (.initial sink))) :
    (source.run fuel sink).Alike places (source'.run fuel sink) := by
  unfold Source.run
  generalize Eval.program fuel source (.initial sink) = result at ends ⊢
  generalize Eval.program fuel source' (.initial sink) = result' at ends ⊢
  cases ends with
  | ok same states =>
      cases same
      exact ⟨.ok rfl, states.sink⟩
  | error stops states =>
      exact ⟨.error stops, states.sink⟩

/-- Alike programs end alike in every sink, and have printed the same. -/
theorem Source.Alike.run {source source' : Source} (alike : source.Alike places source')
    (fit : ∀ function ∈ source.functions, function.Fits)
    (fit' : ∀ function ∈ source'.functions, function.Fits) (fuel : Nat) (sink : Sink) :
    (source.run fuel sink).Alike places (source'.run fuel sink) :=
  Source.run_alike_of_ends (Eval.program_alike fuel fit fit' alike _ _ (.initial sink))

end ScriptLang
