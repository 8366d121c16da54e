import ScriptLang.Proofs.Truncation

/-!
Which call makes a write.

Wherever the failing write is issued, the call of `print` that issues it is a moment of the run on
the sink that never fails.  So every step of evaluation is compared on the two sinks together with
the moments that it goes through.
-/

namespace ScriptLang

/-! ### Issued writes -/

theorem Moment.last_eq_behind (moment : Moment) :
    moment.last = Eval.behind (Eval.task moment.fuel moment.task moment.state) := by
  unfold Moment.last
  cases Eval.task moment.fuel moment.task moment.state with
  | ok _ after => rfl
  | error stop after => rfl

/-- What is called at the moment is `print`, and it makes the write behind the first `count`. -/
structure Moment.Issues (count offset : Nat) (moment : Moment) : Prop where
  prints : ∃ function arguments,
    moment.task = .call function arguments offset ∧ function.body = .builtin .print
  before : moment.state.sink.written.length ≤ count
  exceeds : count < moment.last.sink.written.length

namespace Eval

variable {α : Type} {quota : Quota} {fuel : Nat}

/-- While the task is evaluated from the state on, whatever blocks are suspended meanwhile, `print`
is called at the offset and makes the write that is refused. -/
def issuedBy (quota : Quota) (fuel : Nat) (task : Task) (state : State) (offset : Nat) : Prop :=
  ∀ suspended, ∃ call,
    Relation.ReflTransGen Moment.Enters
      { task := task, fuel := fuel, suspended := suspended, state := state } call ∧
    call.Issues quota.writes offset

theorem Truncates.within {step : Eval α} {task inner : Task} {state middle after : State}
    (truncates : Truncates quota (issuedBy quota fuel inner after) step middle)
    (part : Part fuel task state inner after) :
    Truncates quota (issuedBy quota fuel task state) step middle := by
  refine truncates.imp fun offset issued suspended => ?_
  obtain ⟨call, reaches, issues⟩ := issued suspended
  exact ⟨call, .head (.part part) reaches, issues⟩

/-- Every call with the given fuel is cut off as its sink is. -/
def CallsTruncate (quota : Quota) (fuel : Nat) : Prop :=
  ∀ function arguments offset state,
    Truncates quota (issuedBy quota fuel (.call function arguments offset) state)
      (invoke fuel function arguments offset) state

/-! ### Expressions -/

theorem logical_truncates {issued : Nat → Prop} {right : Eval Value} {state : State}
    (op : BinaryOp) (offset : Nat) (left : Value)
    (rightTruncates : left = .boolean (op == .and) → Truncates quota issued right state) :
    Truncates quota issued (logical op offset left right) state := by
  unfold logical
  cases left with
  | boolean truth =>
      refine Truncates.bind (.pure truth) fun value middle ended => ?_
      cases ended
      by_cases decided : ((op == .and) != truth) = true
      · rw [if_pos decided]
        exact .pure _
      · rw [if_neg decided]
        have needed : (op == .and) = truth := by
          simpa only [bne_iff_ne, ne_eq, Decidable.not_not] using decided
        refine (rightTruncates (congrArg Value.boolean needed.symm)).bind fun value later _ => ?_
        exact .of_silent ((expectBoolean_silent _ _ value).bind fun _ => .pure _)
  | _ =>
      exact .bind (.of_silent (expectBoolean_silent _ _ _)) nofun

mutual

theorem expr_truncates (calls : CallsTruncate quota fuel) (e : Expr) (state : State) :
    Truncates quota (issuedBy quota fuel (.expression e) state)
      (expr (invoke fuel) e) state := by
  cases e with
  | literal value span ty =>
      rw [expr]
      exact .pure _
  | group inner span ty =>
      rw [expr]
      exact (expr_truncates calls inner state).within .group
  | binary op left right span ty =>
      rw [expr]
      refine ((expr_truncates calls left state).within .left).bind fun leftValue middle ended => ?_
      by_cases isLogical : op.isLogical = true
      · rw [if_pos isLogical]
        refine logical_truncates op span.start leftValue fun needed => ?_
        exact (expr_truncates calls right middle).within (.right ended fun _ => needed)
      · rw [if_neg isLogical]
        have atRight : Part fuel (.expression (.binary op left right span ty)) state
            (.expression right) middle :=
          .right ended fun holds => absurd holds isLogical
        refine ((expr_truncates calls right middle).within atRight).bind fun rightValue _ _ => ?_
        exact .of_silent (applyOperator_silent op leftValue rightValue span.start)
  | access name span ty target =>
      rw [expr]
      exact .of_silent ((lookupVariable_silent name span.start).bind fun _ => .pure _)
  | element name index span ty target =>
      rw [expr]
      refine .bind (.of_silent (lookupVariable_silent name span.start)) fun _ middle found => ?_
      refine ((expr_truncates calls index middle).within (.index found)).bind fun value _ _ => ?_
      refine .of_silent ((expectIndex_silent index.start value).bind fun position => ?_)
      refine (lookupVariable_silent name span.start).bind fun cell => ?_
      exact elementAt_silent cell.value position span.start
  | call name arguments span ty callee =>
      rw [expr]
      refine ((exprs_truncates calls arguments state).within .arguments).bind
        fun values middle evaluated => ?_
      refine .bind (.of_silent (lookupFunction_silent _ _)) fun function later found => ?_
      exact (calls function values span.start later).within (.call evaluated found)
  | list elements span ty =>
      rw [expr]
      refine ((exprs_truncates calls elements state).within .elements).bind fun _ _ _ => ?_
      exact .pure _

theorem exprs_truncates (calls : CallsTruncate quota fuel) (es : List Expr) (state : State) :
    Truncates quota (issuedBy quota fuel (.expressions es) state)
      (exprs (invoke fuel) es) state := by
  cases es with
  | nil =>
      rw [exprs]
      exact .pure _
  | cons first rest =>
      rw [exprs]
      refine ((expr_truncates calls first state).within .first).bind fun value middle ended => ?_
      refine ((exprs_truncates calls rest middle).within (.others ended)).bind fun _ _ _ => ?_
      exact .pure _

end

section Consumers

variable {issued : Nat → Prop} {call : Invocation} {state : State} {e : Expr}

theorem index_truncates (truncates : Truncates quota issued (expr call e) state) :
    Truncates quota issued (index call e) state :=
  truncates.bind fun value _ _ => .of_silent (expectIndex_silent e.start value)

theorem condition_truncates (truncates : Truncates quota issued (expr call e) state) :
    Truncates quota issued (condition call e) state :=
  truncates.bind fun value _ _ => .of_silent (expectBoolean_silent "condition" e.start value)

theorem initialValue_truncates (value : Option Expr)
    (truncates : ∀ e, value = some e → Truncates quota issued (expr call e) state) :
    Truncates quota issued (initialValue call value) state := by
  cases value with
  | none => exact .pure _
  | some e => exact truncates e rfl

end Consumers

theorem case_truncates (calls : CallsTruncate quota fuel) (subject : Value) (value : Option Expr)
    (body : List Stmt) (span : Span) (rest : List Case) (state : State) :
    Truncates quota (issuedBy quota fuel (.cases subject (.mk value body span :: rest)) state)
      (matchesCase (invoke fuel) subject value) state := by
  cases value with
  | none => exact .pure _
  | some e => exact ((expr_truncates calls e state).within .caseValue).bind fun _ _ _ => .pure _

/-! ### Statements -/

theorem assignment_truncates (calls : CallsTruncate quota fuel) (receiver value : Expr)
    (span : Span) (state : State) :
    Truncates quota (issuedBy quota fuel (.statement (.assignment receiver value span)) state)
      (assign (invoke fuel) receiver value span.start) state := by
  unfold assign
  cases receiver with
  | access name place ty target =>
      refine .bind (.of_silent (assignable_silent _ _ _)) fun _ middle assigned => ?_
      refine ((expr_truncates calls value middle).within (.assigned assigned)).bind
        fun result _ _ => ?_
      exact .of_silent (store_silent name result)
  | element name position place ty target =>
      refine .bind (.of_silent (assignable_silent _ _ _)) fun _ middle assigned => ?_
      refine .bind (index_truncates ((expr_truncates calls position middle).within
        (.position assigned))) fun i later indexed => ?_
      refine ((expr_truncates calls value later).within
        (.assignedElement assigned indexed)).bind fun result _ _ => ?_
      exact .of_silent (storeElement_silent name i result place.start)
  | _ =>
      exact .of_silent (.stop _)

theorem rounds_truncates {test : Expr} {body : List Stmt}
    (testTruncates : ∀ state, Truncates quota (issuedBy quota fuel (.expression test) state)
      (expr (invoke fuel) test) state)
    (bodyTruncates : ∀ state, Truncates quota (issuedBy quota fuel (.block body) state)
      (block (invoke fuel) fuel body) state)
    (count : Nat) (state : State) :
    Truncates quota (issuedBy quota fuel (.rounds count test body) state)
      (rounds count (condition (invoke fuel) test) (inBlock (block (invoke fuel) fuel body)))
      state := by
  -- By induction on the rounds that are left.
  induction count generalizing state with
  | zero =>
      exact .of_silent (.stop _)
  | succ count inductionHypothesis =>
      rw [rounds_succ]
      refine (condition_truncates ((testTruncates state).within .roundTest)).bind
        fun truth middle tested => ?_
      cases truth with
      | false =>
          exact .pure _
      | true =>
          refine .bind (.inBlock ((bodyTruncates middle.opened).within (.round tested)))
            fun flow later ended => ?_
          cases flow with
          | normal => exact (inductionHypothesis later).within (.nextRounds tested ended)
          | returned value => exact .pure _

mutual

theorem stmt_truncates (calls : CallsTruncate quota fuel) (s : Stmt) (state : State) :
    Truncates quota (issuedBy quota fuel (.statement s) state)
      (stmt (invoke fuel) fuel s) state := by
  cases s with
  | expression value span =>
      rw [stmt]
      exact ((expr_truncates calls value state).within .called).bind fun _ _ _ => .pure _
  | declaration name typeName value span target =>
      rw [stmt]
      refine .bind (initialValue_truncates value fun e found => ?_) fun result _ _ => ?_
      · cases found
        exact (expr_truncates calls e state).within .declared
      · exact .of_silent ((defineVariable_silent _ result span.start).bind fun _ => .pure _)
  | assignment receiver value span =>
      rw [stmt]
      exact (assignment_truncates calls receiver value span state).bind fun _ _ _ => .pure _
  | conditional test thenBlock elseBlock span =>
      rw [stmt]
      refine .bind (condition_truncates ((expr_truncates calls test state).within .test))
        fun truth middle tested => ?_
      have chosen : Part fuel (.statement (.conditional test thenBlock elseBlock span)) state
          (.block (if truth then thenBlock else elseBlock)) middle.opened := .branch tested
      cases truth with
      | true => exact ((block_truncates calls thenBlock middle.opened).within chosen).inBlock
      | false => exact ((block_truncates calls elseBlock middle.opened).within chosen).inBlock
  | switch subject cases span =>
      rw [stmt]
      refine ((expr_truncates calls subject state).within .subject).bind
        fun value middle evaluated => ?_
      exact (firstCase_truncates calls value cases middle).within (.cases evaluated)
  | loop test body span =>
      rw [stmt]
      exact .within (rounds_truncates (expr_truncates calls test) (block_truncates calls body)
        fuel state) .rounds
  | result value span =>
      rw [stmt]
      exact ((expr_truncates calls value state).within .returned).bind fun _ _ _ => .pure _

theorem block_truncates (calls : CallsTruncate quota fuel) (b : List Stmt) (state : State) :
    Truncates quota (issuedBy quota fuel (.block b) state)
      (block (invoke fuel) fuel b) state := by
  cases b with
  | nil =>
      rw [block]
      exact .pure _
  | cons first rest =>
      rw [block]
      refine ((stmt_truncates calls first state).within .firstStatement).bind
        fun flow middle ended => ?_
      cases flow with
      | normal => exact (block_truncates calls rest middle).within (.nextStatements ended)
      | returned value => exact .pure _

theorem firstCase_truncates (calls : CallsTruncate quota fuel) (subject : Value) (cs : List Case)
    (state : State) :
    Truncates quota (issuedBy quota fuel (.cases subject cs) state)
      (firstCase (invoke fuel) fuel subject cs) state := by
  cases cs with
  | nil =>
      rw [firstCase]
      exact .pure _
  | cons first rest =>
      obtain ⟨value, body, span⟩ := first
      rw [firstCase]
      refine (case_truncates calls subject value body span rest state).bind
        fun matched middle ended => ?_
      cases matched with
      | true => exact ((block_truncates calls body middle.opened).within (.chosen ended)).inBlock
      | false => exact (firstCase_truncates calls subject rest middle).within (.nextCases ended)

end

/-! ### Calls and programs -/

section Printing

variable {function : Function} {value : Value} {state : State} {after : Sink}

theorem invoke_print_of_accepted (bodyEq : function.body = .builtin .print) (offset : Nat)
    (written : state.sink.write (value.pieces ++ ["\n"]) = (none, after)) :
    invoke (fuel + 1) function [value] offset state = .ok .nil { state with sink := after } := by
  rw [invoke, bodyEq]
  simp only [Builtin.apply, Builtin.printed, written]

theorem invoke_print_of_refused {message : String} (bodyEq : function.body = .builtin .print)
    (offset : Nat)
    (written : state.sink.write (value.pieces ++ ["\n"]) = (some message, after)) :
    invoke (fuel + 1) function [value] offset state =
      .error (.fault { cause := .outputError message, offset := offset })
        { state with sink := after } := by
  rw [invoke, bodyEq]
  simp only [Builtin.apply, Builtin.printed, written]

theorem sink_behind_invoke_print (bodyEq : function.body = .builtin .print) (offset : Nat)
    (state : State) :
    (behind (invoke (fuel + 1) function [value] offset state)).sink =
      (state.sink.write (value.pieces ++ ["\n"])).2 := by
  cases written : state.sink.write (value.pieces ++ ["\n"]) with
  | mk refusal after =>
      cases refusal with
      | none => rw [invoke_print_of_accepted bodyEq offset written, behind]
      | some message => rw [invoke_print_of_refused bodyEq offset written, behind]

theorem print_truncates (bodyEq : function.body = .builtin .print) (offset : Nat) (state : State) :
    Truncates quota (issuedBy quota (fuel + 1) (.call function [value] offset) state)
      (invoke (fuel + 1) function [value] offset) state := by
  have sinkBehind : (behind (invoke (fuel + 1) function [value] offset state)).sink =
      (state.sink.write (value.pieces ++ ["\n"])).2 :=
    sink_behind_invoke_print bodyEq offset state
  refine ⟨?_, ?_, ?_⟩
  · rw [sinkBehind]
    exact state.sink.grows_write _
  · intro unlimited fits
    rw [sinkBehind] at fits
    have writtenCut := Sink.write_limited_of_le _ unlimited fits
    cases written : state.sink.write (value.pieces ++ ["\n"]) with
    | mk refusal after =>
        rw [written] at writtenCut
        cases refusal with
        | none =>
            rw [invoke_print_of_accepted bodyEq offset written]
            exact invoke_print_of_accepted bodyEq offset writtenCut
        | some message =>
            rw [invoke_print_of_refused bodyEq offset written]
            exact invoke_print_of_refused bodyEq offset writtenCut
  · intro unlimited fits exceeds
    have issued : issuedBy quota (fuel + 1) (.call function [value] offset) state offset := by
      intro suspended
      refine ⟨_, .refl, ⟨function, [value], rfl, bodyEq⟩, fits, ?_⟩
      rw [Moment.last_eq_behind, task, behind_discarded]
      exact exceeds
    rw [sinkBehind] at exceeds ⊢
    obtain ⟨last, refused, length, pieces⟩ := Sink.write_limited_of_lt _ unlimited fits exceeds
    exact ⟨offset, _, issued, invoke_print_of_refused bodyEq offset refused, length, pieces⟩

/-- Of the built-in functions only `print` writes, and only if it is called with one argument. -/
theorem invoke_builtin_silent {builtin : Builtin} {arguments : List Value}
    (bodyEq : function.body = .builtin builtin)
    (unwritten : ∀ value, ¬(builtin = .print ∧ arguments = [value])) (offset : Nat) :
    Silent (invoke (fuel + 1) function arguments offset) := by
  have apart : ∃ result, ∀ sink, builtin.apply arguments sink = (result, sink) := by
    cases builtin with
    | print =>
        match arguments with
        | [] => exact ⟨_, fun _ => rfl⟩
        | [value] => exact absurd ⟨rfl, rfl⟩ (unwritten value)
        | _ :: _ :: _ => exact ⟨_, fun _ => rfl⟩
    | logarithm => exact ⟨_, fun _ => rfl⟩
    | converter => exact ⟨_, fun _ => rfl⟩
  obtain ⟨result, applied⟩ := apart
  intro state sink
  rw [invoke, bodyEq]
  simp only [applied]
  cases result with
  | ok value => rfl
  | error cause => rfl

end Printing

theorem invoke_truncates (quota : Quota) (fuel : Nat) : CallsTruncate quota fuel := by
  -- By induction on the depth of calls.
  induction fuel with
  | zero =>
      intro function arguments offset state
      exact .of_silent (.stop _)
  | succ fuel inductionHypothesis =>
      intro function arguments offset state
      cases bodyEq : function.body with
      | builtin builtin =>
          by_cases prints : ∃ value, builtin = .print ∧ arguments = [value]
          · obtain ⟨value, rfl, rfl⟩ := prints
            exact print_truncates bodyEq offset state
          · exact .of_silent (invoke_builtin_silent bodyEq (not_exists.mp prints) offset)
      | declared declaration =>
          rw [invoke, bodyEq]
          refine .bind (.of_silent (.ofExcept _)) fun frame middle bound => ?_
          obtain ⟨framed, rfl⟩ := ofExcept_eq_ok.mp bound
          have inside := block_truncates inductionHypothesis declaration.body (state.entered frame)
          refine .bind (.inCall (inside.imp ?_)) fun _ _ _ => .pure _
          intro position issued suspended
          obtain ⟨call, reaches, issues⟩ := issued (state.scope.locals ++ suspended)
          exact ⟨call, .head (.body bodyEq framed) reaches, issues⟩
      | absent =>
          rw [invoke, bodyEq]
          exact .of_silent (.stop _)

theorem defineGlobal_truncates (first : GlobalDecl) (rest : List GlobalDecl) (state : State) :
    Truncates quota (issuedBy quota fuel (.globals (first :: rest)) state)
      (defineGlobal fuel first) state := by
  unfold defineGlobal
  refine .bind (initialValue_truncates first.value fun e found => ?_) fun value _ _ => ?_
  · exact (expr_truncates (invoke_truncates quota fuel) e state).within (.global found)
  · exact .of_silent (defineVariable_silent _ value first.span.start)

theorem defineGlobals_truncates (globals : List GlobalDecl) (state : State) :
    Truncates quota (issuedBy quota fuel (.globals globals) state)
      (defineGlobals fuel globals) state := by
  induction globals generalizing state with
  | nil =>
      exact .pure _
  | cons first rest inductionHypothesis =>
      rw [defineGlobals]
      refine (defineGlobal_truncates first rest state).bind fun _ middle bound => ?_
      exact (inductionHypothesis middle).within (.nextGlobals bound)

theorem defineFunctions_silent (functions : List FunctionDecl) :
    Silent (defineFunctions functions) := by
  induction functions with
  | nil =>
      exact .pure _
  | cons first rest inductionHypothesis =>
      rw [defineFunctions]
      exact (defineFunction_silent _ _).bind fun _ => inductionHypothesis

theorem load_truncates (source : Source) (state : State) :
    Truncates quota (issuedBy quota fuel (.source source) state)
      (load fuel source) state := by
  unfold load
  refine ((defineGlobals_truncates source.globals state).within .globals).bind fun _ _ _ => ?_
  refine .of_silent ((defineFunctions_silent source.functions).bind fun _ => ?_)
  intro state sink
  have got : ∀ state : State, (get : Eval State) state = .ok state state := fun _ => rfl
  rw [step_bind_of_ok (got state), step_bind_of_ok (got _)]
  dsimp only
  cases state.scope.findFunction? ("main", 0) with
  | some main => rfl
  | none => rfl

theorem program_truncates (source : Source) (state : State) :
    Truncates quota (issuedBy quota fuel (.source source) state)
      (program fuel source) state := by
  unfold program
  refine (load_truncates source state).bind fun main middle loaded => ?_
  exact (invoke_truncates quota fuel main [] source.span.start middle).within
    (.main loaded)

end Eval
end ScriptLang
