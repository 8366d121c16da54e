import ScriptLang.Proofs.MomentPaths

/-!
Failures end a run.

Nothing catches a failure: where a part of a task fails, the task fails for the same reason, and
so does the whole run.  On the way out blocks are closed and calls are left; the globals and the
sink stay as the part that failed has left them.
-/

namespace ScriptLang
namespace Eval

variable {α β : Type} {step : Eval α} {next : α → Eval β} {state middle last : State}
  {stop : Stop} {value : α}

/-- The step stops early, with the globals and the sink of the given state. -/
def StopsIn (step : Eval α) (state : State) (stop : Stop) (last : State) : Prop :=
  ∃ after, step state = .error stop after ∧ after.scope.globals = last.scope.globals ∧
    after.sink = last.sink

namespace StopsIn

theorem of_error (ended : step state = .error stop last) : StopsIn step state stop last :=
  ⟨last, ended, rfl, rfl⟩

theorem bind (stops : StopsIn step state stop last) :
    StopsIn (step >>= next) state stop last := by
  obtain ⟨after, ended, same⟩ := stops
  exact ⟨after, step_bind_of_error ended, same⟩

theorem behind (ended : step state = .ok value middle)
    (stops : StopsIn (next value) middle stop last) : StopsIn (step >>= next) state stop last := by
  unfold StopsIn
  rw [step_bind_of_ok ended]
  exact stops

theorem of_discarded {value : α → β} (stops : StopsIn (do return value (← step)) state stop last) :
    StopsIn step state stop last := by
  obtain ⟨after, ended, same⟩ := stops
  refine ⟨after, ?_, same⟩
  change EStateM.bind step _ state = _ at ended
  unfold EStateM.bind at ended
  cases result : step state with
  | ok value middle =>
      rw [result] at ended
      cases ended
  | error early middle =>
      rw [result] at ended
      cases ended
      rfl

theorem inBlock (stops : StopsIn step state.opened stop last) :
    StopsIn (Eval.inBlock step) state stop last := by
  obtain ⟨after, ended, same⟩ := stops
  unfold StopsIn Eval.inBlock
  change step { state with scope := state.scope.child } = _ at ended
  rw [ended]
  exact ⟨_, rfl, same⟩

theorem inCall {frame : RunFrame} (stops : StopsIn step (state.entered frame) stop last) :
    StopsIn (Eval.inCall frame step) state stop last := by
  obtain ⟨after, ended, same⟩ := stops
  unfold StopsIn Eval.inCall
  change step { state with scope := { state.scope with locals := [frame] } } = _ at ended
  rw [ended]
  exact ⟨_, rfl, same⟩

end StopsIn

/-! ### Parts of tasks -/

variable {fuel : Nat}

theorem expr_stops_of_part {e : Expr} {task : Task} {after : State}
    (part : Part fuel (.expression e) state task after)
    (stops : StopsIn (Eval.task fuel task) after stop last) :
    StopsIn (expr (invoke fuel) e) state stop last := by
  cases part with
  | group =>
      rw [expr]
      exact stops.of_discarded
  | left =>
      rw [expr]
      exact stops.of_discarded.bind
  | @right op _ _ _ _ leftValue _ _ evaluated needed =>
      rw [expr]
      refine .behind evaluated ?_
      by_cases isLogical : op.isLogical = true
      · rw [if_pos isLogical, needed isLogical]
        unfold logical
        refine .behind rfl ?_
        rw [if_neg (by simp)]
        exact stops.of_discarded.bind
      · rw [if_neg isLogical]
        exact stops.of_discarded.bind
  | index found =>
      rw [expr]
      exact .behind found stops.of_discarded.bind
  | arguments =>
      rw [expr]
      exact stops.of_discarded.bind
  | call evaluated found =>
      rw [expr]
      exact .behind evaluated (.behind found stops.of_discarded)
  | elements =>
      rw [expr]
      exact stops.of_discarded.bind

theorem stmt_stops_of_part {s : Stmt} {task : Task} {after : State}
    (part : Part fuel (.statement s) state task after)
    (stops : StopsIn (Eval.task fuel task) after stop last) :
    StopsIn (stmt (invoke fuel) fuel s) state stop last := by
  cases part with
  | called =>
      rw [stmt]
      exact stops.of_discarded.bind
  | declared =>
      rw [stmt]
      exact stops.of_discarded.bind
  | assigned assignable =>
      rw [stmt]
      exact StopsIn.bind (.behind assignable stops.of_discarded.bind)
  | position assignable =>
      rw [stmt]
      exact StopsIn.bind (.behind assignable (StopsIn.bind stops.of_discarded.bind))
  | assignedElement assignable indexed =>
      rw [stmt]
      exact StopsIn.bind (.behind assignable (.behind indexed stops.of_discarded.bind))
  | test =>
      rw [stmt]
      exact StopsIn.bind stops.of_discarded.bind
  | @branch _ _ _ _ truth _ _ tested =>
      rw [stmt]
      refine .behind tested ?_
      cases truth with
      | true => exact stops.of_discarded.inBlock
      | false => exact stops.of_discarded.inBlock
  | subject =>
      rw [stmt]
      exact stops.of_discarded.bind
  | cases evaluated =>
      rw [stmt]
      exact .behind evaluated stops.of_discarded
  | rounds =>
      rw [stmt]
      exact stops.of_discarded
  | returned =>
      rw [stmt]
      exact stops.of_discarded.bind

theorem task_stops_of_part {task part : Task} {after : State}
    (isPart : Part fuel task state part after)
    (stops : StopsIn (Eval.task fuel part) after stop last) :
    StopsIn (Eval.task fuel task) state stop last := by
  cases task with
  | source source =>
      cases isPart with
      | globals => exact StopsIn.bind (StopsIn.bind stops.bind)
      | functions bound => exact StopsIn.bind (StopsIn.bind (.behind bound stops.bind))
      | main loaded => exact StopsIn.bind (.behind loaded stops.of_discarded)
  | globals globals =>
      cases isPart with
      | @global first _ _ _ initial =>
          have evaluated : StopsIn (initialValue (invoke fuel) first.value) state stop last := by
            rw [initial]
            exact stops.of_discarded
          exact StopsIn.bind evaluated.bind
      | nextGlobals bound =>
          exact .behind bound stops
  | functions functions =>
      cases isPart with
      | nextFunctions bound => exact .behind bound stops
  | call function arguments offset =>
      cases isPart
  | block statements =>
      refine StopsIn.bind ?_
      cases isPart with
      | firstStatement =>
          rw [block]
          exact stops.of_discarded.bind
      | nextStatements ended =>
          rw [block]
          exact .behind ended stops.of_discarded
  | statement statement =>
      exact StopsIn.bind (stmt_stops_of_part isPart stops)
  | cases subject cases =>
      refine StopsIn.bind ?_
      cases isPart with
      | caseValue =>
          rw [firstCase]
          exact StopsIn.bind stops.of_discarded.bind
      | chosen matched =>
          rw [firstCase]
          exact .behind matched stops.of_discarded.inBlock
      | nextCases matched =>
          rw [firstCase]
          exact .behind matched stops.of_discarded
  | rounds count test body =>
      refine StopsIn.bind ?_
      cases isPart with
      | roundTest =>
          rw [rounds_succ]
          exact StopsIn.bind stops.of_discarded.bind
      | round tested =>
          rw [rounds_succ]
          exact .behind tested stops.of_discarded.inBlock.bind
      | nextRounds tested ended =>
          rw [rounds_succ]
          exact .behind tested (.behind ended stops.of_discarded)
  | expression e =>
      exact StopsIn.bind (expr_stops_of_part isPart stops)
  | expressions es =>
      refine StopsIn.bind ?_
      cases isPart with
      | first =>
          rw [exprs]
          exact stops.of_discarded.bind
      | others evaluated =>
          rw [exprs]
          exact .behind evaluated stops.of_discarded.bind

end Eval

open Eval

theorem Moment.Enters.stops {outer inner : Moment} (enters : outer.Enters inner) {stop : Stop}
    {last : State} (stops : StopsIn (Eval.task inner.fuel inner.task) inner.state stop last) :
    StopsIn (Eval.task outer.fuel outer.task) outer.state stop last := by
  cases enters with
  | part part =>
      exact task_stops_of_part part stops
  | body bodyEq bound =>
      refine StopsIn.bind ?_
      rw [invoke, bodyEq]
      refine .behind ?_ (StopsIn.bind (StopsIn.inCall stops.of_discarded))
      rw [bound]
      rfl

/-- A task that fails at some moment of a run ends the run, with what was printed before. -/
theorem Source.Reaches.run_eq {source : Source} {fuel : Nat} {sink : Sink} {moment : Moment}
    (reaches : source.Reaches fuel sink moment) {stop : Stop} {last : State}
    (failed : Eval.task moment.fuel moment.task moment.state = .error stop last) :
    source.run fuel sink = { result := .error stop, sink := last.sink } := by
  have stops : StopsIn (Eval.task fuel (.source source)) (.initial sink) stop last := by
    have stopsHere := StopsIn.of_error failed
    clear failed
    induction reaches with
    | refl =>
        exact stopsHere
    | tail _ enters inductionHypothesis =>
        exact inductionHypothesis (enters.stops stopsHere)
  obtain ⟨after, ended, _, sameSink⟩ := stops.of_discarded
  unfold Source.run
  rw [ended, ← sameSink]

end ScriptLang
