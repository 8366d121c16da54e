import ScriptLang.Proofs.IssuedWrites
import ScriptLang.Proofs.MomentPaths

/-!
A failing sink only truncates.

A program is run on a sink that accepts everything and on one that refuses all but the first
writes.  If the first run gets by with the writes that the second sink accepts, the two runs do not
differ.  Otherwise the second one evaluates what the first one does until the call of `print` that
goes beyond them, and ends there with an error.
-/

namespace ScriptLang

/-- A sink that accepts the first writes and refuses every later one. -/
def Sink.failingAfter (quota : Quota) : Sink :=
  Sink.unlimited.limited quota

/-- The moment with its sink limited. -/
def Moment.limited (quota : Quota) (moment : Moment) : Moment :=
  { moment with state := moment.state.limited quota }

/-! ### Moments of the two runs -/

namespace Eval

variable {quota : Quota} {fuel : Nat} {task next : Task} {state after : State}

/-- The next task begins as a part of the task behind a step, and does so wherever that step ends
with the same value; either there or inside a block that is opened there. -/
inductive Begins (quota : Quota) (fuel : Nat) (task next : Task) (state : State) :
    State → Prop where
  | behind {α : Type} {step : Eval α} {value : α} {middle : State}
      (truncates : ∀ before, Truncates quota (fun _ => True) step before)
      (part : ∀ {before after}, step before = .ok value after →
        Part fuel task before next after)
      (ended : step state = .ok value middle) : Begins quota fuel task next state middle
  | inside {α : Type} {step : Eval α} {value : α} {middle : State}
      (truncates : ∀ before, Truncates quota (fun _ => True) step before)
      (part : ∀ {before after}, step before = .ok value after →
        Part fuel task before next after.opened)
      (ended : step state = .ok value middle) : Begins quota fuel task next state middle.opened

theorem Begins.of_silent {α : Type} {step : Eval α} {value : α} (silent : Silent step)
    (part : ∀ {before after}, step before = .ok value after → Part fuel task before next after)
    (ended : step state = .ok value after) : Begins quota fuel task next state after :=
  .behind (fun _ => .of_silent silent) part ended

/-- The state in which a part begins is settled by the steps before it. -/
theorem begins_of_part (quota : Quota) (part : Part fuel task state next after) :
    Begins quota fuel task next state after := by
  have calls := invoke_truncates quota fuel
  cases part with
  | functions bound =>
      exact .behind (fun before => (defineGlobals_truncates _ before).forget) .functions bound
  | main loaded =>
      exact .behind (fun before => (load_truncates _ before).forget) .main loaded
  | @nextGlobals first rest _ _ bound =>
      exact .behind (fun before => (defineGlobal_truncates first rest before).forget) .nextGlobals
        bound
  | nextFunctions bound =>
      exact .of_silent (defineFunction_silent _ _) .nextFunctions bound
  | nextStatements ended =>
      exact .behind (fun before => (stmt_truncates calls _ before).forget) .nextStatements ended
  | assigned assignable =>
      exact .of_silent (assignable_silent _ _ _) .assigned assignable
  | position assignable =>
      exact .of_silent (assignable_silent _ _ _) .position assignable
  | @assignedElement name position place span _ _ _ _ _ _ _ assigned indexed =>
      have ended : (assignable name place.start span.start >>= fun _ =>
          index (invoke fuel) position) state = _ := (step_bind_of_ok assigned).trans indexed
      refine .behind (fun before => ?_) (fun whole => ?_) ended
      · refine .bind (.of_silent (assignable_silent _ _ _)) fun _ middle _ => ?_
        exact (index_truncates (expr_truncates calls position middle)).forget
      · obtain ⟨_, _, assigned, indexed⟩ := step_bind_eq_ok.mp whole
        exact .assignedElement assigned indexed
  | branch tested =>
      exact .inside (fun before => (condition_truncates (expr_truncates calls _ before)).forget)
        .branch tested
  | cases evaluated =>
      exact .behind (fun before => (expr_truncates calls _ before).forget) .cases evaluated
  | @chosen subject value body span rest _ _ matched =>
      have chooses := case_truncates calls subject value body span rest
      exact .inside (fun before => (chooses before).forget) .chosen matched
  | @nextCases subject value body span rest _ _ matched =>
      have chooses := case_truncates calls subject value body span rest
      exact .behind (fun before => (chooses before).forget) .nextCases matched
  | round tested =>
      exact .inside (fun before => (condition_truncates (expr_truncates calls _ before)).forget)
        .round tested
  | @nextRounds _ test body _ _ _ tested repeated =>
      have ended : (condition (invoke fuel) test >>= fun truth =>
          inBlock (block (invoke fuel) fuel body) >>= fun flow =>
            Pure.pure (truth, flow)) state = .ok (true, .normal) after := by
        rw [step_bind_of_ok tested, step_bind_of_ok repeated]
        rfl
      refine .behind (fun before => ?_) (fun whole => ?_) ended
      · refine (condition_truncates (expr_truncates calls test before)).forget.bind
          fun _ middle _ => ?_
        exact (block_truncates calls body middle.opened).inBlock.forget.bind fun _ _ _ => .pure _
      · obtain ⟨_, _, tested, whole⟩ := step_bind_eq_ok.mp whole
        obtain ⟨_, _, repeated, whole⟩ := step_bind_eq_ok.mp whole
        cases whole
        exact .nextRounds tested repeated
  | right evaluated needed =>
      exact .behind (fun before => (expr_truncates calls _ before).forget)
        (fun evaluated => .right evaluated needed) evaluated
  | index found =>
      exact .of_silent (lookupVariable_silent _ _) .index found
  | @call name arguments span _ _ values function _ _ _ evaluated found =>
      have ended : (exprs (invoke fuel) arguments >>= fun values =>
          lookupFunction (name, values.length) span.start >>= fun function =>
            Pure.pure (values, function)) state = .ok (values, function) after := by
        rw [step_bind_of_ok evaluated, step_bind_of_ok found]
        rfl
      refine .behind (fun before => ?_) (fun whole => ?_) ended
      · refine (exprs_truncates calls arguments before).forget.bind fun _ _ _ => ?_
        exact .of_silent ((lookupFunction_silent _ _).bind fun _ => .pure _)
      · obtain ⟨_, _, evaluated, whole⟩ := step_bind_eq_ok.mp whole
        obtain ⟨_, _, found, whole⟩ := step_bind_eq_ok.mp whole
        cases whole
        exact .call evaluated found
  | others evaluated =>
      exact .behind (fun before => (expr_truncates calls _ before).forget) .others evaluated
  | _ =>
      -- The other parts begin at once.
      refine .of_silent (.pure ()) (fun ended => ?_) rfl
      cases ended
      constructor <;> assumption

theorem part_limited (quota : Quota) (part : Part fuel task state next after) :
    state.sink.Grows after.sink ∧
      (state.sink.Unlimited → after.sink.written.length ≤ quota.writes →
        Part fuel task (state.limited quota) next (after.limited quota)) := by
  cases begins_of_part quota part with
  | behind truncates begins ended =>
      have grows := (truncates state).grows_of_ok ended
      refine ⟨grows, fun unlimited fits => ?_⟩
      exact begins ((truncates state).limited_of_ok ended unlimited fits)
  | inside truncates begins ended =>
      have grows := (truncates state).grows_of_ok ended
      refine ⟨grows, fun unlimited fits => ?_⟩
      exact begins ((truncates state).limited_of_ok ended unlimited fits)

theorem part_of_limited {cut : State} (unlimited : state.sink.Unlimited)
    (fits : state.sink.written.length ≤ quota.writes)
    (part : Part fuel task (state.limited quota) next cut) :
    ∃ after, Part fuel task state next after ∧ after.sink.written.length ≤ quota.writes ∧
      cut = after.limited quota := by
  cases begins_of_part quota part with
  | behind truncates begins ended =>
      obtain ⟨after, whole, fitsBehind, rfl⟩ :=
        (truncates state).ok_of_limited unlimited fits ended
      exact ⟨after, begins whole, fitsBehind, rfl⟩
  | inside truncates begins ended =>
      obtain ⟨after, whole, fitsBehind, rfl⟩ :=
        (truncates state).ok_of_limited unlimited fits ended
      exact ⟨after.opened, begins whole, fitsBehind, rfl⟩

end Eval

open Eval

variable {quota : Quota} {moment inner : Moment}

theorem Moment.Enters.limited (quota : Quota) (enters : moment.Enters inner) :
    moment.state.sink.Grows inner.state.sink ∧
      (moment.state.sink.Unlimited → inner.state.sink.written.length ≤ quota.writes →
        (moment.limited quota).Enters (inner.limited quota)) := by
  cases enters with
  | part part =>
      exact (part_limited quota part).imp_right fun limited unlimited fits =>
        .part (limited unlimited fits)
  | body bodyEq bound =>
      exact ⟨.refl _, fun _ _ => .body bodyEq bound⟩

theorem Moment.Enters.of_limited {cut : Moment} (unlimited : moment.state.sink.Unlimited)
    (fits : moment.state.sink.written.length ≤ quota.writes)
    (enters : (moment.limited quota).Enters cut) :
    ∃ inner, moment.Enters inner ∧ inner.state.sink.written.length ≤ quota.writes ∧
      cut = inner.limited quota := by
  obtain ⟨task, fuel, suspended, state⟩ := moment
  cases enters with
  | part begun =>
      obtain ⟨after, part, fitsBehind, rfl⟩ := part_of_limited unlimited fits begun
      exact ⟨_, .part part, fitsBehind, rfl⟩
  | body bodyEq bound =>
      exact ⟨_, .body bodyEq bound, fits, rfl⟩

section Runs

variable {source : Source} {fuel : Nat} {sink : Sink}

theorem Source.Reaches.grows (reaches : source.Reaches fuel sink moment) :
    sink.Grows moment.state.sink := by
  induction reaches with
  | refl => exact .refl sink
  | tail _ enters inductionHypothesis =>
      exact inductionHypothesis.trans (enters.limited ⟨0, ""⟩).1

/-- On a failing sink the moments of a run are those that begin before its quota is exceeded. -/
theorem Source.reaches_failingAfter {cut : Moment} :
    source.Reaches fuel (.failingAfter quota) cut ↔
      ∃ moment, source.Reaches fuel .unlimited moment ∧
        moment.state.sink.written.length ≤ quota.writes ∧ cut = moment.limited quota := by
  constructor
  · intro reaches
    induction reaches with
    | refl =>
        exact ⟨_, .refl, Nat.zero_le _, rfl⟩
    | tail _ enters inductionHypothesis =>
        obtain ⟨moment, reaches, fits, rfl⟩ := inductionHypothesis
        obtain ⟨inner, entersWhole, fitsInner, rfl⟩ :=
          enters.of_limited (reaches.grows.unlimited rfl) fits
        exact ⟨inner, reaches.tail entersWhole, fitsInner, rfl⟩
  · rintro ⟨moment, reaches, fits, rfl⟩
    induction reaches with
    | refl =>
        exact .refl
    | tail reaches enters inductionHypothesis =>
        obtain ⟨grows, limited⟩ := enters.limited quota
        have reachesCut := inductionHypothesis (Nat.le_trans grows.length_le fits)
        have unlimited := Source.Reaches.grows reaches
        exact reachesCut.tail (limited (unlimited.unlimited rfl) fits)

theorem Source.Reaches.caller {call : Moment} {function : Function} {arguments : List Value}
    {offset : Nat} (reaches : source.Reaches fuel sink call)
    (taskEq : call.task = .call function arguments offset) :
    arguments = [] ∨ ∃ caller name values span ty callee, source.Reaches fuel sink caller ∧
      caller.task = .expression (.call name values span ty callee) ∧ caller.Enters call ∧
      offset = span.start := by
  rcases Relation.ReflTransGen.cases_tail reaches with rfl | ⟨caller, reachesCaller, enters⟩
  · cases taskEq
  · obtain ⟨task, fuel, suspended, state⟩ := caller
    have entered := enters
    cases enters with
    | body bodyEq bound =>
        cases taskEq
    | part part =>
        cases taskEq
        cases part with
        | main loaded =>
            exact .inl rfl
        | call evaluated found =>
            exact .inr ⟨_, _, _, _, _, _, reachesCaller, rfl, entered, rfl⟩

theorem Moment.Issues.arguments_ne_nil {call : Moment} {function : Function} {count offset : Nat}
    (issues : call.Issues count offset) : call.task ≠ .call function [] offset := by
  intro taskEq
  obtain ⟨_, _, callEq, bodyEq⟩ := issues.prints
  rw [taskEq] at callEq
  cases callEq
  have silent : Silent (invoke call.fuel function [] offset) := by
    cases call.fuel with
    | zero => exact .stop _
    | succ fuel => exact invoke_builtin_silent bodyEq (by simp) offset
  have unchanged : call.last.sink = call.state.sink := by
    rw [call.last_eq_behind, taskEq, Eval.task, behind_discarded]
    exact silent.sink_behind call.state
  have exceeds := issues.exceeds
  rw [unchanged] at exceeds
  exact absurd issues.before (Nat.not_le.mpr exceeds)

theorem Source.sink_run (source : Source) (fuel : Nat) (sink : Sink) :
    (source.run fuel sink).sink = (behind (program fuel source (.initial sink))).sink := by
  unfold Source.run
  cases program fuel source (.initial sink) with
  | ok value after => rfl
  | error stop after => rfl

/-- A run on a failing sink is the run on a sink that never fails, up to the write that is refused.
If there is none, the two runs print the same and end alike.  Otherwise the call of `print` that
issues it fails there and ends the run, with what was written before.  Whatever the run on the
failing sink evaluates, the other one evaluates before that write. -/
theorem Source.run_failingAfter (source : Source) (fuel : Nat) (quota : Quota) :
    ((source.run fuel .unlimited).sink.written.length ≤ quota.writes →
      (source.run fuel (.failingAfter quota)).result = (source.run fuel .unlimited).result ∧
      (source.run fuel (.failingAfter quota)).sink.written =
        (source.run fuel .unlimited).sink.written) ∧
    (quota.writes < (source.run fuel .unlimited).sink.written.length →
      (∃ caller call name arguments span ty callee,
        source.Reaches fuel .unlimited caller ∧
        caller.task = .expression (.call name arguments span ty callee) ∧
        caller.Enters call ∧ call.Issues quota.writes span.start ∧
        (source.run fuel (.failingAfter quota)).result =
          .error (.fault { cause := .outputError quota.message, offset := span.start })) ∧
      (source.run fuel (.failingAfter quota)).sink.written.reverse =
        (source.run fuel .unlimited).sink.written.reverse.take quota.writes) ∧
    ∀ cut, source.Reaches fuel (.failingAfter quota) cut ↔
      ∃ moment, source.Reaches fuel .unlimited moment ∧
        moment.state.sink.written.length ≤ quota.writes ∧ cut = moment.limited quota := by
  have truncates : Truncates quota (issuedBy quota fuel (.source source) (.initial .unlimited))
      (program fuel source) (.initial .unlimited) := program_truncates source _
  refine ⟨?_, ?_, fun cut => Source.reaches_failingAfter⟩
  · intro fits
    rw [Source.sink_run] at fits
    have same := truncates.same rfl fits
    change program fuel source (.initial (.failingAfter quota)) = _ at same
    unfold Source.run
    rw [same]
    cases program fuel source (.initial .unlimited) with
    | ok value after => exact ⟨rfl, rfl⟩
    | error stop after => exact ⟨rfl, rfl⟩
  · intro exceeds
    rw [Source.sink_run] at exceeds
    obtain ⟨offset, last, issued, failed, length, pieces⟩ :=
      truncates.refused rfl (Nat.zero_le _) exceeds
    change program fuel source (.initial (.failingAfter quota)) = _ at failed
    have cutEq : source.run fuel (.failingAfter quota) =
        { result := .error (.fault { cause := .outputError quota.message, offset := offset })
          sink := last.sink } := by
      unfold Source.run
      rw [failed]
    rw [cutEq]
    constructor
    · obtain ⟨call, reaches, issues⟩ := issued []
      obtain ⟨function, arguments, taskEq, _⟩ := issues.prints
      have reachesCall : source.Reaches fuel .unlimited call := reaches
      rcases reachesCall.caller taskEq with
        rfl | ⟨caller, name, values, span, ty, callee, reachesCaller, callerTask, enters, rfl⟩
      · exact absurd taskEq issues.arguments_ne_nil
      · exact ⟨caller, call, name, values, span, ty, callee, reachesCaller, callerTask, enters,
          issues, rfl⟩
    · rw [Source.sink_run]
      have isTaken := List.prefix_iff_eq_take.mp (List.reverse_prefix.mpr pieces)
      rw [List.length_reverse, length] at isTaken
      exact isTaken

end Runs

/-- A program that prints in a condition and in an argument, from inside another function. -/
def nestedPrintsText : String :=
  "FUN note(n: Integer): Integer DO print(n); RETURN n; END FUN main() DO "
    ++ "IF note(1) < note(2) DO print(note(3)); END END"

/-- The third piece is the last one of three, and the newline behind it is refused. -/
theorem run_failingAfter_nested :
    ∃ source, Source.parse nestedPrintsText = .ok source ∧
      (source.run 9 .unlimited).sink.written.length = 8 ∧
      (source.run 9 (.failingAfter ⟨8, "full"⟩)).result = (source.run 9 .unlimited).result ∧
      (source.run 9 (.failingAfter ⟨3, "full"⟩)).sink.written.reverse = ["1", "\n", "2"] ∧
      ∃ caller call name arguments span ty callee,
        source.Reaches 9 .unlimited caller ∧
        caller.task = .expression (.call name arguments span ty callee) ∧
        caller.Enters call ∧ call.Issues 3 span.start ∧
        (source.run 9 (.failingAfter ⟨3, "full"⟩)).result =
          .error (.fault { cause := .outputError "full", offset := span.start }) := by
  have computed : (Source.parse nestedPrintsText).toOption.map (fun source =>
      (source.run 9 .unlimited).sink.written.reverse) =
      some ["1", "\n", "2", "\n", "3", "\n", "3", "\n"] := by
    decide +kernel
  obtain ⟨source, found, printed⟩ := Option.map_eq_some_iff.mp computed
  have length : (source.run 9 .unlimited).sink.written.length = 8 := by
    rw [← List.length_reverse, printed]
    rfl
  have whole := (source.run_failingAfter 9 ⟨8, "full"⟩).1 (Nat.le_of_eq length)
  have cut := (source.run_failingAfter 9 ⟨3, "full"⟩).2.1 (by rw [length]; decide)
  refine ⟨source, eq_ok_of_toOption found, length, whole.1, ?_, cut.1⟩
  rw [cut.2, printed]
  rfl

end ScriptLang
