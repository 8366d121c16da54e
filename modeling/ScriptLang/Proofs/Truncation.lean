import ScriptLang.Proofs.Moments
import ScriptLang.Proofs.Step

/-!
Runs on a sink that fails.

Evaluation does not look at its sink except to write to it.  On a sink that refuses all but the
first writes it therefore goes on as on a sink that accepts them all, up to the first write that is
refused; there the call of `print` fails, and what is evaluated around it fails with it.  The two
runs are compared step by step, along evaluation and by induction on the fuel.
-/

namespace ScriptLang

/-- How many writes a sink accepts, and why it refuses the others. -/
structure Quota where
  writes : Nat
  message : String

/-! ### Sinks -/

namespace Sink

def limited (quota : Quota) (sink : Sink) : Sink :=
  { sink with
    refusal := fun written =>
      if written.length < quota.writes then none else some quota.message }

/-- The sink refuses no write. -/
def Unlimited (sink : Sink) : Prop :=
  sink.refusal = Sink.unlimited.refusal

structure Grows (before after : Sink) : Prop where
  refusal : after.refusal = before.refusal
  written : before.written <:+ after.written

namespace Grows

variable {before middle after : Sink}

theorem refl (sink : Sink) : sink.Grows sink :=
  ⟨rfl, List.suffix_refl _⟩

theorem trans (first : before.Grows middle) (second : middle.Grows after) : before.Grows after :=
  ⟨second.refusal.trans first.refusal, first.written.trans second.written⟩

theorem length_le (grows : before.Grows after) : before.written.length ≤ after.written.length :=
  grows.written.length_le

theorem unlimited (grows : before.Grows after) (unlimited : before.Unlimited) :
    after.Unlimited :=
  grows.refusal.trans unlimited

end Grows

section Writing

variable {sink : Sink} {piece : String} {quota : Quota}

theorem write_cons_of_blank (blank : piece.isEmpty = true) (pieces : List String) :
    sink.write (piece :: pieces) = sink.write pieces := by
  rw [write, if_pos blank]

theorem write_cons_of_accepted (nonblank : ¬piece.isEmpty = true)
    (accepted : sink.refusal sink.written = none) (pieces : List String) :
    sink.write (piece :: pieces) =
      { sink with written := piece :: sink.written }.write pieces := by
  rw [write, if_neg nonblank, accepted]

theorem write_cons_of_refused {message : String} (nonblank : ¬piece.isEmpty = true)
    (refused : sink.refusal sink.written = some message) (pieces : List String) :
    sink.write (piece :: pieces) = (some message, sink) := by
  rw [write, if_neg nonblank, refused]

theorem grows_write (sink : Sink) (pieces : List String) : sink.Grows (sink.write pieces).2 := by
  induction pieces generalizing sink with
  | nil =>
      exact .refl sink
  | cons piece pieces inductionHypothesis =>
      by_cases blank : piece.isEmpty = true
      · rw [write_cons_of_blank blank]
        exact inductionHypothesis sink
      · cases refused : sink.refusal sink.written with
        | some message =>
            rw [write_cons_of_refused blank refused]
            exact .refl sink
        | none =>
            rw [write_cons_of_accepted blank refused]
            have behind := inductionHypothesis { sink with written := piece :: sink.written }
            exact ⟨behind.refusal, (List.suffix_cons piece sink.written).trans behind.written⟩

theorem write_limited_of_le (pieces : List String) (unlimited : sink.Unlimited)
    (fits : (sink.write pieces).2.written.length ≤ quota.writes) :
    (sink.limited quota).write pieces =
      ((sink.write pieces).1, (sink.write pieces).2.limited quota) := by
  induction pieces generalizing sink with
  | nil =>
      rfl
  | cons piece pieces inductionHypothesis =>
      by_cases blank : piece.isEmpty = true
      · rw [write_cons_of_blank blank] at fits ⊢
        rw [write_cons_of_blank blank]
        exact inductionHypothesis unlimited fits
      · have accepted : sink.refusal sink.written = none := congrFun unlimited sink.written
        rw [write_cons_of_accepted blank accepted] at fits ⊢
        have grows := grows_write { sink with written := piece :: sink.written } pieces
        have room : sink.written.length < quota.writes := Nat.le_trans grows.length_le fits
        rw [write_cons_of_accepted blank (if_pos room)]
        have unlimitedNext : Unlimited { sink with written := piece :: sink.written } := unlimited
        exact inductionHypothesis unlimitedNext fits

theorem write_limited_of_lt (pieces : List String) (unlimited : sink.Unlimited)
    (fits : sink.written.length ≤ quota.writes)
    (exceeds : quota.writes < (sink.write pieces).2.written.length) :
    ∃ last : Sink, (sink.limited quota).write pieces = (some quota.message, last) ∧
      last.written.length = quota.writes ∧ last.written <:+ (sink.write pieces).2.written := by
  induction pieces generalizing sink with
  | nil =>
      exact absurd fits (Nat.not_le.mpr exceeds)
  | cons piece pieces inductionHypothesis =>
      by_cases blank : piece.isEmpty = true
      · rw [write_cons_of_blank blank] at exceeds ⊢
        rw [write_cons_of_blank blank]
        exact inductionHypothesis unlimited fits exceeds
      · by_cases room : sink.written.length < quota.writes
        · have accepted : sink.refusal sink.written = none := congrFun unlimited sink.written
          rw [write_cons_of_accepted blank accepted] at exceeds ⊢
          rw [write_cons_of_accepted blank (if_pos room)]
          have unlimitedNext : Unlimited { sink with written := piece :: sink.written } := unlimited
          exact inductionHypothesis unlimitedNext room exceeds
        · refine ⟨sink.limited quota, write_cons_of_refused blank (if_neg room) pieces, ?_, ?_⟩
          · exact Nat.le_antisymm fits (Nat.not_lt.mp room)
          · exact (grows_write sink (piece :: pieces)).written

end Writing

end Sink

/-! ### Steps -/

def State.limited (quota : Quota) (state : State) : State :=
  { state with sink := state.sink.limited quota }

namespace Eval

variable {α β : Type}

def behind : EStateM.Result Stop State α → State
  | .ok _ after => after
  | .error _ after => after

def mapBehind (change : State → State) :
    EStateM.Result Stop State α → EStateM.Result Stop State α
  | .ok value after => .ok value (change after)
  | .error stop after => .error stop (change after)

section Behind

variable {change other : State → State} {result : EStateM.Result Stop State α}

theorem behind_mapBehind : behind (mapBehind change result) = change (behind result) := by
  cases result with
  | ok value after => rfl
  | error stop after => rfl

theorem mapBehind_mapBehind :
    mapBehind change (mapBehind other result) =
      mapBehind (fun after => change (other after)) result := by
  cases result with
  | ok value after => rfl
  | error stop after => rfl

theorem mapBehind_congr (same : change (behind result) = other (behind result)) :
    mapBehind change result = mapBehind other result := by
  cases result with
  | ok value after => exact congrArg (EStateM.Result.ok value) same
  | error stop after => exact congrArg (EStateM.Result.error stop) same

end Behind

/-- A step fails as a write is refused, at an offset that may be given for it, and leaves in the
sink as many of the pieces as the quota accepts. -/
def RefusedAt (quota : Quota) (issued : Nat → Prop) (pieces : List String)
    (result : EStateM.Result Stop State α) : Prop :=
  ∃ offset last, issued offset ∧
    result = .error (.fault { cause := .outputError quota.message, offset := offset }) last ∧
    last.sink.written.length = quota.writes ∧ last.sink.written <:+ pieces

/-- The step only adds to the sink.  If the sink accepts no more than the quota, the step goes on
as if it accepted all, unless that would exceed the quota, where the step fails.

That the sink grows is part of it because a step whose write is refused may be followed, on the
sink that accepts all, by others: what they write lies behind the pieces that the quota accepts. -/
structure Truncates (quota : Quota) (issued : Nat → Prop) (step : Eval α) (state : State) :
    Prop where
  grows : state.sink.Grows (behind (step state)).sink
  same : state.sink.Unlimited → (behind (step state)).sink.written.length ≤ quota.writes →
    step (state.limited quota) = mapBehind (State.limited quota) (step state)
  refused : state.sink.Unlimited → state.sink.written.length ≤ quota.writes →
    quota.writes < (behind (step state)).sink.written.length →
    RefusedAt quota issued (behind (step state)).sink.written (step (state.limited quota))

def Silent (step : Eval α) : Prop :=
  ∀ (state : State) (sink : Sink), step { state with sink := sink } =
    mapBehind (fun after => { after with sink := sink }) (step state)

namespace Silent

variable {step : Eval α} {next : α → Eval β}

theorem sink_behind (silent : Silent step) (state : State) :
    (behind (step state)).sink = state.sink := by
  have whole := silent state state.sink
  rw [whole, behind_mapBehind]

theorem pure (value : α) : Silent (Pure.pure value) :=
  fun _ _ => rfl

theorem stop (early : Stop) : Silent (throw early : Eval α) :=
  fun _ _ => rfl

theorem ofExcept (result : Except Fault α) : Silent (Eval.ofExcept result) := by
  cases result with
  | ok value => exact .pure value
  | error fault => exact .stop _

theorem bind (first : Silent step) (second : ∀ value, Silent (next value)) :
    Silent (step >>= next) := by
  intro state sink
  have firstSame := first state sink
  cases ended : step state with
  | ok value middle =>
      rw [ended] at firstSame
      rw [step_bind_of_ok firstSame, step_bind_of_ok ended]
      exact second value middle sink
  | error early last =>
      rw [ended] at firstSame
      rw [step_bind_of_error firstSame, step_bind_of_error ended]
      rfl

end Silent

namespace Truncates

variable {quota : Quota} {issued wider : Nat → Prop} {step : Eval α} {next : α → Eval β}
  {state middle : State}

theorem imp (truncates : Truncates quota issued step state)
    (implied : ∀ offset, issued offset → wider offset) : Truncates quota wider step state where
  grows := truncates.grows
  same := truncates.same
  refused := fun unlimited fits exceeds =>
    have ⟨offset, last, isIssued, failed⟩ := truncates.refused unlimited fits exceeds
    ⟨offset, last, implied offset isIssued, failed⟩

theorem forget (truncates : Truncates quota issued step state) :
    Truncates quota (fun _ => True) step state :=
  truncates.imp fun _ _ => True.intro

theorem of_silent (silent : Silent step) : Truncates quota issued step state where
  grows := by
    rw [silent.sink_behind state]
    exact .refl state.sink
  same := by
    intro _ _
    refine (silent state (state.sink.limited quota)).trans (mapBehind_congr ?_)
    unfold State.limited
    rw [silent.sink_behind]
  refused := by
    intro _ fits exceeds
    rw [silent.sink_behind state] at exceeds
    exact absurd fits (Nat.not_le.mpr exceeds)

theorem pure (value : α) : Truncates quota issued (Pure.pure value) state :=
  .of_silent (.pure value)

section Ended

variable {value : α}

theorem grows_of_ok (truncates : Truncates quota issued step state)
    (ended : step state = .ok value middle) : state.sink.Grows middle.sink := by
  have grows := truncates.grows
  rw [ended] at grows
  exact grows

theorem limited_of_ok (truncates : Truncates quota issued step state)
    (ended : step state = .ok value middle) (unlimited : state.sink.Unlimited)
    (fits : middle.sink.written.length ≤ quota.writes) :
    step (state.limited quota) = .ok value (middle.limited quota) := by
  have same := truncates.same unlimited
  rw [ended] at same
  exact same fits

theorem ok_of_limited {last : State} (truncates : Truncates quota issued step state)
    (unlimited : state.sink.Unlimited) (fits : state.sink.written.length ≤ quota.writes)
    (ended : step (state.limited quota) = .ok value last) :
    ∃ after, step state = .ok value after ∧ after.sink.written.length ≤ quota.writes ∧
      last = after.limited quota := by
  by_cases fitsBehind : (behind (step state)).sink.written.length ≤ quota.writes
  · rw [truncates.same unlimited fitsBehind] at ended
    cases whole : step state with
    | ok found after =>
        rw [whole] at ended fitsBehind
        cases ended
        exact ⟨after, rfl, fitsBehind, rfl⟩
    | error stop after =>
        rw [whole] at ended
        cases ended
  · obtain ⟨offset, after, _, failed, _⟩ :=
      truncates.refused unlimited fits (Nat.not_le.mp fitsBehind)
    rw [failed] at ended
    cases ended

theorem followed (first : Truncates quota issued step state)
    (ended : step state = .ok value middle)
    (rest : Truncates quota issued (next value) middle) :
    Truncates quota issued (step >>= next) state := by
  have whole : (step >>= next) state = next value middle := step_bind_of_ok ended
  have grown := first.grows_of_ok ended
  refine ⟨?_, ?_, ?_⟩
  · rw [whole]
    exact grown.trans rest.grows
  · intro unlimited fits
    rw [whole] at fits ⊢
    have fitsFirst := Nat.le_trans rest.grows.length_le fits
    rw [step_bind_of_ok (first.limited_of_ok ended unlimited fitsFirst)]
    exact rest.same (grown.unlimited unlimited) fits
  · intro unlimited starts exceeds
    rw [whole] at exceeds ⊢
    by_cases fits : middle.sink.written.length ≤ quota.writes
    · rw [step_bind_of_ok (first.limited_of_ok ended unlimited fits)]
      exact rest.refused (grown.unlimited unlimited) fits exceeds
    · have refused := first.refused unlimited starts
      rw [ended] at refused
      obtain ⟨offset, last, isIssued, failed, length, pieces⟩ := refused (Nat.not_le.mp fits)
      exact ⟨offset, last, isIssued, step_bind_of_error failed, length,
        pieces.trans rest.grows.written⟩

theorem unfollowed {stop : Stop} (first : Truncates quota issued step state)
    (failed : step state = .error stop middle) : Truncates quota issued (step >>= next) state := by
  have whole : (step >>= next) state = .error stop middle := step_bind_of_error failed
  have same := first.same
  have refused := first.refused
  rw [failed] at same refused
  refine ⟨?_, ?_, ?_⟩
  · have grows := first.grows
    rw [failed] at grows
    rw [whole]
    exact grows
  · intro unlimited fits
    rw [whole] at fits ⊢
    exact step_bind_of_error (same unlimited fits)
  · intro unlimited starts exceeds
    rw [whole] at exceeds ⊢
    obtain ⟨offset, last, isIssued, stopped, written⟩ := refused unlimited starts exceeds
    exact ⟨offset, last, isIssued, step_bind_of_error stopped, written⟩

end Ended

theorem bind (first : Truncates quota issued step state)
    (second : ∀ value middle, step state = .ok value middle →
      Truncates quota issued (next value) middle) :
    Truncates quota issued (step >>= next) state := by
  cases ended : step state with
  | ok value middle => exact first.followed ended (second value middle ended)
  | error stop middle => exact first.unfollowed ended

/-- A step is compared as the step inside it, if it opens and closes scopes around that. -/
theorem around {outer : Eval α} {inner : State} {close : State → State}
    (truncates : Truncates quota issued step inner) (sameSink : inner.sink = state.sink)
    (ends : outer state = mapBehind close (step inner))
    (endsLimited : outer (state.limited quota) = mapBehind close (step (inner.limited quota)))
    (closes : ∀ (after : State) (sink : Sink),
      close { after with sink := sink } = { close after with sink := sink }) :
    Truncates quota issued outer state := by
  have sinkOf : ∀ after : State, (close after).sink = after.sink :=
    fun after => (congrArg State.sink (closes after after.sink)).trans rfl
  have limitedOf : ∀ after : State,
      close (after.limited quota) = (close after).limited quota := by
    intro after
    unfold State.limited
    rw [closes, sinkOf]
  refine ⟨?_, ?_, ?_⟩
  · rw [ends, behind_mapBehind, sinkOf, ← sameSink]
    exact truncates.grows
  · intro unlimited fits
    rw [ends, behind_mapBehind, sinkOf] at fits
    rw [← sameSink] at unlimited
    rw [endsLimited, truncates.same unlimited fits, ends, mapBehind_mapBehind,
      mapBehind_mapBehind]
    exact mapBehind_congr (limitedOf _)
  · intro unlimited fits exceeds
    rw [ends, behind_mapBehind, sinkOf] at exceeds ⊢
    rw [← sameSink] at unlimited fits
    obtain ⟨offset, last, isIssued, failed, length, pieces⟩ :=
      truncates.refused unlimited fits exceeds
    refine ⟨offset, close last, isIssued, ?_, ?_, ?_⟩
    · rw [endsLimited, failed]
      rfl
    · rw [sinkOf]
      exact length
    · rw [sinkOf]
      exact pieces

theorem inBlock (truncates : Truncates quota issued step state.opened) :
    Truncates quota issued (Eval.inBlock step) state := by
  have ends : ∀ outside : State, Eval.inBlock step outside =
      mapBehind (fun inner : State =>
        { inner with scope := { inner.scope with locals := inner.scope.locals.tail } })
        (step outside.opened) := by
    intro outside
    unfold Eval.inBlock
    change _ = mapBehind _ (step { outside with scope := outside.scope.child })
    cases step { outside with scope := outside.scope.child } with
    | ok value inner => rfl
    | error stop inner => rfl
  exact truncates.around rfl (ends state) (ends (state.limited quota)) fun _ _ => rfl

theorem inCall {frame : RunFrame} (truncates : Truncates quota issued step (state.entered frame)) :
    Truncates quota issued (Eval.inCall frame step) state := by
  have ends : ∀ outside : State, Eval.inCall frame step outside =
      mapBehind (fun inner : State =>
        { inner with scope := { inner.scope with locals := outside.scope.locals } })
        (step (outside.entered frame)) := by
    intro outside
    unfold Eval.inCall
    change _ = mapBehind _
      (step { outside with scope := { outside.scope with locals := [frame] } })
    cases step { outside with scope := { outside.scope with locals := [frame] } } with
    | ok value inner => rfl
    | error stop inner => rfl
  exact truncates.around rfl (ends state) (ends (state.limited quota)) fun _ _ => rfl

end Truncates

/-! ### Silent steps -/

theorem lookupVariable_silent (name : String) (offset : Nat) :
    Silent (lookupVariable name offset) :=
  fun state => Silent.ofExcept (state.scope.lookupVariable name offset) state

theorem lookupFunction_silent (key : String × Nat) (offset : Nat) :
    Silent (lookupFunction key offset) :=
  fun state => Silent.ofExcept (state.scope.lookupFunction key offset) state

theorem defineVariable_silent (binding : Variable) (value : Value) (offset : Nat) :
    Silent (defineVariable binding value offset) := by
  intro state sink
  change (ofExcept _ >>= _) _ = mapBehind _ ((ofExcept _ >>= _) _)
  cases state.scope.defineVariable binding.name { binding := binding, value := value } offset with
  | ok scope => rfl
  | error fault => rfl

theorem defineFunction_silent (function : Function) (offset : Nat) :
    Silent (defineFunction function offset) := by
  intro state sink
  change (ofExcept _ >>= _) _ = mapBehind _ ((ofExcept _ >>= _) _)
  cases state.scope.defineFunction function.signature.key function offset with
  | ok scope => rfl
  | error fault => rfl

theorem store_silent (name : String) (value : Value) : Silent (store name value) :=
  fun _ _ => rfl

theorem expectBoolean_silent (operator : String) (offset : Nat) (value : Value) :
    Silent (expectBoolean operator offset value) := by
  unfold expectBoolean
  split
  · exact .pure _
  · exact .stop _

theorem expectIndex_silent (offset : Nat) (value : Value) : Silent (expectIndex offset value) := by
  unfold expectIndex
  split
  · exact .pure _
  · exact .stop _

theorem elementAt_silent (list : Value) (index : Int) (offset : Nat) :
    Silent (elementAt list index offset) := by
  unfold elementAt
  split
  · split
    · exact .pure _
    · exact .stop _
  · exact .stop _

theorem applyOperator_silent (op : BinaryOp) (left right : Value) (offset : Nat) :
    Silent (applyOperator op left right offset) := by
  unfold applyOperator
  split
  · exact .pure _
  · exact .stop _

theorem assignable_silent (name : String) (nameOffset offset : Nat) :
    Silent (assignable name nameOffset offset) := by
  unfold assignable
  refine (lookupVariable_silent name nameOffset).bind fun cell => ?_
  split
  · exact .pure _
  · exact .stop _

theorem storeElement_silent (name : String) (index : Int) (value : Value) (offset : Nat) :
    Silent (storeElement name index value offset) := by
  unfold storeElement
  refine (lookupVariable_silent name offset).bind fun cell => ?_
  split
  · split
    · exact store_silent _ _
    · exact .stop _
  · exact .stop _

theorem behind_discarded (step : Eval α) (state : State) :
    behind ((do let _ ← step) state) = behind (step state) := by
  cases ended : step state with
  | ok value after => rw [step_bind_of_ok ended]; rfl
  | error stop after => rw [step_bind_of_error ended]; rfl

end Eval
end ScriptLang
