/-!
What steps lead to.

Readers and evaluation are steps that change a state and may stop with an error.  A step is
described by what holds of its value and the state behind it, and by what holds of its error
and the state it is left in.  Steps that cannot change a state are described by their result.
-/

namespace ScriptLang

variable {ε σ α β : Type}

/-- Run in the given state, the step yields a value and a state as `good` says, or an error and
a state as `bad` says. -/
def Leads (step : EStateM ε σ α) (state : σ) (good : α → σ → Prop) (bad : ε → σ → Prop) : Prop :=
  match step state with
  | .ok value after => good value after
  | .error error after => bad error after

theorem leads_get (state : σ) (good : σ → σ → Prop) (bad : ε → σ → Prop) :
    Leads get state good bad ↔ good state state :=
  Iff.rfl

theorem leads_bind (step : EStateM ε σ α) (next : α → EStateM ε σ β) (state : σ)
    (good : β → σ → Prop) (bad : ε → σ → Prop) :
    Leads (step >>= next) state good bad ↔
      Leads step state (fun value after => Leads (next value) after good bad) bad := by
  unfold Leads
  change (match EStateM.bind step next state with
    | .ok value after => good value after
    | .error error after => bad error after) ↔ _
  unfold EStateM.bind
  cases step state with
  | ok value after =>
      exact Iff.rfl
  | error error after =>
      exact Iff.rfl

namespace Leads

variable {step : EStateM ε σ α} {state : σ} {good better : α → σ → Prop}
  {bad worse : ε → σ → Prop}

theorem imp (leads : Leads step state good bad)
    (whenGood : ∀ value after, good value after → better value after)
    (whenBad : ∀ error after, bad error after → worse error after) :
    Leads step state better worse := by
  unfold Leads at leads ⊢
  cases result : step state with
  | ok value after =>
      rw [result] at leads
      exact whenGood value after leads
  | error error after =>
      rw [result] at leads
      exact whenBad error after leads

theorem bind {next : α → EStateM ε σ β} {best : β → σ → Prop}
    (leads : Leads step state good bad)
    (continues : ∀ value after, good value after → Leads (next value) after best bad) :
    Leads (step >>= next) state best bad :=
  (leads_bind step next state best bad).mpr
    (leads.imp continues fun _ _ holds => holds)

theorem of_ok {value : α} {after : σ} (leads : Leads step state good bad)
    (ended : step state = .ok value after) : good value after := by
  unfold Leads at leads
  rw [ended] at leads
  exact leads

theorem of_error {error : ε} {after : σ} (leads : Leads step state good bad)
    (ended : step state = .error error after) : bad error after := by
  unfold Leads at leads
  rw [ended] at leads
  exact leads

end Leads

theorem step_bind_eq_ok {step : EStateM ε σ α} {next : α → EStateM ε σ β} {state after : σ}
    {value : β} :
    (step >>= next) state = .ok value after ↔
      ∃ first middle, step state = .ok first middle ∧ next first middle = .ok value after := by
  change EStateM.bind step next state = _ ↔ _
  unfold EStateM.bind
  cases step state with
  | ok first middle =>
      constructor
      · intro succeeds
        exact ⟨first, middle, rfl, succeeds⟩
      · rintro ⟨_, _, firstEq, succeeds⟩
        cases firstEq
        exact succeeds
  | error error middle =>
      constructor
      · intro succeeds
        cases succeeds
      · rintro ⟨_, _, impossible, _⟩
        cases impossible

theorem step_bind_of_ok {step : EStateM ε σ α} {next : α → EStateM ε σ β} {state middle : σ}
    {value : α} (ended : step state = .ok value middle) :
    (step >>= next) state = next value middle := by
  change EStateM.bind step next state = _
  unfold EStateM.bind
  rw [ended]

theorem step_bind_of_error {step : EStateM ε σ α} {next : α → EStateM ε σ β} {state last : σ}
    {error : ε} (failed : step state = .error error last) :
    (step >>= next) state = .error error last := by
  change EStateM.bind step next state = _
  unfold EStateM.bind
  rw [failed]

theorem leads_bind_of_ok {step : EStateM ε σ α} {next : α → EStateM ε σ β} {state middle : σ}
    {value : α} {good : β → σ → Prop} {bad : ε → σ → Prop}
    (ended : step state = .ok value middle) :
    Leads (step >>= next) state good bad ↔ Leads (next value) middle good bad := by
  unfold Leads
  rw [step_bind_of_ok ended]

theorem bind_eq_ok {step : Except ε α} {next : α → Except ε β} {value : β} :
    step >>= next = .ok value ↔ ∃ first, step = .ok first ∧ next first = .ok value := by
  cases step with
  | ok first =>
      constructor
      · intro succeeds
        exact ⟨first, rfl, succeeds⟩
      · rintro ⟨_, firstEq, succeeds⟩
        cases firstEq
        exact succeeds
  | error error =>
      constructor
      · intro succeeds
        cases succeeds
      · rintro ⟨_, impossible, _⟩
        cases impossible

theorem bind_congr_of_ok {step : Except ε α} {next next' : α → Except ε β}
    (same : ∀ value, step = .ok value → next value = next' value) :
    step >>= next = step >>= next' := by
  cases step with
  | ok value => exact same value rfl
  | error error => rfl

theorem step_bind_congr_of_ok {step step' : EStateM ε σ α} {next next' : α → EStateM ε σ β}
    {state : σ} (steps : step state = step' state)
    (same : ∀ value after, step' state = .ok value after → next value after = next' value after) :
    (step >>= next) state = (step' >>= next') state := by
  change EStateM.bind step next state = EStateM.bind step' next' state
  unfold EStateM.bind
  rw [steps]
  cases result : step' state with
  | ok value after => exact same value after result
  | error error after => rfl

theorem eq_ok_of_toOption {result : Except ε α} {value : α}
    (found : result.toOption = some value) : result = .ok value := by
  cases result with
  | ok other =>
      cases found
      rfl
  | error error =>
      cases found

end ScriptLang
