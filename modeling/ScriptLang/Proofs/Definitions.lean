import ScriptLang.Proofs.MomentPaths
import ScriptLang.Proofs.Outlines

/-!
Where globals are defined.

A run defines the globals one after the other, before anything else.  Each of them is evaluated,
and bound where its name was not bound before, so a run defines a global once and with one value.
-/

namespace ScriptLang

def GlobalDecl.binding (global : GlobalDecl) : Variable :=
  Variable.plain global.name (Eval.declaredTy global.target) global.mutable global.isList

namespace Eval

variable {fuel : Nat} {global : GlobalDecl} {state before middle after : State}

theorem defineGlobals_append {earlier : List GlobalDecl}
    (ended : defineGlobals fuel earlier state = .ok () middle) (rest : List GlobalDecl) :
    defineGlobals fuel (earlier ++ rest) state = defineGlobals fuel rest middle := by
  induction earlier generalizing state with
  | nil =>
      cases ended
      rfl
  | cons first earlier inductionHypothesis =>
      rw [defineGlobals] at ended
      obtain ⟨_, behind, defined, ended⟩ := step_bind_eq_ok.mp ended
      rw [List.cons_append, defineGlobals, step_bind_of_ok defined]
      exact inductionHypothesis ended

theorem scope_of_defineVariable {binding : Variable} {value : Value} {offset : Nat}
    (defined : defineVariable binding value offset state = .ok () after) :
    ∃ scope, state.scope.defineVariable binding.name { binding := binding, value := value }
      offset = .ok scope ∧ after = { state with scope := scope } := by
  obtain ⟨_, _, got, defined⟩ := step_bind_eq_ok.mp defined
  cases got
  obtain ⟨scope, _, bound, defined⟩ := step_bind_eq_ok.mp defined
  cases defined
  obtain ⟨found, rfl⟩ := ofExcept_eq_ok.mp bound
  exact ⟨_, found, rfl⟩

theorem defineGlobal_eq_ok (outside : before.scope.locals = [])
    (defined : defineGlobal fuel global before = .ok () after) :
    ∃ value middle, initialValue (invoke fuel) global.value before = .ok value middle ∧
      middle.scope.globals.findVariable? global.name = none ∧
      after.scope = .ofGlobals (middle.scope.globals.addVariable global.name
        { binding := global.binding, value := value }) := by
  unfold defineGlobal at defined
  obtain ⟨value, middle, evaluated, defined⟩ := step_bind_eq_ok.mp defined
  have calls := outlineLaws.invoke_respects fuel
  have same := (initialValue_respects calls global.value).of_ok evaluated
  have outsideBehind : middle.scope.locals = [] := by
    rw [← List.length_eq_zero_iff, same.wider.length_locals, outside]
    rfl
  obtain ⟨scope, boundAs, rfl⟩ := scope_of_defineVariable defined
  refine ⟨value, middle, evaluated, ?_⟩
  obtain ⟨⟨locals, globals⟩, sink⟩ := middle
  cases outsideBehind
  exact Chain.defineVariable_ofGlobals_eq_ok.mp boundAs

end Eval

section Definitions

variable {source : Source} {fuel : Nat} {sink : Sink} {global : GlobalDecl}
  {before after before' after' : State} {value : Value} {moment : Moment}

/-- A run comes to the global in the one state and leaves it, defined, in the other. -/
structure Source.DefinesAt (source : Source) (fuel : Nat) (sink : Sink) (global : GlobalDecl)
    (before after : State) : Prop where
  placed : ∃ earlier rest, source.globals = earlier ++ global :: rest ∧
    Eval.defineGlobals fuel earlier (.initial sink) = .ok () before
  defined : Eval.defineGlobal fuel global before = .ok () after

/-- A run defines the global with that value. -/
def Source.Defines (source : Source) (fuel : Nat) (sink : Sink) (global : GlobalDecl)
    (value : Value) : Prop :=
  ∃ before middle after, source.DefinesAt fuel sink global before after ∧
    Eval.initialValue (Eval.invoke fuel) global.value before = .ok value middle

def GlobalDecl.cell (global : GlobalDecl) (value : Value) : Cell :=
  { binding := global.binding, value := value }

theorem Source.DefinesAt.outside (defines : source.DefinesAt fuel sink global before after) :
    before.scope.locals = [] := by
  obtain ⟨earlier, _, _, ended⟩ := defines.placed
  have widens := (Eval.outlineLaws.defineGlobals_respects fuel earlier).of_ok ended
  rw [← List.length_eq_zero_iff, widens.length_locals]
  rfl

theorem Source.DefinesAt.bound (defines : source.DefinesAt fuel sink global before after) :
    ∃ value middle, Eval.initialValue (Eval.invoke fuel) global.value before = .ok value middle ∧
      middle.scope.globals.findVariable? global.name = none ∧
      after.scope.globals.findVariable? global.name = some (global.cell value) := by
  obtain ⟨value, middle, evaluated, unbound, scopeEq⟩ :=
    Eval.defineGlobal_eq_ok defines.outside defines.defined
  refine ⟨value, middle, evaluated, unbound, ?_⟩
  rw [scopeEq]
  exact (Frame.findVariable?_addVariable _ _ _ _).trans (if_pos rfl)

theorem Source.DefinesAt.unbound (defines : source.DefinesAt fuel sink global before after) :
    RunFrame.outline before.scope.globals global.name = none := by
  obtain ⟨value, middle, evaluated, unbound, _⟩ := defines.bound
  have calls := Eval.outlineLaws.invoke_respects fuel
  have same := (Eval.initialValue_respects calls global.value).of_ok evaluated
  have bound := same.wider.globalsGrow global.name
  rw [show RunFrame.outline middle.scope.globals global.name = none by
    unfold RunFrame.outline; rw [unbound]; rfl] at bound
  rcases bound with same | ⟨missing, _⟩
  · exact same.symm
  · exact missing

theorem Source.DefinesAt.not_again (defines : source.DefinesAt fuel sink global before after)
    {between : List GlobalDecl}
    (ended : Eval.defineGlobals fuel (global :: between) before = .ok () before')
    (again : source.DefinesAt fuel sink global before' after') : False := by
  obtain ⟨value, middle, _, _, bound⟩ := defines.bound
  rw [Eval.defineGlobals] at ended
  obtain ⟨_, behind, defined, ended⟩ := step_bind_eq_ok.mp ended
  rw [defines.defined] at defined
  cases defined
  have widens := (Eval.outlineLaws.defineGlobals_respects fuel between).of_ok ended
  have boundHere : RunFrame.outline after.scope.globals global.name = some global.binding := by
    unfold RunFrame.outline
    rw [bound]
    rfl
  have boundThere := widens.globalsGrow.of_bound boundHere
  rw [again.unbound] at boundThere
  cases boundThere

/-- A run defines a global once. -/
theorem Source.DefinesAt.unique (first : source.DefinesAt fuel sink global before after)
    (second : source.DefinesAt fuel sink global before' after') :
    before = before' ∧ after = after' := by
  have sameBefore : before = before' := by
    obtain ⟨earlier, rest, split, ended⟩ := first.placed
    obtain ⟨earlier', rest', split', ended'⟩ := second.placed
    rw [split] at split'
    rcases List.append_eq_append_iff.mp split' with ⟨between, rfl, tailEq⟩ | ⟨between, rfl, tailEq⟩
    · cases between with
      | nil =>
          rw [List.append_nil, ended] at ended'
          cases ended'
          rfl
      | cons head between =>
          cases (List.cons.inj tailEq).1
          rw [Eval.defineGlobals_append ended] at ended'
          exact (first.not_again ended' second).elim
    · cases between with
      | nil =>
          rw [List.append_nil, ended'] at ended
          cases ended
          rfl
      | cons head between =>
          cases (List.cons.inj tailEq).1
          rw [Eval.defineGlobals_append ended'] at ended
          exact (second.not_again ended first).elim
  subst sameBefore
  have sameAfter := first.defined.symm.trans second.defined
  cases sameAfter
  exact ⟨rfl, rfl⟩

theorem Source.Defines.bound (defines : source.Defines fuel sink global value) :
    ∃ before after, source.DefinesAt fuel sink global before after ∧
      after.scope.globals.findVariable? global.name = some (global.cell value) := by
  obtain ⟨before, middle, after, definesAt, evaluated⟩ := defines
  obtain ⟨found, _, evaluatedTo, _, bound⟩ := definesAt.bound
  rw [evaluated] at evaluatedTo
  cases evaluatedTo
  exact ⟨before, after, definesAt, bound⟩

/-- Where definitions are left to do, the globals before them have been defined. -/
def Source.Loads (source : Source) (fuel : Nat) (sink : Sink) (moment : Moment) : Prop :=
  match moment.task with
  | .source _ => moment = source.start fuel sink
  | .globals rest => moment.fuel = fuel ∧ ∃ earlier, source.globals = earlier ++ rest ∧
      Eval.defineGlobals fuel earlier (.initial sink) = .ok () moment.state
  | _ => True

theorem Source.Reaches.loads (reaches : source.Reaches fuel sink moment) :
    source.Loads fuel sink moment := by
  induction reaches with
  | refl =>
      exact rfl
  | @tail outer inner _ enters inductionHypothesis =>
      cases enters with
      | body =>
          exact trivial
      | part part =>
          obtain ⟨task, outerFuel, suspended, state⟩ := outer
          cases part with
          | globals =>
              cases inductionHypothesis
              exact ⟨rfl, [], rfl, rfl⟩
          | @nextGlobals first rest _ _ bound =>
              obtain ⟨rfl, earlier, split, ended⟩ := inductionHypothesis
              refine ⟨rfl, earlier ++ [first], ?_, ?_⟩
              · rw [split, List.append_assoc, List.singleton_append]
              · rw [Eval.defineGlobals_append ended, Eval.defineGlobals, step_bind_of_ok bound]
                rfl
          | _ =>
              exact trivial

end Definitions

end ScriptLang
