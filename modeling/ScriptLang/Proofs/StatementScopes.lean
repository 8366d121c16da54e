import ScriptLang.Proofs.CallFrames
import ScriptLang.Session

/-!
What a statement leaves in the scope it stands in.

Checking and running open a block of their own for every branch, case and round, and close it
again however the block ends.  A statement therefore leaves the scope it stands in with the names
that it had, and a declaration that succeeds with one more; no scope further out changes.  Checking
and running agree in this, which keeps their scopes in step.

A check gives a scope only if it succeeds.  That it leaves all scopes as they were where it fails,
in the middle of a block too, is shown with the scopes in view, in `Proofs.ScopeChecks`.
-/

namespace ScriptLang

variable {φ : Type} {added : Option String}

/-- The frame binds the names that it bound, to the same variables, and the name that is added,
which it did not bind. -/
structure Frame.Gains (added : Option String) (before after : Frame Variable φ) : Prop where
  names : ∀ name, (after.findVariable? name).isSome ↔
    (before.findVariable? name).isSome ∨ added = some name
  fresh : ∀ name, added = some name → before.findVariable? name = none
  kept : ∀ name target, before.findVariable? name = some target →
    after.findVariable? name = some target
  functions : after.functionEntries = before.functionEntries
  returnType : after.returnType = before.returnType

/-- The innermost frame gains the name that is added, and the frames around it are the same. -/
inductive GainsInnermost (added : Option String) :
    List (Frame Variable φ) → List (Frame Variable φ) → Prop where
  | innermost {before after : Frame Variable φ} {outer : List (Frame Variable φ)}
      (gains : before.Gains added after) : GainsInnermost added (before :: outer) (after :: outer)

theorem Frame.Gains.nothing (frame : Frame Variable φ) : frame.Gains none frame where
  names _ := by simp
  fresh _ impossible := nomatch impossible
  kept _ _ bound := bound
  functions := rfl
  returnType := rfl

theorem Frame.gains_addVariable {frame : Frame Variable φ} {target : Variable}
    (free : frame.findVariable? target.name = none) :
    frame.Gains (some target.name) (frame.addVariable target.name target) where
  names name := by
    rw [Frame.findVariable?_addVariable]
    by_cases same : name = target.name
    · simp [same]
    · simp [same, Ne.symm same]
  fresh name isAdded := by
    cases isAdded
    exact free
  kept name bound found := by
    rw [Frame.findVariable?_addVariable, if_neg, found]
    rintro rfl
    rw [free] at found
    cases found
  functions := rfl
  returnType := rfl

namespace GainsInnermost

theorem nothing {frames : List (Frame Variable φ)} (nonempty : frames ≠ []) :
    GainsInnermost none frames frames := by
  cases frames with
  | nil => exact absurd rfl nonempty
  | cons frame outer => exact .innermost (.nothing frame)

theorem addVariable {frame : Frame Variable φ} {outer : List (Frame Variable φ)}
    {target : Variable} (free : frame.findVariable? target.name = none) :
    GainsInnermost (some target.name) (frame :: outer)
      (frame.addVariable target.name target :: outer) :=
  .innermost (Frame.gains_addVariable free)

end GainsInnermost

namespace Chain

variable {β : Type}

theorem frames_ne_nil (chain : Chain β φ) : chain.frames ≠ [] :=
  List.append_ne_nil_of_right_ne_nil _ (List.cons_ne_nil _ _)

theorem frames_of_defineVariable {chain after : Chain β φ} {name : String} {entry : β}
    {offset : Nat} (defined : chain.defineVariable name entry offset = .ok after) :
    ∃ frame outer, chain.frames = frame :: outer ∧ frame.findVariable? name = none ∧
      after.frames = frame.addVariable name entry :: outer := by
  obtain ⟨locals, globals⟩ := chain
  cases locals with
  | nil =>
      obtain ⟨free, rfl⟩ := defineVariable_ofGlobals_eq_ok.mp defined
      exact ⟨globals, [], rfl, free, rfl⟩
  | cons frame outer =>
      have definedInside : (push ⟨outer, globals⟩ frame).defineVariable name entry offset =
          .ok after := defined
      obtain ⟨free, rfl⟩ := defineVariable_push_eq_ok.mp definedInside
      exact ⟨frame, outer ++ [globals], rfl, free, rfl⟩

end Chain

/-! ### Checking -/

namespace Typing

theorem scope_of_checkStmt {scope after : StaticScope} {s decorated : Stmt}
    (checked : checkStmt scope s = .ok (decorated, after)) :
    s.declared? = none ∧ after = scope ∨
      ∃ target offset, s.declared? = some target.name ∧
        scope.defineVariable target.name target offset = .ok after := by
  cases s with
  | declaration name typeName value span target =>
      rw [checkStmt] at checked
      obtain ⟨⟨value', ty⟩, _, checked⟩ := bind_eq_ok.mp checked
      obtain ⟨wider, defined, checked⟩ := bind_eq_ok.mp checked
      cases checked
      exact .inr ⟨Variable.plain name ty true false, span.start, rfl, defined⟩
  | expression value span =>
      rw [checkStmt] at checked
      split at checked
      · obtain ⟨_, _, checked⟩ := bind_eq_ok.mp checked
        cases checked
        exact .inl ⟨rfl, rfl⟩
      · cases checked
  | assignment receiver value span =>
      rw [checkStmt] at checked
      split at checked
      · obtain ⟨_, _, checked⟩ := bind_eq_ok.mp checked
        obtain ⟨_, _, checked⟩ := bind_eq_ok.mp checked
        obtain ⟨_, _, checked⟩ := bind_eq_ok.mp checked
        cases checked
        exact .inl ⟨rfl, rfl⟩
      · cases checked
  | conditional condition thenBlock elseBlock span =>
      rw [checkStmt] at checked
      split at checked
      · cases checked
      · obtain ⟨_, _, checked⟩ := bind_eq_ok.mp checked
        obtain ⟨_, _, checked⟩ := bind_eq_ok.mp checked
        obtain ⟨_, _, checked⟩ := bind_eq_ok.mp checked
        cases checked
        exact .inl ⟨rfl, rfl⟩
  | switch condition cases span =>
      rw [checkStmt] at checked
      obtain ⟨_, _, checked⟩ := bind_eq_ok.mp checked
      obtain ⟨_, _, checked⟩ := bind_eq_ok.mp checked
      obtain ⟨_, _, checked⟩ := bind_eq_ok.mp checked
      cases checked
      exact .inl ⟨rfl, rfl⟩
  | loop condition body span =>
      rw [checkStmt] at checked
      obtain ⟨_, _, checked⟩ := bind_eq_ok.mp checked
      obtain ⟨_, _, checked⟩ := bind_eq_ok.mp checked
      cases checked
      exact .inl ⟨rfl, rfl⟩
  | result value span =>
      rw [checkStmt] at checked
      split at checked
      · cases checked
      · obtain ⟨_, _, checked⟩ := bind_eq_ok.mp checked
        cases checked
        exact .inl ⟨rfl, rfl⟩

theorem checkStmt_gains {scope after : StaticScope} {s decorated : Stmt}
    (checked : checkStmt scope s = .ok (decorated, after)) :
    GainsInnermost s.declared? scope.frames after.frames := by
  rcases scope_of_checkStmt checked with
    ⟨declaresNothing, rfl⟩ | ⟨target, offset, declares, defined⟩
  · rw [declaresNothing]
    exact .nothing after.frames_ne_nil
  · obtain ⟨frame, outer, framesEq, free, afterEq⟩ := Chain.frames_of_defineVariable defined
    rw [declares, framesEq, afterEq]
    exact .addVariable free

end Typing

/-! ### Running -/

theorem RunFrame.findVariable?_declared (frame : RunFrame) (name : String) :
    (RunFrame.declared frame).findVariable? name = (frame.findVariable? name).map Cell.binding := by
  unfold RunFrame.declared Frame.findVariable?
  dsimp only
  induction frame.variableEntries with
  | nil =>
      rfl
  | cons entry rest inductionHypothesis =>
      rw [List.map_cons, List.lookup_cons, List.lookup_cons, inductionHypothesis]
      cases name == entry.1 with
      | true => rfl
      | false => rfl

theorem State.declared_ne_nil (state : State) : state.declared ≠ [] :=
  fun isEmpty => state.scope.frames_ne_nil (List.map_eq_nil_iff.mp isEmpty)

namespace Eval

theorem defineVariable_gains (binding : Variable) (value : Value) (offset : Nat) (state : State) :
    Leads (defineVariable binding value offset) state
      (fun _ after => GainsInnermost (some binding.name) state.declared after.declared)
      fun _ after => after.declared = state.declared := by
  refine (leads_bind _ _ _ _ _).mpr ((leads_get _ _ _).mpr ?_)
  dsimp only
  cases defined : state.scope.defineVariable binding.name { binding := binding, value := value }
      offset with
  | error fault =>
      exact rfl
  | ok scope =>
      obtain ⟨frame, outer, framesEq, free, afterEq⟩ := Chain.frames_of_defineVariable defined
      change GainsInnermost _ (state.scope.frames.map _) (scope.frames.map _)
      rw [framesEq, afterEq]
      refine .addVariable ?_
      rw [RunFrame.findVariable?_declared, free]
      rfl

theorem stmt_gains (fuel count : Nat) (s : Stmt) (state : State) :
    Leads (stmt (invoke fuel) count s) state
      (fun _ after => GainsInnermost s.declared? state.declared after.declared)
      fun _ after => GainsInnermost none state.declared after.declared := by
  have calls := declaredLaws.invoke_respects fuel
  have unchanged : ∀ after : State, after.declared = state.declared →
      GainsInnermost none state.declared after.declared := by
    intro after same
    rw [same]
    exact .nothing state.declared_ne_nil
  cases declares : s.declared? with
  | none =>
      have steadily := declaredLaws.stmt_steady calls count s declares state
      exact steadily.imp (fun _ => unchanged) fun _ => unchanged
  | some declared =>
      cases s with
      | declaration name typeName value span target =>
          cases declares
          rw [stmt]
          refine (initialValue_respects calls value state).imp (fun _ _ same => same)
            (fun _ => unchanged) |>.bind fun result middle same => ?_
          have sameBefore : middle.declared = state.declared := same
          rw [← sameBefore] at unchanged ⊢
          exact (defineVariable_gains _ result span.start middle).imp (fun _ _ gains => gains)
            (fun _ => unchanged) |>.bind fun _ _ gains => gains
      | _ =>
          cases declares

end Eval

/-! ### Sessions -/

namespace Session

/-- Of all scopes of the session, the innermost one of checking gains the name that is added. -/
structure StaticGains (added : Option String) (before after : Session) : Prop where
  static : GainsInnermost added before.static.frames after.static.frames
  dynamic : after.dynamic = before.dynamic
  globals : after.globals = before.globals

/-- Of all scopes of the session, the innermost one of running gains the name that is added.  The
values of its variables may change. -/
structure DynamicGains (added : Option String) (before after : Session) : Prop where
  static : after.static = before.static
  dynamic : GainsInnermost added (before.dynamic.frames.map RunFrame.declared)
    (after.dynamic.frames.map RunFrame.declared)
  globals : after.globals = before.globals

/-- Checked or run, a statement that ends well leaves the scope it stands in with the name that it
declares, if it declares one, and one that fails leaves it with no name more. -/
theorem statement_scopes (session : Session) (s : Stmt) (fuel : Nat) :
    Leads (checking (Typing.checkStmt · s)) session
      (fun _ after => session.StaticGains s.declared? after)
      (fun _ after => session.StaticGains none after) ∧
    Leads (running (Eval.stmt (Eval.invoke fuel) fuel s)) session
      (fun _ after => session.DynamicGains s.declared? after)
      (fun _ after => session.DynamicGains none after) := by
  constructor
  · refine (leads_bind _ _ _ _ _).mpr ((leads_get _ _ _).mpr ?_)
    dsimp only
    cases checked : Typing.checkStmt session.static s with
    | error fault =>
        exact ⟨.nothing session.static.frames_ne_nil, rfl, rfl⟩
    | ok result =>
        exact ⟨Typing.checkStmt_gains checked, rfl, rfl⟩
  · have gains := Eval.stmt_gains fuel fuel s { scope := session.dynamic, sink := session.sink }
    unfold Leads at gains
    unfold Leads running
    cases ended : Eval.stmt (Eval.invoke fuel) fuel s
        { scope := session.dynamic, sink := session.sink } with
    | ok flow state =>
        rw [ended] at gains
        exact ⟨rfl, gains, rfl⟩
    | error stop state =>
        rw [ended] at gains
        exact ⟨rfl, gains, rfl⟩

end Session
end ScriptLang
