import ScriptLang.Proofs.FrameLaws
import ScriptLang.Proofs.MomentPaths

/-!
What a call leaves of the frames that were there before it.

The body of a function sees its own blocks and the globals.  Whatever is evaluated there, further
calls included, it reaches none of the frames of its callers, and of the globals it reaches the
values alone: a declaration binds its name in the innermost block, which is one of the body.

Here the frames of the caller are kept aside while the body runs.  That the body could not have
changed them where they lie, beside its own scope, is shown in `Proofs.ScopeRuns`.
-/

namespace ScriptLang

/-- What a frame binds: all of it but the values of its variables. -/
def RunFrame.declared (frame : RunFrame) : Frame Variable Function :=
  { variableEntries := frame.variableEntries.map fun (name, cell) => (name, cell.binding)
    functionEntries := frame.functionEntries
    returnType := frame.returnType }

def State.declared (state : State) : List (Frame Variable Function) :=
  state.scope.frames.map RunFrame.declared

def State.SameDeclared (before after : State) : Prop :=
  after.declared = before.declared

/-- No frame but the innermost one binds more or less. -/
structure State.SameOuterDeclared (before after : State) : Prop where
  outer : after.declared.tail = before.declared.tail
  depth : after.declared.length = before.declared.length

/-! ### Steps -/

theorem RunFrame.declared_updateVariable (name : String) (value : Value) (frame : RunFrame) :
    RunFrame.declared (frame.updateVariable name fun cell => { cell with value := value }) =
      RunFrame.declared frame := by
  unfold declared Frame.updateVariable
  rw [List.map_map]
  have sameBinding : ∀ entry ∈ frame.variableEntries,
      ((fun (bound, cell) => (bound, cell.binding)) ∘ fun entry : String × Cell =>
          if entry.1 = name then (entry.1, { entry.2 with value := value }) else entry) entry =
        (entry.1, entry.2.binding) := by
    intro entry _
    by_cases changed : entry.1 = name
    · simp [changed]
    · simp [changed]
  rw [List.map_congr_left sameBinding]

namespace State

variable {before after state inner : State} {frame : RunFrame}

instance : IsPreorder State SameDeclared where
  refl _ := rfl
  trans _ _ _ first second := second.trans first

instance : IsPreorder State SameOuterDeclared where
  refl _ := ⟨rfl, rfl⟩
  trans _ _ _ first second :=
    ⟨second.outer.trans first.outer, second.depth.trans first.depth⟩

theorem SameDeclared.sameOuter (same : before.SameDeclared after) :
    before.SameOuterDeclared after :=
  ⟨congrArg List.tail same, congrArg List.length same⟩

theorem withInnermost_sameOuterDeclared (state : State) (frame : RunFrame) :
    state.SameOuterDeclared { state with scope := state.scope.withInnermost frame } := by
  constructor
  · unfold declared
    rw [← List.map_tail, ← List.map_tail, Chain.tail_frames_withInnermost]
  · unfold declared
    rw [List.length_map, List.length_map, Chain.length_frames_withInnermost]

theorem closed_sameDeclared (same : state.opened.SameOuterDeclared inner) :
    state.SameDeclared
      { inner with scope := { inner.scope with locals := inner.scope.locals.tail } } := by
  obtain ⟨⟨locals, globals⟩, sink⟩ := inner
  cases locals with
  | nil =>
      -- the frame of the block is open still, so that there are two frames at least
      have depth : 1 = (state.scope.frames.map RunFrame.declared).length + 1 := same.depth
      simp [Chain.frames] at depth
  | cons frame outer =>
      exact same.outer

theorem SameOuterDeclared.globals (same : before.SameOuterDeclared after)
    (inside : before.scope.locals ≠ []) :
    after.scope.locals ≠ [] ∧
      RunFrame.declared after.scope.globals = RunFrame.declared before.scope.globals := by
  obtain ⟨⟨locals, globals⟩, sink⟩ := before
  obtain ⟨⟨localsAfter, globalsAfter⟩, sinkAfter⟩ := after
  cases locals with
  | nil =>
      exact absurd rfl inside
  | cons frame outer =>
      cases localsAfter with
      | nil =>
          have depth : 1 = ((frame :: outer ++ [globals]).map RunFrame.declared).length :=
            same.depth
          simp at depth
      | cons frameAfter outerAfter =>
          have outerSame : (outerAfter ++ [globalsAfter]).map RunFrame.declared =
              (outer ++ [globals]).map RunFrame.declared := same.outer
          rw [List.map_append, List.map_append] at outerSame
          exact ⟨List.cons_ne_nil _ _, List.singleton_inj.mp (List.append_inj' outerSame rfl).2⟩

theorem left_sameDeclared (same : (state.entered frame).SameOuterDeclared inner) :
    state.SameDeclared
      { inner with scope := { inner.scope with locals := state.scope.locals } } := by
  have sameGlobals : RunFrame.declared inner.scope.globals =
      RunFrame.declared state.scope.globals := (same.globals (List.cons_ne_nil _ _)).2
  unfold SameDeclared declared Chain.frames
  rw [List.map_append, List.map_append, List.map_singleton, List.map_singleton, sameGlobals]

end State

namespace Eval

/-- Only declarations bind, and those only in the innermost frame. -/
theorem declaredLaws : FrameLaws State.SameDeclared State.SameOuterDeclared where
  steadyPreorder := inferInstance
  widePreorder := inferInstance
  widens := fun _ _ => State.SameDeclared.sameOuter
  prints := fun _ _ => rfl
  assigns := fun _ => assign_respects fun name value state =>
    Chain.map_frames_updateVariable (RunFrame.declared_updateVariable name value) state.scope
  definesVariable := fun binding value offset =>
    defineVariable_respects binding value offset fun state _ =>
      state.withInnermost_sameOuterDeclared _
  definesFunction := fun function offset =>
    defineFunction_respects function offset fun state _ =>
      state.withInnermost_sameOuterDeclared _
  closesBlock := fun _ spares => spares.inBlock fun _ _ => State.closed_sameDeclared
  closesCall := fun _ _ _ _ spares => spares.inCall fun _ _ => State.left_sameDeclared

end Eval

/-! ### Calls -/

/-- The frames of all blocks are the same, with the same values. -/
def State.SameLocals (before after : State) : Prop :=
  after.scope.locals = before.scope.locals

/-- The frames of all blocks are the same, with the same values, and the globals bind the same
variables and functions. -/
structure State.SparesFrames (before after : State) : Prop where
  locals : before.SameLocals after
  globals : RunFrame.declared after.scope.globals = RunFrame.declared before.scope.globals

/-- Inside a block or a call, nothing is declared globally. -/
def State.SettlesGlobals (before after : State) : Prop :=
  before.scope.locals ≠ [] → after.scope.locals ≠ [] ∧
    RunFrame.declared after.scope.globals = RunFrame.declared before.scope.globals

namespace State

variable {before after : State}

instance : IsPreorder State SameLocals where
  refl _ := rfl
  trans _ _ _ first second := second.trans first

instance : IsPreorder State SettlesGlobals where
  refl _ inside := ⟨inside, rfl⟩
  trans _ _ _ first second inside := by
    obtain ⟨insideNext, same⟩ := first inside
    obtain ⟨insideLast, sameLast⟩ := second insideNext
    exact ⟨insideLast, sameLast.trans same⟩

theorem SameDeclared.sparesFrames (same : before.SameDeclared after)
    (sameLocals : before.SameLocals after) : before.SparesFrames after := by
  refine ⟨sameLocals, ?_⟩
  unfold SameDeclared declared Chain.frames at same
  rw [List.map_append, List.map_append] at same
  exact List.singleton_inj.mp (List.append_inj' same rfl).2

end State

theorem settlesGlobals_lasts : LastingLaws State.SameOuterDeclared State.SettlesGlobals where
  preorder := inferInstance
  lasts := fun _ _ => State.SameOuterDeclared.globals
  opens := fun _ _ => ⟨List.cons_ne_nil _ _, rfl⟩
  enters := fun _ _ _ _ _ => ⟨List.cons_ne_nil _ _, rfl⟩

namespace Eval

/-- The caller's blocks are put back, however the call ends. -/
theorem invoke_sameLocals (fuel : Nat) : CallsRespect State.SameLocals (invoke fuel) := by
  intro function arguments offset
  cases fuel with
  | zero =>
      exact fun state => refl_of State.SameLocals state
  | succ fuel =>
      rw [invoke]
      split
      · intro state
        unfold Leads
        dsimp only
        cases Builtin.apply _ arguments state.sink with
        | mk result sink =>
            cases result with
            | ok value => rfl
            | error cause => rfl
      · refine (Respects.ofExcept _).bind fun frame => ?_
        exact (Respects.inCall (.trivial _) fun _ _ _ => rfl).bind fun _ => .pure _
      · exact .fail _ _

theorem invoke_sparesFrames (fuel : Nat) : CallsRespect State.SparesFrames (invoke fuel) :=
  fun function arguments offset =>
    (declaredLaws.invoke_respects fuel function arguments offset).and
      (invoke_sameLocals fuel function arguments offset) |>.imp
        fun _ _ both => both.1.sparesFrames both.2

end Eval

namespace Moment

variable {moment inner : Moment}

theorem Enters.suspended (enters : moment.Enters inner) :
    moment.suspended <:+ inner.suspended := by
  cases enters with
  | part part => exact List.suffix_refl _
  | body bodyEq bound => exact List.suffix_append _ _

theorem suspended_of_reaches (reaches : Relation.ReflTransGen Enters moment inner) :
    moment.suspended <:+ inner.suspended := by
  induction reaches with
  | refl => exact List.suffix_refl _
  | tail _ enters inductionHypothesis => exact inductionHypothesis.trans enters.suspended

/-- While the inner moment goes on, inside blocks of its own, the blocks of the outer one wait
with those that waited there, and the globals bind what they bound. -/
structure Spares (moment inner : Moment) : Prop where
  inside : inner.state.scope.locals ≠ []
  waiting : moment.state.scope.locals ++ moment.suspended <:+ inner.suspended
  globals : ∀ state, state = inner.state ∨ state = inner.last →
    RunFrame.declared state.scope.globals = RunFrame.declared moment.state.scope.globals

/-- From a call on, the frames that were there before are reached neither by the body nor by
anything that it calls. -/
theorem spares_of_reaches {function : Function} {arguments : List Value} {offset : Nat}
    (calls : moment.task = .call function arguments offset)
    (reaches : Relation.ReflTransGen Enters moment inner) :
    inner = moment ∨ moment.Spares inner := by
  rcases reaches.cases_head with rfl | ⟨first, enters, behind⟩
  · exact .inl rfl
  · cases enters with
    | part part =>
        rw [calls] at part
        cases part
    | body bodyEq bound =>
        have settled := settlesGlobals_lasts.reached Eval.declaredLaws behind
        obtain ⟨inside, sameGlobals⟩ := settled (List.cons_ne_nil _ _)
        refine .inr ⟨inside, suspended_of_reaches behind, ?_⟩
        rintro state (rfl | rfl)
        · exact sameGlobals
        · have ends := settlesGlobals_lasts.last Eval.declaredLaws inner inside
          exact ends.2.trans sameGlobals

end Moment

/-- A call leaves the blocks that were open as they were, and the globals too but for their
values; meanwhile those blocks wait. -/
theorem call_sparesFrames {moment : Moment} {function : Function} {arguments : List Value}
    {offset : Nat} (calls : moment.task = .call function arguments offset) :
    moment.state.SparesFrames moment.last ∧
      ∀ inner, Relation.ReflTransGen Moment.Enters moment inner →
        inner = moment ∨ moment.Spares inner := by
  constructor
  · apply Moment.last_of_respects
    rw [calls]
    intro state
    have spares := Eval.invoke_sparesFrames moment.fuel function arguments offset state
    exact (leads_bind _ _ _ _ _).mpr spares
  · intro inner reaches
    exact Moment.spares_of_reaches calls reaches

/-- A function that changes a variable with the name of one of its caller, and a global. -/
def shadowedCallerText : String :=
  "VAR g: Integer = 0; "
    ++ "FUN f(n: Integer): Integer DO LET k = 5; k = k + n; n = 0; g = k; RETURN k; END "
    ++ "FUN main(): Integer DO LET k = 1; LET n = 2; RETURN f(n) + k; END"

def State.display? (state : State) (name : String) : Option String :=
  (state.scope.findVariable? name).map fun cell => cell.value.display

def Moment.call? (moment : Moment) : Option (Function × List Value × Nat) :=
  match moment.task with
  | .call function arguments offset => some (function, arguments, offset)
  | _ => none

theorem Moment.task_of_call? {moment : Moment} {function : Function} {arguments : List Value}
    {offset : Nat} (found : moment.call? = some (function, arguments, offset)) :
    moment.task = .call function arguments offset := by
  unfold call? at found
  split at found
  · rename_i taskEq
    cases found
    exact taskEq
  · cases found

/-- The call changes the global, while the variables of the caller keep their values. -/
theorem call_sparesFrames_shadowed :
    ∃ source moment inner function arguments offset,
      Program.check shadowedCallerText "" = .ok source ∧ source.Reaches 9 .unlimited moment ∧
      moment.task = .call function arguments offset ∧
      Relation.ReflTransGen Moment.Enters moment inner ∧
      ["g", "k", "n"].map moment.state.display? = [some "0", some "1", some "2"] ∧
      ["g", "k", "n"].map inner.state.display? = [some "0", some "7", some "0"] ∧
      ["g", "k", "n"].map moment.last.display? = [some "7", some "1", some "2"] ∧
      moment.state.SparesFrames moment.last ∧ moment.Spares inner := by
  have computed : ((Program.check shadowedCallerText "").toOption.bind fun source =>
      ((source.start 9 .unlimited).follow? [2, 0, 1, 1, 0, 0, 0, 1]).bind fun moment =>
        (moment.follow? [0, 1, 1, 1, 0]).bind fun inner =>
          moment.call?.map fun _ =>
            (["g", "k", "n"].map moment.state.display?, ["g", "k", "n"].map inner.state.display?,
              ["g", "k", "n"].map moment.last.display?)) =
      some ([some "0", some "1", some "2"], [some "0", some "7", some "0"],
        [some "7", some "1", some "2"]) := by
    decide +kernel
  obtain ⟨source, found, computed⟩ := Option.bind_eq_some_iff.mp computed
  obtain ⟨moment, followed, computed⟩ := Option.bind_eq_some_iff.mp computed
  obtain ⟨inner, followedOn, computed⟩ := Option.bind_eq_some_iff.mp computed
  obtain ⟨⟨function, arguments, offset⟩, calls, seen⟩ := Option.map_eq_some_iff.mp computed
  obtain ⟨before, seen⟩ := Prod.mk.inj seen
  obtain ⟨meanwhile, after⟩ := Prod.mk.inj seen
  have taskEq := Moment.task_of_call? calls
  have reaches := Source.reaches_iff.mpr ⟨_, followed⟩
  have entered := Moment.reflTransGen_iff_follow?.mpr ⟨_, followedOn⟩
  obtain ⟨spares, sparesInside⟩ := call_sparesFrames taskEq
  have different : inner ≠ moment := by
    rintro rfl
    rw [before] at meanwhile
    revert meanwhile
    decide
  have sparesInner := (sparesInside inner entered).resolve_left different
  exact ⟨source, moment, inner, function, arguments, offset, eq_ok_of_toOption found, reaches,
    taskEq, entered, before, meanwhile, after, spares, sparesInner⟩

end ScriptLang
