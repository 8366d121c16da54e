import ScriptLang.Proofs.Expressions

/-!
Executing typed statements, and calling functions with typed bodies.

A statement changes the innermost frame alone, and the static frame behind it is known.  A block
that returns early leaves some frame of its own, which is dropped when the block is left.
-/

namespace ScriptLang

/-- A value that a statement returns is allowed for the type that its function returns. -/
def Flow.Holds (D : Discipline) (returns : Ty) : Flow → Prop
  | .normal => True
  | .returned value => D.holds returns value

/-- The step keeps all scopes but the innermost one in agreement; the innermost frame agrees with
some frame afterwards. -/
def SoundInside {α : Type} (D : Discipline) (outer : StaticScope) (step : Eval α) (state : State)
    (good : α → Prop) : Prop :=
  Leads step state
    (fun value after => good value ∧ ∃ frame, StateTyped D (outer.push frame) after)
    fun stop after => D.Allows stop ∧ ∃ frame, StateTyped D (outer.push frame) after

/-- The statement keeps the scopes in agreement and leaves the static frame `next`. -/
def Executes (D : Discipline) (returns : Ty) (outer : StaticScope) (frame next : StaticFrame)
    (step : Eval Flow) (state : State) : Prop :=
  Leads step state
    (fun flow after => flow.Holds D returns ∧ StateTyped D (outer.push next) after)
    fun stop after => D.Allows stop ∧ StateTyped D (outer.push frame) after

variable {D : Discipline} {returns : Ty} {outer scope : StaticScope} {frame : StaticFrame}
  {state : State}

/-! ### The innermost frame -/

theorem ScopeAgrees.innermost {globals : StaticFrame} {run : RunScope}
    (agrees : ScopeAgrees D globals (outer.push frame) run) :
    ∃ runFrame outerRun, run = Chain.push outerRun runFrame ∧
      FrameAgrees D globals frame runFrame ∧ ScopeAgrees D globals outer outerRun := by
  obtain ⟨locals, globalsAgree⟩ := agrees
  obtain ⟨runLocals, runGlobals⟩ := run
  cases locals with
  | @cons _ runFrame _ outerLocals frameAgrees outerAgrees =>
      exact ⟨runFrame, ⟨outerLocals, runGlobals⟩, rfl, frameAgrees, outerAgrees, globalsAgree⟩

namespace Eval

theorem inBlock_sound {α : Type} {step : Eval α} {good : α → Prop}
    (stateTyped : StateTyped D scope state)
    (inside : ∀ inner, StateTyped D (scope.push .empty) inner →
      SoundInside D scope step inner good) :
    Sound D scope (inBlock step) state good := by
  have opened : StateTyped D (scope.push .empty) { state with scope := state.scope.child } :=
    stateTyped.push (.ofEmpty scope.globals none none)
  have led := inside _ opened
  unfold SoundInside Leads at led
  unfold Sound Leads inBlock
  cases ended : step { state with scope := state.scope.child } with
  | ok value inner =>
      rw [ended] at led
      obtain ⟨holds, last, innerTyped⟩ := led
      obtain ⟨runFrame, outerRun, scopeEq, _, outerAgrees⟩ := innerTyped.innermost
      refine ⟨holds, ?_⟩
      unfold StateTyped
      dsimp only
      rw [scopeEq]
      exact outerAgrees
  | error stop inner =>
      rw [ended] at led
      obtain ⟨allowed, last, innerTyped⟩ := led
      obtain ⟨runFrame, outerRun, scopeEq, _, outerAgrees⟩ := innerTyped.innermost
      refine ⟨allowed, ?_⟩
      unfold StateTyped
      dsimp only
      rw [scopeEq]
      exact outerAgrees

theorem defineVariable_sound {target : Variable} {value : Value} (offset : Nat)
    (unbound : frame.findVariable? target.name = none) (named : D.names target.ty)
    (keeps : D.Keeps target value) (stateTyped : StateTyped D (outer.push frame) state) :
    Leads (defineVariable target value offset) state
      (fun _ after => StateTyped D (outer.push (frame.addVariable target.name target)) after)
      fun _ _ => False := by
  obtain ⟨runFrame, outerRun, scopeEq, frameAgrees, outerAgrees⟩ := stateTyped.innermost
  let cell : Cell := { binding := target, value := value }
  have defined : state.scope.defineVariable target.name cell offset =
      .ok (outerRun.push (runFrame.addVariable target.name cell)) := by
    rw [scopeEq]
    exact Chain.defineVariable_push_eq_ok.mpr ⟨frameAgrees.unbound unbound, rfl⟩
  unfold defineVariable
  rw [leads_bind, leads_get, leads_bind, defined]
  exact outerAgrees.push (frameAgrees.addVariable target.name ⟨rfl, named, keeps⟩)

theorem store_sound {name : String} {target : Variable} {value : Value}
    (bound : scope.findVariable? name = some target) (keeps : D.Keeps target value)
    (stateTyped : StateTyped D scope state) :
    Sound D scope (store name value) state fun _ => True :=
  ⟨trivial, ScopeAgrees.store stateTyped bound keeps⟩

theorem assignable_sound {name : String} {target : Variable} (nameOffset offset : Nat)
    (bound : scope.findVariable? name = some target) (isMutable : target.mutable = true)
    (stateTyped : StateTyped D scope state) :
    Sound D scope (assignable name nameOffset offset) state fun _ => True := by
  apply Sound.bind (lookupVariable_sound nameOffset bound stateTyped)
  intro cell after cellAgrees afterTyped
  rw [cellAgrees.same, if_pos isMutable]
  exact .pure trivial afterTyped

theorem storeElement_sound {name : String} {target : Variable} {value : Value} (index : Int)
    (offset : Nat) (bound : scope.findVariable? name = some target)
    (isList : target.isList = true) (holds : D.holds target.ty value)
    (stateTyped : StateTyped D scope state) :
    Sound D scope (storeElement name index value offset) state fun _ => True := by
  apply Sound.bind (lookupVariable_sound offset bound stateTyped)
  intro cell after cellAgrees afterTyped
  obtain ⟨elements, valueEq, sized, allHold⟩ := cellAgrees.keeps.list isList
  rw [valueEq]
  dsimp only
  split
  · apply store_sound bound _ afterTyped
    constructor
    · intro isSingle
      rw [isList] at isSingle
      cases isSingle
    · intro _
      refine ⟨_, rfl, ?_, ?_⟩
      · rw [List.length_set]
        exact sized
      · intro element member
        rcases List.mem_or_eq_of_mem_set member with old | rfl
        · exact allHold element old
        · exact holds
  · exact .fail (D.outOfRange _ _) afterTyped

variable {call : Invocation}

theorem initialValue_sound (calls : CallsSound D scope.globals call) {value : Option Expr}
    {ty : Ty} (typed : BindingTyped D scope value ty) (stateTyped : StateTyped D scope state) :
    Sound D scope (initialValue call value) state (D.holds ty) := by
  cases typed with
  | inferred typed =>
      exact expr_sound calls _ typed stateTyped
  | given named typed accepts =>
      exact (expr_sound calls _ typed stateTyped).imp fun value holds =>
        accepts.holds holds
  | blank named blank =>
      exact .pure (D.holds_nil blank) stateTyped

theorem assignWhole_sound (calls : CallsSound D scope.globals call) {name : String}
    {place : Span} {decoration : Option Ty} {found : Option Variable} {target : Variable}
    {value : Expr} {received : Ty} (offset : Nat)
    (bound : scope.findVariable? name = some target) (isSingle : target.isList = false)
    (isMutable : target.mutable = true)
    (typed : ExprTyped D scope (some target.ty) value received)
    (accepts : D.Accepts target.ty received) (stateTyped : StateTyped D scope state) :
    Sound D scope (assign call (.access name place decoration found) value offset) state
      fun _ => True := by
  unfold assign
  apply Sound.bind (assignable_sound place.start offset bound isMutable stateTyped)
  intro _ after _ afterTyped
  apply Sound.bind (expr_sound calls value typed afterTyped)
  intro value after holds afterTyped
  apply store_sound bound _ afterTyped
  constructor
  · intro _
    exact accepts.holds holds
  · intro isList
    rw [isSingle] at isList
    cases isList

theorem assignElement_sound (calls : CallsSound D scope.globals call) {name : String}
    {index : Expr} {place : Span} {decoration : Option Ty} {found : Option Variable}
    {target : Variable} {value : Expr} {received : Ty} (offset : Nat)
    (indexTyped : ExprTyped D scope none index .integer)
    (bound : scope.findVariable? name = some target) (isList : target.isList = true)
    (isMutable : target.mutable = true)
    (typed : ExprTyped D scope (some target.ty) value received)
    (accepts : D.Accepts target.ty received) (stateTyped : StateTyped D scope state) :
    Sound D scope (assign call (.element name index place decoration found) value offset) state
      fun _ => True := by
  unfold assign
  apply Sound.bind (assignable_sound place.start offset bound isMutable stateTyped)
  intro _ after _ afterTyped
  apply Sound.bind (index_sound calls indexTyped afterTyped)
  intro position after _ afterTyped
  apply Sound.bind (expr_sound calls value typed afterTyped)
  intro value after holds afterTyped
  exact storeElement_sound position place.start bound isList
    (accepts.holds holds) afterTyped

end Eval

theorem BindingTyped.names {value : Option Expr} {ty : Ty} (typed : BindingTyped D scope value ty)
    (stateTyped : StateTyped D scope state) : D.names ty := by
  cases typed with
  | inferred typed =>
      exact ExprTyped.names _ typed (by decide) stateTyped
  | given named typed accepts =>
      exact named
  | blank named blank =>
      exact named

namespace Eval

variable {call : Invocation}

theorem rounds_sound {condition : Eval Bool} {body : Eval Flow}
    (conditionSound : ∀ state, StateTyped D scope state →
      Sound D scope condition state fun _ => True)
    (bodySound : ∀ state, StateTyped D scope state →
      Sound D scope body state (Flow.Holds D returns))
    (fuel : Nat) (stateTyped : StateTyped D scope state) :
    Sound D scope (rounds fuel condition body) state (Flow.Holds D returns) := by
  induction fuel generalizing state with
  | zero =>
      exact ⟨trivial, stateTyped⟩
  | succ fuel inductionHypothesis =>
      rw [rounds_succ]
      apply Sound.bind (conditionSound state stateTyped)
      intro truth after _ afterTyped
      cases truth with
      | false =>
          exact .pure trivial afterTyped
      | true =>
          apply Sound.bind (bodySound after afterTyped)
          intro flow last holds lastTyped
          cases flow with
          | returned value =>
              exact .pure holds lastTyped
          | normal =>
              exact inductionHypothesis lastTyped

theorem matchesCase_sound (calls : CallsSound D scope.globals call) {value : Expr} {ty : Ty}
    (subject : Value) (typed : ExprTyped D scope none value ty)
    (stateTyped : StateTyped D scope state) :
    Sound D scope (matchesCase call subject (some value)) state fun _ => True := by
  apply Sound.bind (expr_sound calls value typed stateTyped)
  intro found after _ afterTyped
  exact .pure trivial afterTyped

mutual

theorem stmt_sound {outer : StaticScope} (calls : CallsSound D outer.globals call) (fuel : Nat)
    (s : Stmt) {frame next : StaticFrame} {state : State}
    (typed : StmtTyped D returns outer frame s next)
    (stateTyped : StateTyped D (outer.push frame) state) :
    Executes D returns outer frame next (stmt call fuel s) state := by
  have calls : CallsSound D (outer.push frame).globals call := calls
  cases s with
  | expression value span =>
      cases typed with
      | expression typed =>
          rw [stmt]
          apply Sound.bind (expr_sound calls value typed stateTyped)
          intro _ after _ afterTyped
          exact .pure trivial afterTyped
  | declaration name typeName value span target =>
      cases typed with
      | declaration typed unbound =>
          rw [stmt]
          apply Leads.bind (initialValue_sound calls typed stateTyped)
          intro value after holds
          have named := typed.names stateTyped
          apply Leads.bind ((defineVariable_sound span.start unbound named (.ofSingle holds.1)
            holds.2).imp (fun _ _ holds => holds) fun _ _ impossible => impossible.elim)
          intro _ last lastTyped
          exact ⟨trivial, lastTyped⟩
  | assignment receiver value span =>
      rw [stmt]
      cases typed with
      | assignWhole bound isSingle isMutable typed accepts =>
          apply Sound.bind (assignWhole_sound calls span.start bound isSingle isMutable typed
            accepts stateTyped)
          intro _ after _ afterTyped
          exact .pure trivial afterTyped
      | assignElement indexTyped bound isList isMutable typed accepts =>
          apply Sound.bind (assignElement_sound calls span.start indexTyped bound isList isMutable
            typed accepts stateTyped)
          intro _ after _ afterTyped
          exact .pure trivial afterTyped
  | conditional condition thenBlock elseBlock span =>
      cases typed with
      | conditional conditionTyped thenTyped elseTyped =>
          rw [stmt]
          apply Sound.bind (condition_sound calls conditionTyped stateTyped)
          intro truth after _ afterTyped
          cases truth with
          | true =>
              apply inBlock_sound afterTyped
              intro inner innerTyped
              exact block_sound calls fuel thenBlock thenTyped innerTyped
          | false =>
              apply inBlock_sound afterTyped
              intro inner innerTyped
              exact block_sound calls fuel elseBlock elseTyped innerTyped
  | switch subject cs span =>
      cases typed with
      | switch subjectTyped casesTyped =>
          rw [stmt]
          apply Sound.bind (expr_sound calls subject subjectTyped stateTyped)
          intro value after _ afterTyped
          exact firstCase_sound calls fuel value cs casesTyped afterTyped
  | loop test body span =>
      cases typed with
      | loop conditionTyped bodyTyped =>
          rw [stmt]
          apply rounds_sound _ _ fuel stateTyped
          · intro state stateTyped
            exact condition_sound calls conditionTyped stateTyped
          · intro state stateTyped
            apply inBlock_sound stateTyped
            intro inner innerTyped
            exact block_sound calls fuel body bodyTyped innerTyped
  | result value span =>
      cases typed with
      | result typed accepts =>
          rw [stmt]
          apply Sound.bind (expr_sound calls value typed stateTyped)
          intro value after holds afterTyped
          exact .pure (accepts.holds holds) afterTyped

theorem block_sound {outer : StaticScope} (calls : CallsSound D outer.globals call) (fuel : Nat)
    (b : List Stmt) {frame : StaticFrame} {state : State}
    (typed : BlockTyped D returns outer frame b)
    (stateTyped : StateTyped D (outer.push frame) state) :
    SoundInside D outer (block call fuel b) state (Flow.Holds D returns) := by
  cases b with
  | nil =>
      rw [block]
      exact ⟨trivial, frame, stateTyped⟩
  | cons first rest =>
      cases typed with
      | cons firstTyped restTyped =>
          rw [block]
          have executed := stmt_sound calls fuel first firstTyped stateTyped
          apply Leads.bind (executed.imp (fun _ _ holds => holds)
            fun stop after holds => ⟨holds.1, _, holds.2⟩)
          intro flow after holds
          cases flow with
          | returned value =>
              exact ⟨holds.1, _, holds.2⟩
          | normal =>
              exact block_sound calls fuel rest restTyped holds.2

theorem firstCase_sound {scope : StaticScope} (calls : CallsSound D scope.globals call)
    (fuel : Nat) (subject : Value) (cs : List Case) {state : State}
    (typed : CasesTyped D returns scope cs)
    (stateTyped : StateTyped D scope state) :
    Sound D scope (firstCase call fuel subject cs) state (Flow.Holds D returns) := by
  cases cs with
  | nil =>
      rw [firstCase]
      exact .pure trivial stateTyped
  | cons first rest =>
      obtain ⟨value, body, span⟩ := first
      rw [firstCase]
      cases value with
      | some value =>
          cases typed with
          | value valueTyped bodyTyped restTyped =>
              apply Sound.bind (matchesCase_sound calls subject valueTyped stateTyped)
              intro truth after _ afterTyped
              cases truth with
              | true =>
                  apply inBlock_sound afterTyped
                  intro inner innerTyped
                  exact block_sound calls fuel body bodyTyped innerTyped
              | false =>
                  exact firstCase_sound calls fuel subject rest restTyped afterTyped
      | none =>
          cases typed with
          | default bodyTyped restTyped =>
              apply inBlock_sound stateTyped
              intro inner innerTyped
              exact block_sound calls fuel body bodyTyped innerTyped

end

end Eval
end ScriptLang
