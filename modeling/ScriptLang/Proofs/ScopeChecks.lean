import ScriptLang.Proofs.ChainScopes
import ScriptLang.Proofs.Step
import ScriptLang.Typing.Source

/-!
Checking among scopes.

Checking takes and gives chains, so that a check that fails gives none.  Here it is done among
scopes instead: a block is checked in a scope that is opened for it, a declaration binds its name in
the scope it stands in, and a check that fails leaves behind what it has done so far.  Both ways of
checking give the same trees and the same faults.  A statement that is rejected has changed none of
the scopes that were there, and one that is accepted at most the scope it stands in.
-/

namespace ScriptLang

/-- The frames of the scope and of those around it, as a chain. -/
def Forest.chain {β φ : Type} (forest : Forest β φ) (id : Nat) : Chain β φ :=
  { locals := (forest.blocks id).filterMap forest.frame?
    globals := (forest.frame? (forest.root id)).getD .empty }

theorem Forest.Shows.chain_eq {β φ : Type} {forest : Forest β φ} {id : Nat} {chain : Chain β φ}
    (shows : forest.Shows id chain) : forest.chain id = chain := by
  obtain ⟨localsEq, globalsEq⟩ := shows.split_root
  unfold Forest.chain
  rw [localsEq, globalsEq, Option.getD_some]

namespace Typing

/-- A step of checking among scopes. -/
abbrev ScopeCheck (α : Type) := EStateM Fault (Forest Variable Callee) α

variable {α β γ δ : Type}

def seeing (id : Nat) (step : StaticScope → Except Fault α) : ScopeCheck α := fun forest =>
  match step (forest.chain id) with
  | .ok value => .ok value forest
  | .error fault => .error fault forest

def returnTypeIn (id : Nat) : ScopeCheck (Option Ty) := fun forest =>
  .ok (forest.returnType? id) forest

def inNew (operation : Forest.Operation Variable Callee) (check : Nat → ScopeCheck α) :
    ScopeCheck α := fun forest =>
  check forest.scopes.length (forest.perform operation)

/-- A definition among scopes, which leaves them as they were if it fails. -/
def defining (step : Forest Variable Callee → Except Fault (Forest Variable Callee)) :
    ScopeCheck Unit := fun forest =>
  match step forest with
  | .ok later => .ok () later
  | .error fault => .error fault forest

mutual

def checkStmtIn (id : Nat) : Stmt → ScopeCheck Stmt
  | .expression value span =>
      if isCall value then do
        let (value, _) ← seeing id (checkExpr · none value)
        return .expression value span
      else
        throw { cause := .invalidExpressionStatement, offset := span.start }
  | .declaration name typeName value span _ => do
      let (value, ty) ← seeing id (checkBinding · typeName value span.start)
      let target := Variable.plain name ty true false
      defining (·.defineVariable id name target span.start)
      return .declaration name typeName value span (some target)
  | .assignment receiver value span =>
      if isAccess receiver then do
        let (receiver, expected) ← seeing id (checkExpr · none receiver)
        seeing id fun _ => requireMutable (targetOf receiver) span.start
        let value ← seeing id (checkAgainst · expected value)
        return .assignment receiver value span
      else
        throw { cause := .invalidAssignmentTarget, offset := span.start }
  | .conditional condition thenBlock elseBlock span =>
      if thenBlock.isEmpty then
        throw { cause := .emptyThenBlock, offset := span.start }
      else do
        let condition ← seeing id (checkCondition · condition)
        let thenBlock ← inNew (.child id) (checkBlockIn · thenBlock)
        let elseBlock ← inNew (.child id) (checkBlockIn · elseBlock)
        return .conditional condition thenBlock elseBlock span
  | .switch condition cases span => do
      let (condition, expected) ← seeing id (checkExpr · none condition)
      seeing id fun _ => requireDefault cases span.start
      let cases ← checkCasesIn id expected cases
      return .switch condition cases span
  | .loop condition body span => do
      let condition ← seeing id (checkCondition · condition)
      let body ← inNew (.child id) (checkBlockIn · body)
      return .loop condition body span
  | .result value span => do
      match ← returnTypeIn id with
      | none => throw { cause := .returnOutsideFunction, offset := span.start }
      | some expected =>
          let value ← seeing id (checkAgainst · expected value)
          return .result value span

def checkBlockIn (id : Nat) : List Stmt → ScopeCheck (List Stmt)
  | [] => return []
  | first :: rest => do
      let first ← checkStmtIn id first
      let rest ← checkBlockIn id rest
      return first :: rest

def checkCasesIn (id : Nat) (expected : Ty) : List Case → ScopeCheck (List Case)
  | [] => return []
  | first :: rest => do
      let first ← checkCaseIn id expected first
      let rest ← checkCasesIn id expected rest
      return first :: rest

def checkCaseIn (id : Nat) (expected : Ty) : Case → ScopeCheck Case
  | .mk none body span => do
      let body ← inNew (.child id) (checkBlockIn · body)
      return .mk none body span
  | .mk (some value) body span => do
      let (value, received) ← seeing id (checkExpr · none value)
      seeing id fun _ => expected.require received value.start
      let body ← inNew (.child id) (checkBlockIn · body)
      return .mk (some value) body span

end

def checkGlobalIn (id : Nat) (global : GlobalDecl) : ScopeCheck GlobalDecl := do
  let (value, ty) ←
    seeing id (checkBinding · global.typeName global.value global.span.start)
  let target := Variable.plain global.name ty global.mutable global.isList
  defining (·.defineVariable id global.name target global.span.start)
  return { global with value := value, target := some target }

def declareFunctionIn (id : Nat) (function : FunctionDecl) : ScopeCheck FunctionDecl := do
  let offset := function.span.start
  let parameterTypes ←
    seeing id fun _ => resolveAll offset (function.parameters.map Parameter.typeName)
  let returnType ← seeing id fun _ => resolveReturn function.returnTypeName offset
  let signature := Signature.plain function.name parameterTypes returnType
  let callee : Callee := { signature := signature, kind := .signature }
  defining (·.defineFunction id signature.key callee offset)
  return { function with callee := some callee }

def bindParametersIn (offset id : Nat) : List (Parameter × Ty) → ScopeCheck Unit
  | [] => return ()
  | (parameter, ty) :: rest => do
      let target := Variable.plain parameter.name ty true false
      defining (·.defineVariable id parameter.name target offset)
      bindParametersIn offset id rest

def checkFunctionIn (id : Nat) (function : FunctionDecl) : ScopeCheck FunctionDecl := do
  let callee ← seeing id (calleeOf · function)
  let body ← inNew (.functionBody id callee.signature.returnType) fun inner => do
    bindParametersIn function.span.start inner
      (function.parameters.zip callee.signature.parameterTypes)
    checkBlockIn inner function.body
  return { function with body := body }

def checkEachIn (step : α → ScopeCheck α) : List α → ScopeCheck (List α)
  | [] => return []
  | first :: rest => do
      let first ← step first
      let rest ← checkEachIn step rest
      return first :: rest

def checkSourceIn (id : Nat) (source : Source) : ScopeCheck Source := do
  let globals ← checkEachIn (checkGlobalIn id) source.globals
  let declared ← checkEachIn (declareFunctionIn id) source.functions
  let functions ← checkEachIn (checkFunctionIn id) declared
  seeing id (requireMain · source.span.stop)
  return { source with globals := globals, functions := functions }

/-! ### Agreement with checking over chains -/

section Mirrors

variable {forest : Forest Variable Callee} {step : ScopeCheck α} {result : Except Fault β}
  {agree : α → β → Forest Variable Callee → Prop} {failed : Forest Variable Callee → Prop}
  {id : Nat} {scope : StaticScope}

/-- From these scopes on, the step succeeds or fails as the result does, with the same fault. -/
def Mirrors (forest : Forest Variable Callee) (step : ScopeCheck α) (result : Except Fault β)
    (agree : α → β → Forest Variable Callee → Prop) (failed : Forest Variable Callee → Prop) :
    Prop :=
  Leads step forest (fun value later => ∃ other, result = .ok other ∧ agree value other later)
    fun fault later => result = .error fault ∧ failed later

namespace Mirrors

theorem pure {value : α} {other : β} (agrees : agree value other forest) :
    Mirrors forest (Pure.pure value) (.ok other) agree failed :=
  ⟨other, rfl, agrees⟩

theorem fail (fault : Fault) (fails : failed forest) :
    Mirrors forest (throw fault : ScopeCheck α) (.error fault : Except Fault β) agree failed :=
  ⟨rfl, fails⟩

theorem imp {agree' : α → β → Forest Variable Callee → Prop}
    {failed' : Forest Variable Callee → Prop} (mirrors : Mirrors forest step result agree failed)
    (agrees : ∀ value other later, agree value other later → agree' value other later)
    (fails : ∀ later, failed later → failed' later) :
    Mirrors forest step result agree' failed' := by
  refine Leads.imp mirrors ?_ ?_
  · rintro value later ⟨other, resultEq, agreed⟩
    exact ⟨other, resultEq, agrees value other later agreed⟩
  · rintro fault later ⟨resultEq, hasFailed⟩
    exact ⟨resultEq, fails later hasFailed⟩

theorem bind {next : α → ScopeCheck γ} {next' : β → Except Fault δ}
    {agree' : γ → δ → Forest Variable Callee → Prop} {failed' : Forest Variable Callee → Prop}
    (first : Mirrors forest step result agree failed)
    (second : ∀ value other later, agree value other later →
      Mirrors later (next value) (next' other) agree' failed')
    (fails : ∀ later, failed later → failed' later) :
    Mirrors forest (step >>= next) (result >>= next') agree' failed' := by
  refine (leads_bind _ _ _ _ _).mpr (Leads.imp first ?_ ?_)
  · rintro value later ⟨other, rfl, agreed⟩
    exact second value other later agreed
  · rintro fault later ⟨rfl, hasFailed⟩
    exact ⟨rfl, fails later hasFailed⟩

theorem seeing (shows : forest.Shows id scope) (look : StaticScope → Except Fault α) :
    Mirrors forest (Typing.seeing id look) (look scope)
      (fun value other later => value = other ∧ later = forest) fun later => later = forest := by
  unfold Mirrors Leads Typing.seeing
  rw [shows.chain_eq]
  cases look scope with
  | ok value => exact ⟨value, rfl, rfl, rfl⟩
  | error fault => exact ⟨rfl, rfl⟩

theorem see {look : StaticScope → Except Fault γ} {next : γ → ScopeCheck α}
    {next' : γ → Except Fault β} (shows : forest.Shows id scope)
    (second : ∀ value, Mirrors forest (next value) (next' value) agree failed)
    (fails : failed forest) :
    Mirrors forest (Typing.seeing id look >>= next) (look scope >>= next') agree failed := by
  refine (Mirrors.seeing shows look).bind ?_ ?_
  · rintro value _ _ ⟨rfl, rfl⟩
    exact second value
  · rintro _ rfl
    exact fails

theorem seeReturnType {next : Option Ty → ScopeCheck α} (shows : forest.Shows id scope)
    (second : Mirrors forest (next scope.returnType?) result agree failed) :
    Mirrors forest (returnTypeIn id >>= next) result agree failed := by
  have looks : returnTypeIn id forest = .ok scope.returnType? forest := by
    unfold returnTypeIn
    rw [shows.returnType?]
  unfold Mirrors
  rw [leads_bind_of_ok looks]
  exact second

end Mirrors

theorem defining_mirrors {define : Forest Variable Callee → Except Fault (Forest Variable Callee)}
    {defined : Except Fault StaticFrame}
    (defineEq : define forest = defined.map (forest.withFrame id))
    (defines : ∀ frame, defined = .ok frame → forest.Continues [id] (forest.withFrame id frame) ∧
      (forest.withFrame id frame).Shows id (scope.withInnermost frame)) :
    Mirrors forest (defining define) (defined.map scope.withInnermost)
      (fun _ after later => forest.Continues [id] later ∧ later.Shows id after ∧
        ∃ frame, after = scope.withInnermost frame)
      fun later => later = forest := by
  unfold Mirrors Leads defining
  dsimp only
  rw [defineEq]
  cases defined with
  | error fault => exact ⟨rfl, rfl⟩
  | ok frame =>
      obtain ⟨continues, showsLater⟩ := defines frame rfl
      exact ⟨_, rfl, continues, showsLater, frame, rfl⟩

theorem defineVariable_mirrors (shows : forest.Shows id scope) (name : String)
    (target : Variable) (offset : Nat) :
    Mirrors forest (defining (·.defineVariable id name target offset))
      (scope.defineVariable name target offset)
      (fun _ after later => forest.Continues [id] later ∧ later.Shows id after ∧
        ∃ frame, after = scope.withInnermost frame)
      fun later => later = forest :=
  defining_mirrors (shows.defineVariable_eq name target offset) fun _ => shows.definesVariable

theorem defineFunction_mirrors (shows : forest.Shows id scope) (key : String × Nat)
    (callee : Callee) (offset : Nat) :
    Mirrors forest (defining (·.defineFunction id key callee offset))
      (scope.defineFunction key callee offset)
      (fun _ after later => forest.Continues [id] later ∧ later.Shows id after ∧
        ∃ frame, after = scope.withInnermost frame)
      fun later => later = forest :=
  defining_mirrors (shows.defineFunction_eq key callee offset) fun _ => shows.definesFunction

/-- The step ends as the result does, and changes none of the scopes that were there. -/
def Quietly (forest : Forest Variable Callee) (step : ScopeCheck α) (result : Except Fault α) :
    Prop :=
  Mirrors forest step result (fun value other later => value = other ∧ forest.Continues [] later)
    (forest.Continues [])

theorem Quietly.bind {step : ScopeCheck γ} {result : Except Fault γ} {next : γ → ScopeCheck α}
    {next' : γ → Except Fault β} (first : Quietly forest step result)
    (shows : forest.Shows id scope)
    (second : ∀ value later, forest.Continues [] later → later.Shows id scope →
      Mirrors later (next value) (next' value) agree failed)
    (fails : ∀ later, forest.Continues [] later → failed later) :
    Mirrors forest (step >>= next) (result >>= next') agree failed := by
  refine Mirrors.bind first ?_ fails
  rintro value _ later ⟨rfl, continues⟩
  exact second value later continues (continues.shows_beside shows)

/-- What is checked in a scope that is opened for it changes none of the scopes that were there,
whether it is accepted or not. -/
theorem inNew_quietly {operation : Forest.Operation Variable Callee} {check : Nat → ScopeCheck α}
    {result : Except Fault α} {inner : StaticScope}
    (opens : forest.OpensInside id (forest.perform operation) inner)
    (inside : ∀ (opened : Forest Variable Callee) new, opened.Shows new inner →
      Mirrors opened (check new) result
        (fun value other later => value = other ∧ opened.Continues [new] later)
        (opened.Continues [new])) :
    Quietly forest (inNew operation check) result := by
  have closes : ∀ later, (forest.perform operation).Continues [forest.scopes.length] later →
      forest.Continues [] later := by
    intro later continues
    refine opens.continues.trans continues fun other opened member => ?_
    exact absurd (List.mem_singleton.mp member) (Nat.ne_of_lt opened)
  exact (inside _ _ opens.shows).imp (fun _ _ later agreed => ⟨agreed.1, closes later agreed.2⟩)
    closes

end Mirrors

mutual

/-- A statement that is rejected has changed none of the scopes that were there, and one that is
accepted at most the scope it stands in. -/
theorem checkStmtIn_mirrors {forest : Forest Variable Callee} {id : Nat} {scope : StaticScope}
    (shows : forest.Shows id scope) (s : Stmt) :
    Mirrors forest (checkStmtIn id s) (checkStmt scope s)
      (fun decorated result later =>
        decorated = result.1 ∧ forest.Continues [id] later ∧ later.Shows id result.2)
      (forest.Continues []) := by
  have unchanged := Forest.Continues.refl forest []
  cases s with
  | expression value span =>
      rw [checkStmtIn, checkStmt]
      split
      · refine .see shows (fun result => ?_) unchanged
        exact .pure ⟨rfl, unchanged.widen, shows⟩
      · exact .fail _ unchanged
  | declaration name typeName value span target =>
      rw [checkStmtIn, checkStmt]
      refine .see shows (fun result => ?_) unchanged
      refine (defineVariable_mirrors shows name _ span.start).bind ?_ ?_
      · rintro _ after later ⟨continues, showsLater, _⟩
        exact .pure ⟨rfl, continues, showsLater⟩
      · rintro later rfl
        exact unchanged
  | assignment receiver value span =>
      rw [checkStmtIn, checkStmt]
      split
      · refine .see shows (fun result => ?_) unchanged
        refine .see shows (fun _ => ?_) unchanged
        refine .see shows (fun value => ?_) unchanged
        exact .pure ⟨rfl, unchanged.widen, shows⟩
      · exact .fail _ unchanged
  | conditional condition thenBlock elseBlock span =>
      rw [checkStmtIn, checkStmt]
      split
      · exact .fail _ unchanged
      · refine .see shows (fun condition => ?_) unchanged
        have thenQuietly := inNew_quietly shows.child fun _ _ inside =>
          checkBlockIn_mirrors inside thenBlock
        refine thenQuietly.bind shows (fun thenBlock middle toMiddle showsMiddle => ?_)
          fun _ continues => continues
        have elseQuietly := inNew_quietly showsMiddle.child fun _ _ inside =>
          checkBlockIn_mirrors inside elseBlock
        refine elseQuietly.bind showsMiddle (fun elseBlock later further showsLater => ?_)
          fun _ => toMiddle.followed
        have continues := toMiddle.followed further
        exact .pure ⟨rfl, continues.widen, showsLater⟩
  | switch condition cases span =>
      rw [checkStmtIn, checkStmt]
      refine .see shows (fun result => ?_) unchanged
      refine .see shows (fun _ => ?_) unchanged
      refine (checkCasesIn_quietly shows result.2 cases).bind shows
        (fun decorated later continues showsLater => ?_) fun _ continues => continues
      exact .pure ⟨rfl, continues.widen, showsLater⟩
  | loop condition body span =>
      rw [checkStmtIn, checkStmt]
      refine .see shows (fun condition => ?_) unchanged
      have bodyQuietly := inNew_quietly shows.child fun _ _ inside =>
        checkBlockIn_mirrors inside body
      refine bodyQuietly.bind shows (fun decorated later continues showsLater => ?_)
        fun _ continues => continues
      exact .pure ⟨rfl, continues.widen, showsLater⟩
  | result value span =>
      rw [checkStmtIn, checkStmt]
      refine .seeReturnType shows ?_
      cases scope.returnType? with
      | none => exact .fail _ unchanged
      | some expected =>
          refine .see shows (fun value => ?_) unchanged
          exact .pure ⟨rfl, unchanged.widen, shows⟩

theorem checkBlockIn_mirrors {forest : Forest Variable Callee} {id : Nat} {scope : StaticScope}
    (shows : forest.Shows id scope) (b : List Stmt) :
    Mirrors forest (checkBlockIn id b) (checkBlock scope b)
      (fun decorated result later => decorated = result ∧ forest.Continues [id] later)
      (forest.Continues [id]) := by
  cases b with
  | nil =>
      rw [checkBlockIn, checkBlock]
      exact .pure ⟨rfl, .refl _ _⟩
  | cons first rest =>
      rw [checkBlockIn, checkBlock]
      refine (checkStmtIn_mirrors shows first).bind ?_ fun _ continues => continues.widen
      rintro _ result middle ⟨rfl, toMiddle, showsMiddle⟩
      refine (checkBlockIn_mirrors showsMiddle rest).bind ?_ fun _ further =>
        toMiddle.followed further
      rintro _ decorated later ⟨rfl, further⟩
      exact .pure ⟨rfl, toMiddle.followed further⟩

theorem checkCasesIn_quietly {forest : Forest Variable Callee} {id : Nat} {scope : StaticScope}
    (shows : forest.Shows id scope) (expected : Ty) (cs : List Case) :
    Quietly forest (checkCasesIn id expected cs) (checkCases scope expected cs) := by
  cases cs with
  | nil =>
      rw [checkCasesIn, checkCases]
      exact .pure ⟨rfl, .refl _ _⟩
  | cons first rest =>
      rw [checkCasesIn, checkCases]
      refine (checkCaseIn_quietly shows expected first).bind shows
        (fun decorated middle toMiddle showsMiddle => ?_) fun _ continues => continues
      refine (checkCasesIn_quietly showsMiddle expected rest).bind showsMiddle
        (fun others later further _ => ?_)
        fun _ => toMiddle.followed
      exact .pure ⟨rfl, toMiddle.followed further⟩

theorem checkCaseIn_quietly {forest : Forest Variable Callee} {id : Nat} {scope : StaticScope}
    (shows : forest.Shows id scope) (expected : Ty) (c : Case) :
    Quietly forest (checkCaseIn id expected c) (checkCase scope expected c) := by
  have unchanged := Forest.Continues.refl forest []
  obtain ⟨value, body, span⟩ := c
  have bodyQuietly := inNew_quietly shows.child fun _ _ inside => checkBlockIn_mirrors inside body
  cases value with
  | none =>
      rw [checkCaseIn, checkCase]
      exact bodyQuietly.bind shows (fun _ _ continues _ => .pure ⟨rfl, continues⟩)
        fun _ continues => continues
  | some value =>
      rw [checkCaseIn, checkCase]
      refine .see shows (fun result => ?_) unchanged
      refine .see shows (fun _ => ?_) unchanged
      exact bodyQuietly.bind shows (fun _ _ continues _ => .pure ⟨rfl, continues⟩)
        fun _ continues => continues

end

/-! ### Programs -/

section Programs

/-- Both ways of checking end alike, with the same globals behind them. -/
def Tracks (id : Nat) (step : ScopeCheck α) (step' : GlobalCheck α) : Prop :=
  ∀ (forest : Forest Variable Callee) globals, forest.Shows id (.ofGlobals globals) →
    Leads step forest
      (fun value later => ∃ after, step' globals = .ok value after ∧
        forest.Continues [id] later ∧ later.Shows id (.ofGlobals after))
      fun fault later => ∃ after, step' globals = .error fault after ∧
        forest.Continues [id] later ∧ later.Shows id (.ofGlobals after)

variable {id : Nat} {step : ScopeCheck α} {step' : GlobalCheck α}

namespace Tracks

theorem pure (value : α) : Tracks id (Pure.pure value) (Pure.pure value) :=
  fun _ globals shows => ⟨globals, rfl, .refl _ _, shows⟩

theorem bind {next : α → ScopeCheck β} {next' : α → GlobalCheck β} (first : Tracks id step step')
    (second : ∀ value, Tracks id (next value) (next' value)) :
    Tracks id (step >>= next) (step' >>= next') := by
  intro forest globals shows
  refine (leads_bind _ _ _ _ _).mpr ((first forest globals shows).imp ?_ ?_)
  · rintro value middle ⟨after, ended, toMiddle, showsMiddle⟩
    refine (second value middle after showsMiddle).imp ?_ ?_
    · rintro result later ⟨last, endedLast, further, showsLater⟩
      exact ⟨last, (step_bind_of_ok ended).trans endedLast,
        toMiddle.followed further, showsLater⟩
    · rintro fault later ⟨last, failed, further, showsLater⟩
      exact ⟨last, (step_bind_of_ok ended).trans failed,
        toMiddle.followed further, showsLater⟩
  · rintro fault later ⟨after, failed, continues, showsLater⟩
    exact ⟨after, step_bind_of_error failed, continues, showsLater⟩

theorem each {check : α → ScopeCheck α} {check' : α → GlobalCheck α}
    (tracks : ∀ item, Tracks id (check item) (check' item)) (items : List α) :
    Tracks id (checkEachIn check items) (checkEach check' items) := by
  induction items with
  | nil => exact .pure []
  | cons first rest inductionHypothesis =>
      rw [checkEachIn, checkEach]
      exact (tracks first).bind fun _ => inductionHypothesis.bind fun _ => .pure _

theorem of_quietly {look : StaticScope → Except Fault α}
    (quietly : ∀ (forest : Forest Variable Callee) scope, forest.Shows id scope →
      Quietly forest step (look scope)) : Tracks id step (reading look) := by
  intro forest globals shows
  refine Leads.imp (quietly forest (.ofGlobals globals) shows) ?_ ?_
  · rintro value later ⟨_, ended, rfl, continues⟩
    exact ⟨globals, reading_of_ok look ended, continues.widen,
      continues.shows_beside shows⟩
  · rintro fault later ⟨failed, continues⟩
    refine ⟨globals, ?_, continues.widen, continues.shows_beside shows⟩
    unfold reading
    rw [failed]

theorem of_mirrors {define : StaticScope → Except Fault (α × StaticScope)}
    (mirrors : ∀ (forest : Forest Variable Callee) scope, forest.Shows id scope →
      Mirrors forest step (define scope)
        (fun value result later => value = result.1 ∧ forest.Continues [id] later ∧
          later.Shows id result.2 ∧ ∃ frame, result.2 = scope.withInnermost frame)
        (forest.Continues [])) : Tracks id step (binding define) := by
  intro forest globals shows
  refine Leads.imp (mirrors forest (.ofGlobals globals) shows) ?_ ?_
  · rintro value later ⟨⟨_, after⟩, ended, rfl, continues, showsLater, frame, rfl⟩
    exact ⟨frame, binding_of_ok define ended, continues, showsLater⟩
  · rintro fault later ⟨failed, continues⟩
    refine ⟨globals, ?_, continues.widen, continues.shows_beside shows⟩
    unfold binding
    rw [failed]

end Tracks

theorem checkGlobalIn_tracks (id : Nat) (global : GlobalDecl) :
    Tracks id (checkGlobalIn id global) (binding (checkGlobal · global)) := by
  refine .of_mirrors fun forest scope shows => ?_
  have unchanged := Forest.Continues.refl forest []
  refine .see shows (fun result => ?_) unchanged
  refine (defineVariable_mirrors shows global.name _ global.span.start).bind ?_ ?_
  · rintro _ after later ⟨continues, showsLater, replaces⟩
    exact .pure ⟨rfl, continues, showsLater, replaces⟩
  · rintro later rfl
    exact unchanged

theorem declareFunctionIn_tracks (id : Nat) (function : FunctionDecl) :
    Tracks id (declareFunctionIn id function) (binding (declareFunction · function)) := by
  refine .of_mirrors fun forest scope shows => ?_
  have unchanged := Forest.Continues.refl forest []
  refine .see shows (fun parameterTypes => ?_) unchanged
  refine .see shows (fun returnType => ?_) unchanged
  refine (defineFunction_mirrors shows _ _ function.span.start).bind ?_ ?_
  · rintro _ after later ⟨continues, showsLater, replaces⟩
    exact .pure ⟨rfl, continues, showsLater, replaces⟩
  · rintro later rfl
    exact unchanged

theorem bindParametersIn_mirrors {forest : Forest Variable Callee} {scope : StaticScope}
    (shows : forest.Shows id scope) (offset : Nat) (parameters : List (Parameter × Ty)) :
    Mirrors forest (bindParametersIn offset id parameters)
      (bindParameters offset scope parameters)
      (fun _ after later => forest.Continues [id] later ∧ later.Shows id after)
      (forest.Continues [id]) := by
  induction parameters generalizing forest scope with
  | nil => exact .pure ⟨.refl _ _, shows⟩
  | cons first rest inductionHypothesis =>
      obtain ⟨parameter, ty⟩ := first
      rw [bindParametersIn, bindParameters]
      refine (defineVariable_mirrors shows parameter.name _ offset).bind ?_ ?_
      · rintro _ after middle ⟨toMiddle, showsMiddle, _⟩
        refine (inductionHypothesis showsMiddle).imp ?_ ?_
        · rintro _ last later ⟨further, showsLater⟩
          exact ⟨toMiddle.followed further, showsLater⟩
        · exact fun _ => toMiddle.followed
      · rintro later rfl
        exact .refl _ _

theorem checkFunctionIn_tracks (id : Nat) (function : FunctionDecl) :
    Tracks id (checkFunctionIn id function) (reading (checkFunction · function)) := by
  refine .of_quietly fun forest scope shows => ?_
  refine .see shows (fun callee => ?_) (.refl _ _)
  rw [← bind_assoc]
  refine (inNew_quietly (shows.functionBody _) fun opened new inside => ?_).bind shows
    (fun _ _ continues _ => .pure ⟨rfl, continues⟩) fun _ continues => continues
  refine (bindParametersIn_mirrors inside function.span.start _).bind ?_
    fun _ continues => continues
  rintro _ inner middle ⟨toMiddle, showsMiddle⟩
  refine (checkBlockIn_mirrors showsMiddle function.body).imp ?_ ?_
  · rintro _ decorated later ⟨rfl, further⟩
    exact ⟨rfl, toMiddle.followed further⟩
  · exact fun _ => toMiddle.followed

theorem checkSourceIn_tracks (id : Nat) (source : Source) :
    Tracks id (checkSourceIn id source) (checkSource source) := by
  refine (Tracks.each (checkGlobalIn_tracks id) source.globals).bind fun globals => ?_
  refine (Tracks.each (declareFunctionIn_tracks id) source.functions).bind fun declared => ?_
  refine (Tracks.each (checkFunctionIn_tracks id) declared).bind fun functions => ?_
  refine Tracks.bind (.of_quietly fun forest scope shows => ?_) fun _ => .pure _
  refine (Mirrors.seeing shows (requireMain · source.span.stop)).imp ?_ ?_
  · rintro _ other later ⟨same, rfl⟩
    exact ⟨same, .refl _ _⟩
  · rintro later rfl
    exact .refl _ _

end Programs

end Typing

def Forest.ofBuiltins : Forest Variable Callee :=
  .perform .empty (.withFunctions
    (Builtin.all.map fun builtin => (builtin.signature.key, builtin.callee)))

theorem Forest.shows_ofBuiltins :
    Forest.ofBuiltins.Shows 0 (.ofGlobals Typing.builtinFrame) :=
  Forest.shows_withFunctions _

def Source.checkAmongScopes (source : Source) : Except Fault Source :=
  match Typing.checkSourceIn 0 source Forest.ofBuiltins with
  | .ok checked _ => .ok checked
  | .error fault _ => .error fault

/-- Among scopes, programs are accepted and rejected as they are over chains. -/
theorem Source.check_eq_checkAmongScopes (source : Source) :
    source.check = source.checkAmongScopes := by
  have tracks := Typing.checkSourceIn_tracks 0 source _ _ Forest.shows_ofBuiltins
  unfold Leads at tracks
  unfold check checkAmongScopes
  cases ended : Typing.checkSourceIn 0 source Forest.ofBuiltins with
  | ok checked later =>
      rw [ended] at tracks
      obtain ⟨after, checkedEq, _⟩ := tracks
      rw [checkedEq]
  | error fault later =>
      rw [ended] at tracks
      obtain ⟨after, checkedEq, _⟩ := tracks
      rw [checkedEq]

end ScriptLang
