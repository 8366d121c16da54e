import ScriptLang.Builtin
import ScriptLang.Scope.Chain
import ScriptLang.Sink
import ScriptLang.Value

/-!
The state of a run.

A run has open scopes and a sink.  It stops with a fault, or because the fuel that it was given
is used up; either way the state reached is kept.
-/

namespace ScriptLang

structure Cell where
  binding : Variable
  value : Value
  deriving Inhabited

inductive Body where
  | builtin (builtin : Builtin)
  | declared (declaration : FunctionDecl)
  | absent
  deriving Inhabited

structure Function where
  signature : Signature
  body : Body
  deriving Inhabited

namespace Function

def ofBuiltin (builtin : Builtin) : Function :=
  { signature := builtin.signature, body := .builtin builtin }

def kind (function : Function) : CalleeKind :=
  match function.body with
  | .builtin _ => .native
  | .declared _ => .user
  | .absent => .signature

def callee (function : Function) : Callee :=
  { signature := function.signature, kind := function.kind }

/-- The value that refers to a function; a declared one is told by where it stands. -/
def value (function : Function) : Value :=
  let identity :=
    match function.body with
    | .declared declaration => declaration.span.start
    | _ => 0
  .function identity function.signature.name function.signature.arity

end Function

abbrev RunScope := Chain Cell Function

abbrev RunFrame := Frame Cell Function

structure State where
  scope : RunScope
  sink : Sink
  deriving Inhabited

/-- The globals that every program starts with: the built-in functions. -/
def State.builtinFrame : RunFrame :=
  .ofFunctions (Builtin.all.map fun builtin =>
    (builtin.signature.key, Function.ofBuiltin builtin))

def State.initial (sink : Sink) : State :=
  { scope := .ofGlobals builtinFrame, sink := sink }

inductive Stop where
  | fault (fault : Fault)
  | outOfFuel
  deriving DecidableEq, Inhabited, Repr

inductive Flow where
  | normal
  | returned (value : Value)
  deriving Inhabited

def Flow.callValue : Flow → Value
  | normal => .nil
  | returned value => value

abbrev Eval (α : Type) := EStateM Stop State α

namespace Eval

def fail {α : Type} (cause : Cause) (offset : Nat) : Eval α :=
  throw (.fault { cause := cause, offset := offset })

def ofExcept {α : Type} (step : Except Fault α) : Eval α :=
  match step with
  | .ok value => pure value
  | .error fault => throw (.fault fault)

theorem ofExcept_eq_ok {α : Type} {result : Except Fault α} {value : α} {state after : State} :
    ofExcept result state = .ok value after ↔ result = .ok value ∧ state = after := by
  cases result with
  | ok found =>
      constructor
      · intro ended
        cases ended
        exact ⟨rfl, rfl⟩
      · rintro ⟨found, rfl⟩
        cases found
        rfl
  | error fault =>
      constructor
      · intro ended
        cases ended
      · rintro ⟨impossible, _⟩
        cases impossible

def lookupVariable (name : String) (offset : Nat) : Eval Cell := do
  ofExcept ((← get).scope.lookupVariable name offset)

def lookupFunction (key : String × Nat) (offset : Nat) : Eval Function := do
  ofExcept ((← get).scope.lookupFunction key offset)

def defineVariable (binding : Variable) (value : Value) (offset : Nat) : Eval Unit := do
  let state ← get
  let cell : Cell := { binding := binding, value := value }
  let scope ← ofExcept (state.scope.defineVariable binding.name cell offset)
  set { state with scope := scope }

def defineFunction (function : Function) (offset : Nat) : Eval Unit := do
  let state ← get
  let scope ← ofExcept (state.scope.defineFunction function.signature.key function offset)
  set { state with scope := scope }

def store (name : String) (value : Value) : Eval Unit :=
  modify fun state =>
    { state with
      scope := state.scope.updateVariable name fun cell => { cell with value := value } }

/-- Runs a step inside a new block, which is closed again however the step ends. -/
def inBlock {α : Type} (step : Eval α) : Eval α := fun state =>
  let close (inner : State) : State :=
    { inner with scope := { inner.scope with locals := inner.scope.locals.tail } }
  match step { state with scope := state.scope.child } with
  | .ok value inner => .ok value (close inner)
  | .error stop inner => .error stop (close inner)

/-- Runs a step with one frame over the globals, and puts the caller's frames back however the
step ends.  They are the frames of scopes that the step cannot reach, so that putting them back
changes none of them (`State.Becomes.left`). -/
def inCall {α : Type} (frame : RunFrame) (step : Eval α) : Eval α := fun state =>
  let leave (inner : State) : State :=
    { inner with scope := { inner.scope with locals := state.scope.locals } }
  match step { state with scope := { state.scope with locals := [frame] } } with
  | .ok value inner => .ok value (leave inner)
  | .error stop inner => .error stop (leave inner)

end Eval
end ScriptLang
