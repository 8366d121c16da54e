import ScriptLang.Evaluation.Builtin
import ScriptLang.Evaluation.Expression

/-!
Executing statements.

A block runs in a scope of its own, and each round of a loop in a new one.  The fuel bounds the
number of rounds of every loop.
-/

namespace ScriptLang
namespace Eval

/-- The type that a variable is given at run time: the one found by checking, if any. -/
def declaredTy (target : Option Variable) : Ty :=
  match target with
  | some target => target.ty
  | none => .any

def initialValue (invoke : Invocation) : Option Expr → Eval Value
  | some value => expr invoke value
  | none => return .nil

def assignable (name : String) (nameOffset offset : Nat) : Eval Unit := do
  let cell ← lookupVariable name nameOffset
  if cell.binding.mutable then
    return ()
  else
    fail (.immutableAssignment cell.binding.name) offset

def storeElement (name : String) (index : Int) (value : Value) (offset : Nat) : Eval Unit := do
  let cell ← lookupVariable name offset
  match cell.value with
  | .list elements =>
      if 0 ≤ index ∧ index.toNat < elements.length then
        store name (.list (elements.set index.toNat value))
      else
        outOfRange index elements.length offset
  | other => fail (.invalidOperand "[]" other.className) offset

def assign (invoke : Invocation) (receiver value : Expr) (offset : Nat) : Eval Unit :=
  match receiver with
  | .access name span _ _ => do
      assignable name span.start offset
      store name (← expr invoke value)
  | .element name position span _ _ => do
      assignable name span.start offset
      let position ← index invoke position
      let value ← expr invoke value
      storeElement name position value span.start
  | _ => fail .invalidAssignmentTarget offset

def rounds : Nat → Eval Bool → Eval Flow → Eval Flow
  | 0, _, _ => throw .outOfFuel
  | fuel + 1, condition, body => fun state =>
      match condition state with
      | .error stop state => .error stop state
      | .ok false state => .ok .normal state
      | .ok true state =>
          match body state with
          | .error stop state => .error stop state
          | .ok (.returned value) state => .ok (.returned value) state
          | .ok .normal state => rounds fuel condition body state

theorem rounds_succ (fuel : Nat) (condition : Eval Bool) (body : Eval Flow) :
    rounds (fuel + 1) condition body = (do
      if ← condition then
        match ← body with
        | .returned value => return .returned value
        | .normal => rounds fuel condition body
      else
        return .normal) := by
  funext state
  change _ = EStateM.bind condition _ state
  unfold EStateM.bind
  rw [rounds]
  dsimp only
  cases condition state with
  | error stop after =>
      rfl
  | ok truth after =>
      cases truth with
      | false =>
          rfl
      | true =>
          change _ = EStateM.bind body _ after
          unfold EStateM.bind
          dsimp only
          cases body after with
          | error stop last =>
              rfl
          | ok flow last =>
              cases flow with
              | normal =>
                  rfl
              | returned value =>
                  rfl

def matchesCase (invoke : Invocation) (subject : Value) : Option Expr → Eval Bool
  | some value => return (← expr invoke value).equals subject
  | none => return true

mutual

def stmt (invoke : Invocation) (fuel : Nat) : Stmt → Eval Flow
  | .expression value _ => do
      let _ ← expr invoke value
      return .normal
  | .declaration name _ value span target => do
      let value ← initialValue invoke value
      defineVariable (Variable.plain name (declaredTy target) true false) value span.start
      return .normal
  | .assignment receiver value span => do
      assign invoke receiver value span.start
      return .normal
  | .conditional test thenBlock elseBlock _ => do
      if ← condition invoke test then
        inBlock (block invoke fuel thenBlock)
      else
        inBlock (block invoke fuel elseBlock)
  | .switch subject cases _ => do
      let value ← expr invoke subject
      firstCase invoke fuel value cases
  | .loop test body _ =>
      rounds fuel (condition invoke test) (inBlock (block invoke fuel body))
  | .result value _ => return .returned (← expr invoke value)

def block (invoke : Invocation) (fuel : Nat) : List Stmt → Eval Flow
  | [] => return .normal
  | first :: rest => do
      match ← stmt invoke fuel first with
      | .returned value => return .returned value
      | .normal => block invoke fuel rest

def firstCase (invoke : Invocation) (fuel : Nat) (subject : Value) : List Case → Eval Flow
  | [] => return .normal
  | .mk value body _ :: rest => do
      if ← matchesCase invoke subject value then
        inBlock (block invoke fuel body)
      else
        firstCase invoke fuel subject rest

end

/-- Binds the parameters of a function to its arguments; surplus arguments are dropped. -/
def bindArguments (offset : Nat) :
    RunFrame → List (Parameter × Value × Ty) → Except Fault RunFrame
  | frame, [] => .ok frame
  | frame, (parameter, value, ty) :: rest => do
      let binding := Variable.plain parameter.name ty true false
      let cell : Cell := { binding := binding, value := value }
      let frame ← frame.defineVariable parameter.name cell offset
      bindArguments offset frame rest

/-- Calls a function.  The fuel bounds the depth of calls and, inside each, the rounds of every
loop.  The body of a declared function sees its parameters and the globals, and none of the
caller's blocks.

A function refers to the globals that it was declared in weakly, and cannot be invoked once they
are gone.  That never happens here: functions are declared globally, so the scope that a call looks
for is the one of the globals, and this is held for as long as the run lasts by whoever runs the
program.  Only a session can drop its globals between two runs (`Session.reset`), and there the
function loses its body. -/
def invoke : Nat → Invocation
  | 0, _, _, _ => throw .outOfFuel
  | fuel + 1, function, arguments, offset =>
      match function.body with
      | .builtin builtin => fun state =>
          match builtin.apply arguments state.sink with
          | (.ok value, sink) => .ok value { state with sink := sink }
          | (.error cause, sink) =>
              .error (.fault { cause := cause, offset := offset }) { state with sink := sink }
      | .declared declaration => do
          let empty : RunFrame :=
            { Frame.empty with returnType := some function.signature.returnType }
          let frame ← ofExcept (bindArguments declaration.span.start empty
            (declaration.parameters.zip (arguments.zip function.signature.parameterTypes)))
          let flow ← inCall frame (block (invoke fuel) fuel declaration.body)
          return flow.callValue
      | .absent => fail (.notInvocable function.signature.name) offset

end Eval
end ScriptLang
