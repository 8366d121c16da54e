import ScriptLang.Evaluation.Statement

/-!
Running programs.

The globals are evaluated and the functions bound in their order; then `main` is called.
-/

namespace ScriptLang
namespace Eval

def defineGlobal (fuel : Nat) (global : GlobalDecl) : Eval Unit := do
  let value ← initialValue (invoke fuel) global.value
  let binding :=
    Variable.plain global.name (declaredTy global.target) global.mutable global.isList
  defineVariable binding value global.span.start

/-- The function that a declaration stands for.  Its types are those found by checking; an
unchecked declaration takes and returns anything. -/
def functionOf (declaration : FunctionDecl) : Function :=
  let signature :=
    match declaration.callee with
    | some callee =>
        Signature.plain declaration.name callee.signature.parameterTypes
          callee.signature.returnType
    | none =>
        Signature.plain declaration.name (declaration.parameters.map fun _ => Ty.any) .any
  { signature := signature, body := .declared declaration }

def defineGlobals (fuel : Nat) : List GlobalDecl → Eval Unit
  | [] => return ()
  | first :: rest => do
      defineGlobal fuel first
      defineGlobals fuel rest

def defineFunctions : List FunctionDecl → Eval Unit
  | [] => return ()
  | first :: rest => do
      defineFunction (functionOf first) first.span.start
      defineFunctions rest

def load (fuel : Nat) (source : Source) : Eval Function := do
  defineGlobals fuel source.globals
  defineFunctions source.functions
  match (← get).scope.findFunction? ("main", 0) with
  | some main => return main
  | none => fail .missingMain source.span.stop

def program (fuel : Nat) (source : Source) : Eval Value := do
  let main ← load fuel source
  invoke fuel main [] source.span.start

end Eval

structure Outcome where
  result : Except Stop Value
  sink : Sink

def Source.run (source : Source) (fuel : Nat) (sink : Sink) : Outcome :=
  match Eval.program fuel source (.initial sink) with
  | .ok value state => { result := .ok value, sink := state.sink }
  | .error stop state => { result := .error stop, sink := state.sink }

end ScriptLang
