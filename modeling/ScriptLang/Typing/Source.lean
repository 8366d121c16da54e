import ScriptLang.Typing.Statement

/-!
Checking programs.

First come the globals in their order, then the signatures of all functions, then their
bodies, and last the demand for a function `main` without parameters that returns an Integer.
A global may therefore call built-in functions only, and every body may call every function.
-/

namespace ScriptLang
namespace Typing

def checkGlobal (scope : StaticScope) (global : GlobalDecl) :
    Except Fault (GlobalDecl × StaticScope) := do
  let (value, ty) ← checkBinding scope global.typeName global.value global.span.start
  let target := Variable.plain global.name ty global.mutable global.isList
  let scope ← scope.defineVariable global.name target global.span.start
  return ({ global with value := value, target := some target }, scope)

def resolveAll (offset : Nat) : List String → Except Fault (List Ty)
  | [] => return []
  | name :: names => do
      let ty ← Ty.resolve name offset
      return ty :: (← resolveAll offset names)

/-- The type a function returns; `Nil` where none is declared. -/
def resolveReturn (typeName : Option String) (offset : Nat) : Except Fault Ty :=
  match typeName with
  | some name => Ty.resolve name offset
  | none => .ok .nil

/-- Binds the signature of a function, so that any body may call it. -/
def declareFunction (scope : StaticScope) (function : FunctionDecl) :
    Except Fault (FunctionDecl × StaticScope) := do
  let offset := function.span.start
  let parameterTypes ← resolveAll offset (function.parameters.map Parameter.typeName)
  let returnType ← resolveReturn function.returnTypeName offset
  let signature := Signature.plain function.name parameterTypes returnType
  let callee : Callee := { signature := signature, kind := .signature }
  let scope ← scope.defineFunction signature.key callee offset
  return ({ function with callee := some callee }, scope)

def bindParameters (offset : Nat) :
    StaticScope → List (Parameter × Ty) → Except Fault StaticScope
  | scope, [] => return scope
  | scope, (parameter, ty) :: rest => do
      let target := Variable.plain parameter.name ty true false
      let scope ← scope.defineVariable parameter.name target offset
      bindParameters offset scope rest

/-- The function that a declaration stands for: the one it was declared as, or the one found
by its name and number of parameters. -/
def calleeOf (scope : StaticScope) (function : FunctionDecl) : Except Fault Callee :=
  match function.callee with
  | some callee => .ok callee
  | none => scope.lookupFunction (function.name, function.arity) function.span.start

def checkFunction (scope : StaticScope) (function : FunctionDecl) :
    Except Fault FunctionDecl := do
  let callee ← calleeOf scope function
  let inner ← bindParameters function.span.start (scope.body callee.signature.returnType)
    (function.parameters.zip callee.signature.parameterTypes)
  let body ← checkBlock inner function.body
  return { function with body := body }

/-- A step of checking a program keeps the globals that it has bound, also when it fails. -/
abbrev GlobalCheck (α : Type) := EStateM Fault StaticFrame α

def binding {α : Type} (step : StaticScope → Except Fault (α × StaticScope)) : GlobalCheck α :=
  fun globals =>
    match step (.ofGlobals globals) with
    | .ok (value, scope) => .ok value scope.globals
    | .error fault => .error fault globals

def reading {α : Type} (step : StaticScope → Except Fault α) : GlobalCheck α :=
  fun globals =>
    match step (.ofGlobals globals) with
    | .ok value => .ok value globals
    | .error fault => .error fault globals

theorem binding_eq_ok {α : Type} {step : StaticScope → Except Fault (α × StaticScope)}
    {globals after : StaticFrame} {value : α} (ended : binding step globals = .ok value after) :
    ∃ scope, step (.ofGlobals globals) = .ok (value, scope) ∧ scope.globals = after := by
  unfold binding at ended
  cases result : step (.ofGlobals globals) with
  | ok pair =>
      rw [result] at ended
      cases ended
      exact ⟨pair.2, rfl, rfl⟩
  | error fault =>
      rw [result] at ended
      cases ended

theorem binding_of_ok {α : Type} (step : StaticScope → Except Fault (α × StaticScope))
    {globals : StaticFrame} {value : α} {scope : StaticScope}
    (ended : step (.ofGlobals globals) = .ok (value, scope)) :
    binding step globals = .ok value scope.globals := by
  unfold binding
  rw [ended]

theorem reading_of_ok {α : Type} (step : StaticScope → Except Fault α) {globals : StaticFrame}
    {value : α} (ended : step (.ofGlobals globals) = .ok value) :
    reading step globals = .ok value globals := by
  unfold reading
  rw [ended]

theorem reading_eq_ok {α : Type} {step : StaticScope → Except Fault α}
    {globals after : StaticFrame} {value : α} (ended : reading step globals = .ok value after) :
    step (.ofGlobals globals) = .ok value ∧ globals = after := by
  unfold reading at ended
  cases result : step (.ofGlobals globals) with
  | ok found =>
      rw [result] at ended
      cases ended
      exact ⟨rfl, rfl⟩
  | error fault =>
      rw [result] at ended
      cases ended

def checkEach {α : Type} (step : α → GlobalCheck α) : List α → GlobalCheck (List α)
  | [] => return []
  | first :: rest => do
      let first ← step first
      let rest ← checkEach step rest
      return first :: rest

/-- A program has a function `main` without parameters that returns an Integer. -/
def requireMain (scope : StaticScope) (offset : Nat) : Except Fault Unit :=
  match scope.findFunction? ("main", 0) with
  | some main =>
      if main.signature.returnType = .integer then .ok ()
      else .error { cause := .missingMain, offset := offset }
  | none => .error { cause := .missingMain, offset := offset }

def checkSource (source : Source) : GlobalCheck Source := do
  let globals ← checkEach (fun global => binding (checkGlobal · global)) source.globals
  let declared ←
    checkEach (fun function => binding (declareFunction · function)) source.functions
  let functions ← checkEach (fun function => reading (checkFunction · function)) declared
  reading (requireMain · source.span.stop)
  return { source with globals := globals, functions := functions }

end Typing

def Source.check (source : Source) : Except Fault Source :=
  match Typing.checkSource source Typing.builtinFrame with
  | .ok checked _ => .ok checked
  | .error fault _ => .error fault

end ScriptLang
