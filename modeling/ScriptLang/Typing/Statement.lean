import ScriptLang.Typing.Expression

/-!
Checking statements.

Every block is checked in a scope of its own.  Only a declaration changes the scope it stands
in, so a statement that is rejected leaves that scope as it was.
-/

namespace ScriptLang
namespace Typing

/-- Checks what a declaration binds and yields the type of the variable: the declared type, or
the type of the initial value where none is declared. -/
def checkBinding (scope : StaticScope) (typeName : Option String) (value : Option Expr)
    (offset : Nat) : Except Fault (Option Expr × Ty) :=
  match typeName, value with
  | some typeName, some value => do
      let declared ← Ty.resolve typeName offset
      let (value, received) ← checkExpr scope (some declared) value
      declared.require received value.start
      return (some value, declared)
  | some typeName, none => do
      let declared ← Ty.resolve typeName offset
      return (none, declared)
  | none, some value => do
      let (value, ty) ← checkExpr scope none value
      return (some value, ty)
  | none, none => throw { cause := .expectedExplicitValue, offset := offset }

def checkCondition (scope : StaticScope) (condition : Expr) : Except Fault Expr := do
  let (condition, ty) ← checkExpr scope none condition
  Ty.boolean.require ty condition.start
  return condition

def checkAgainst (scope : StaticScope) (expected : Ty) (value : Expr) : Except Fault Expr := do
  let (value, received) ← checkExpr scope (some expected) value
  expected.require received value.start
  return value

def requireMutable (target : Option Variable) (offset : Nat) : Except Fault Unit :=
  match target with
  | some target =>
      if target.mutable then .ok ()
      else .error { cause := .immutableAssignment target.name, offset := offset }
  | none => .ok ()

def targetOf : Expr → Option Variable
  | .access _ _ _ target => target
  | .element _ _ _ _ target => target
  | _ => none

def isAccess : Expr → Bool
  | .access _ _ _ _ | .element _ _ _ _ _ => true
  | _ => false

def isCall : Expr → Bool
  | .call _ _ _ _ _ => true
  | _ => false

def requireDefault (cases : List Case) (offset : Nat) : Except Fault Unit :=
  match cases.getLast? with
  | none => .error { cause := .missingDefaultCase, offset := offset }
  | some last =>
      if last.value.isNone then .ok ()
      else .error { cause := .missingDefaultCase, offset := last.span.start }

mutual

def checkStmt (scope : StaticScope) : Stmt → Except Fault (Stmt × StaticScope)
  | .expression value span =>
      if isCall value then do
        let (value, _) ← checkExpr scope none value
        return (.expression value span, scope)
      else
        throw { cause := .invalidExpressionStatement, offset := span.start }
  | .declaration name typeName value span _ => do
      let (value, ty) ← checkBinding scope typeName value span.start
      let target := Variable.plain name ty true false
      let scope ← scope.defineVariable name target span.start
      return (.declaration name typeName value span (some target), scope)
  | .assignment receiver value span =>
      if isAccess receiver then do
        let (receiver, expected) ← checkExpr scope none receiver
        requireMutable (targetOf receiver) span.start
        let value ← checkAgainst scope expected value
        return (.assignment receiver value span, scope)
      else
        throw { cause := .invalidAssignmentTarget, offset := span.start }
  | .conditional condition thenBlock elseBlock span =>
      if thenBlock.isEmpty then
        throw { cause := .emptyThenBlock, offset := span.start }
      else do
        let condition ← checkCondition scope condition
        let thenBlock ← checkBlock scope.child thenBlock
        let elseBlock ← checkBlock scope.child elseBlock
        return (.conditional condition thenBlock elseBlock span, scope)
  | .switch condition cases span => do
      let (condition, expected) ← checkExpr scope none condition
      requireDefault cases span.start
      let cases ← checkCases scope expected cases
      return (.switch condition cases span, scope)
  | .loop condition body span => do
      let condition ← checkCondition scope condition
      let body ← checkBlock scope.child body
      return (.loop condition body span, scope)
  | .result value span =>
      match scope.returnType? with
      | none => throw { cause := .returnOutsideFunction, offset := span.start }
      | some expected => do
          let value ← checkAgainst scope expected value
          return (.result value span, scope)

def checkBlock (scope : StaticScope) : List Stmt → Except Fault (List Stmt)
  | [] => return []
  | first :: rest => do
      let (first, scope) ← checkStmt scope first
      let rest ← checkBlock scope rest
      return first :: rest

def checkCases (scope : StaticScope) (expected : Ty) : List Case → Except Fault (List Case)
  | [] => return []
  | first :: rest => do
      let first ← checkCase scope expected first
      let rest ← checkCases scope expected rest
      return first :: rest

def checkCase (scope : StaticScope) (expected : Ty) : Case → Except Fault Case
  | .mk none body span => do
      let body ← checkBlock scope.child body
      return .mk none body span
  | .mk (some value) body span => do
      let (value, received) ← checkExpr scope none value
      expected.require received value.start
      let body ← checkBlock scope.child body
      return .mk (some value) body span

end

end Typing
end ScriptLang
