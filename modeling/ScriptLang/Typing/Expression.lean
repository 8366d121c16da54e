import ScriptLang.Builtin
import ScriptLang.Decimal.Double
import ScriptLang.Scope.Chain
import ScriptLang.Tree.Basic

/-!
Checking expressions.

An expression is checked in a scope, and where its place expects a type, against the context
of that type.  The context matters in two places only: a list takes its element type from it,
and a whole list may stand where `Any` is expected.
-/

namespace ScriptLang

abbrev StaticScope := Chain Variable Callee

abbrev StaticFrame := Frame Variable Callee

namespace Typing

def builtinFrame : StaticFrame :=
  .ofFunctions (Builtin.all.map fun builtin => (builtin.signature.key, builtin.callee))

/-- Integers may be written up to 32 bits. -/
def integerLimit : Nat := 4294967296

def literalTy (value : Literal) (offset : Nat) : Except Fault Ty :=
  match value with
  | .nil => .ok .nil
  | .boolean _ => .ok .boolean
  | .character _ => .ok .character
  | .string _ => .ok .string
  | .integer value =>
      if value.natAbs < integerLimit then .ok .integer
      else .error { cause := .integerOutOfRange (toString value), offset := offset }
  | .decimal value =>
      if value.fitsDouble then .ok .decimal
      else .error { cause := .decimalOutOfRange value.plain, offset := offset }

def requireSame (left right : Ty) (offset : Nat) : Except Fault Unit :=
  if left = right then .ok ()
  else .error { cause := .typeMatchError left.name right.name, offset := offset }

def requireNumeric (ty : Ty) (offset : Nat) : Except Fault Unit :=
  if ty.isNumeric then .ok ()
  else .error { cause := .typeMatchError "Integer or Decimal" ty.name, offset := offset }

def binaryTy (op : BinaryOp) (left right : Ty) (leftOffset rightOffset : Nat) :
    Except Fault Ty :=
  match op with
  | .and | .or => do
      Ty.boolean.require left leftOffset
      Ty.boolean.require right rightOffset
      return .boolean
  | .less | .greater | .equals | .notEquals => do
      Ty.comparable.require left leftOffset
      Ty.comparable.require right rightOffset
      requireSame left right rightOffset
      return .boolean
  | .add =>
      if left = .string ∨ right = .string then
        return .string
      else do
        requireNumeric left leftOffset
        requireSame left right rightOffset
        return left
  | .power => do
      Ty.integer.require left leftOffset
      Ty.integer.require right rightOffset
      return .integer
  | .subtract | .multiply | .divide => do
      requireNumeric left leftOffset
      requireSame left right rightOffset
      return left

def wholeTy (target : Variable) (context : Option Ty) (offset : Nat) : Except Fault Ty :=
  if target.isList then
    if context = some .any then .ok .any
    else .error { cause := .listNotIndexed target.name, offset := offset }
  else
    .ok target.ty

def elementTy (target : Variable) (offset : Nat) : Except Fault Ty :=
  if target.isList then .ok target.ty
  else .error { cause := .notAList target.name, offset := offset }

mutual

/-- Checks an expression and decorates it; yields its type beside it. -/
def checkExpr (scope : StaticScope) (context : Option Ty) :
    Expr → Except Fault (Expr × Ty)
  | .literal value span _ => do
      let ty ← literalTy value span.start
      return (.literal value span (some ty), ty)
  | .group inner span _ => do
      let (inner, ty) ← checkExpr scope context inner
      return (.group inner span (some ty), ty)
  | .binary op left right span _ => do
      let (left, leftTy) ← checkExpr scope none left
      let (right, rightTy) ← checkExpr scope none right
      let ty ← binaryTy op leftTy rightTy left.start right.start
      return (.binary op left right span (some ty), ty)
  | .access name span _ _ => do
      let target ← scope.lookupVariable name span.start
      let ty ← wholeTy target context span.start
      return (.access name span (some ty) (some target), ty)
  | .element name index span _ _ => do
      let (index, indexTy) ← checkExpr scope none index
      Ty.integer.require indexTy index.start
      let target ← scope.lookupVariable name span.start
      let ty ← elementTy target span.start
      return (.element name index span (some ty) (some target), ty)
  | .call name arguments span _ _ => do
      let callee ← scope.lookupFunction (name, arguments.length) span.start
      let arguments ← checkArguments scope callee.signature.parameterTypes arguments
      let ty := callee.signature.returnType
      return (.call name arguments span (some ty) (some callee), ty)
  | .list elements span _ => do
      let ty := context.getD .any
      let elements ← checkElements scope ty elements
      return (.list elements span (some ty), ty)

def checkArguments (scope : StaticScope) : List Ty → List Expr → Except Fault (List Expr)
  | expected :: types, argument :: rest => do
      let (argument, received) ← checkExpr scope (some expected) argument
      if expected.accepts received then
        let rest ← checkArguments scope types rest
        return argument :: rest
      else
        throw {
          cause := .argumentTypeMatchError expected.name received.name
          offset := argument.start }
  | _, arguments => return arguments

def checkElements (scope : StaticScope) (expected : Ty) : List Expr → Except Fault (List Expr)
  | [] => return []
  | element :: rest => do
      let (element, received) ← checkExpr scope (some expected) element
      expected.require received element.start
      let rest ← checkElements scope expected rest
      return element :: rest

end

end Typing
end ScriptLang
