import ScriptLang.Parse.Statement
import ScriptLang.Token.Scan

/-!
Reading programs: the globals, then the functions, then the end of the source.
-/

namespace ScriptLang
namespace Parse

def globalBodyWithin (fuel : Nat) (opening : Token) :
    Parse (Option String × Option Expr) := do
  match opening.kind with
  | .listWord =>
      let _ ← expect .colon
      let typeName ← identifier "as list element type"
      let _ ← expect .assignment
      return (some typeName, some (← listWithin fuel))
  | .varWord =>
      let typeName ← typeAnnotation
      return (typeName, ← initializerWithin fuel)
  | .valWord =>
      let typeName ← typeAnnotation
      let _ ← expectOr .assignment "expected rhs in constant definition"
      return (typeName, some (← expressionWithin fuel .default))
  | _ => throw (unexpectedFault opening)

/-- A global.  Its first token is passed whatever it is, and judged after the name. -/
def globalWithin (fuel : Nat) : Parse GlobalDecl := do
  let opening ← advance
  let name ← identifier "during global declaration"
  let (typeName, value) ← globalBodyWithin fuel opening
  let _ ← expect .semicolon
  return {
    name := name
    mutable := opening.kind != .valWord
    isList := opening.kind == .listWord
    typeName := typeName
    value := value
    span := ← spanFrom opening.span.start
    target := none }

def parameter : Parse Parameter := do
  let name ← identifier "as parameter name"
  let _ ← expect .colon
  let typeName ← identifier "as parameter type"
  return { name := name, typeName := typeName }

def moreParametersWithin : Nat → Parse (List Parameter)
  | 0 => unexpected
  | fuel + 1 => do
      if (← currentKind) = .comma then
        let _ ← advance
        let first ← parameter
        let others ← moreParametersWithin fuel
        return first :: others
      else
        return []

/-- The parameters before the closing parenthesis; there may be none. -/
def parametersWithin (fuel : Nat) : Parse (List Parameter) := do
  if (← currentKind) = .closeParen then
    return []
  else
    let first ← parameter
    let others ← moreParametersWithin fuel
    return first :: others

def functionWithin (fuel : Nat) : Parse FunctionDecl := do
  let start := (← expect .funWord).span.start
  let name ← identifier "as function name"
  let _ ← expect .openParen
  let parameters ← parametersWithin fuel
  let _ ← expect .closeParen
  let returnTypeName ← typeAnnotation
  let _ ← expect .doWord
  let body ← blockWithin fuel [.endWord]
  let _ ← expect .endWord
  return {
    name := name
    parameters := parameters
    returnTypeName := returnTypeName
    body := body
    span := ← spanFrom start
    callee := none }

def startsGlobal : Kind → Bool
  | .listWord | .varWord | .valWord => true
  | _ => false

def globalsWithin : Nat → Parse (List GlobalDecl)
  | 0 => unexpected
  | fuel + 1 => do
      if startsGlobal (← currentKind) then
        let first ← globalWithin fuel
        let others ← globalsWithin fuel
        return first :: others
      else
        return []

def functionsWithin : Nat → Parse (List FunctionDecl)
  | 0 => unexpected
  | fuel + 1 => do
      if (← currentKind) = .funWord then
        let first ← functionWithin fuel
        let others ← functionsWithin fuel
        return first :: others
      else
        return []

def sourceWithin (fuel : Nat) : Parse Source := do
  let globals ← globalsWithin fuel
  let functions ← functionsWithin fuel
  if ← hasTokens then
    unexpected
  else
    return { globals := globals, functions := functions, span := ← spanFrom 0 }

/-! ### Readers that bring their own fuel -/

def global : Parse GlobalDecl :=
  fuelled globalWithin

def function : Parse FunctionDecl :=
  fuelled functionWithin

def source : Parse Source :=
  fuelled sourceWithin

def ofTokens {α : Type} (reader : Parse α) (tokens : List Token) : Except Fault α :=
  match reader (Cursor.ofTokens tokens) with
  | .ok value _ => .ok value
  | .error fault _ => .error fault

end Parse

def Source.parse (text : String) : Except Fault Source := do
  Parse.ofTokens Parse.source (← Token.scan text)

end ScriptLang
