import ScriptLang.Parse.Expression

/-!
Reading statements.

A statement is told by its first word; any other one is an expression, or an assignment when
an equals sign follows.
-/

namespace ScriptLang
namespace Parse

def typeAnnotation : Parse (Option String) := do
  if (← currentKind) = .colon then
    let _ ← advance
    return some (← identifier "as type name")
  else
    return none

def initializerWithin (fuel : Nat) : Parse (Option Expr) := do
  if (← currentKind) = .assignment then
    let _ ← advance
    return some (← expressionWithin fuel .default)
  else
    return none

def declarationWithin (fuel : Nat) : Parse Stmt := do
  let start := (← expect .letWord).span.start
  let name ← identifier "during variable declaration"
  let typeName ← typeAnnotation
  let value ← initializerWithin fuel
  let _ ← expect .semicolon
  return .declaration name typeName value (← spanFrom start) none

def resultWithin (fuel : Nat) : Parse Stmt := do
  let start := (← expect .returnWord).span.start
  let value ← expressionWithin fuel .default
  let _ ← expect .semicolon
  return .result value (← spanFrom start)

def simpleStatementWithin (fuel : Nat) : Parse Stmt := do
  let start ← offset
  let first ← expressionWithin fuel .default
  if (← currentKind) = .assignment then
    let _ ← advance
    let value ← expressionWithin fuel .default
    let _ ← expect .semicolon
    return .assignment first value (← spanFrom start)
  else
    let _ ← expect .semicolon
    return .expression first (← spanFrom start)

mutual

def statementWithin : Nat → Parse Stmt
  | 0 => unexpected
  | fuel + 1 => do
      match ← currentKind with
      | .letWord => declarationWithin fuel
      | .switchWord => switchWithin fuel
      | .ifWord => conditionalWithin fuel
      | .whileWord => loopWithin fuel
      | .returnWord => resultWithin fuel
      | _ => simpleStatementWithin fuel

/-- The statements before one of the closing words, which is not passed. -/
def blockWithin : Nat → List Kind → Parse (List Stmt)
  | 0, _ => unexpected
  | fuel + 1, closing => do
      if closing.contains (← currentKind) then
        return []
      else if ← hasTokens then
        let first ← statementWithin fuel
        let others ← blockWithin fuel closing
        return first :: others
      else
        complain "block is never closed"

def switchWithin : Nat → Parse Stmt
  | 0 => unexpected
  | fuel + 1 => do
      let start := (← expect .switchWord).span.start
      let condition ← expressionWithin fuel .default
      let cases ← casesWithin fuel
      let _ ← expect .endWord
      return .switch condition cases (← spanFrom start)

/-- The cases with a value, then the default case. -/
def casesWithin : Nat → Parse (List Case)
  | 0 => unexpected
  | fuel + 1 => do
      if (← currentKind) = .caseWord then
        let start := (← advance).span.start
        let value ← expressionWithin fuel .default
        let _ ← expect .colon
        let body ← blockWithin fuel [.caseWord, .defaultWord]
        let first := Case.mk (some value) body (← spanFrom start)
        let others ← casesWithin fuel
        return first :: others
      else
        let start := (← expect .defaultWord).span.start
        let body ← blockWithin fuel [.endWord]
        return [.mk none body (← spanFrom start)]

def conditionalWithin : Nat → Parse Stmt
  | 0 => unexpected
  | fuel + 1 => do
      let start := (← expect .ifWord).span.start
      let condition ← expressionWithin fuel .default
      let _ ← expect .doWord
      let thenBlock ← blockWithin fuel [.elseWord, .endWord]
      let elseBlock ← alternativeWithin fuel
      let _ ← expect .endWord
      return .conditional condition thenBlock elseBlock (← spanFrom start)

def alternativeWithin : Nat → Parse (List Stmt)
  | 0 => unexpected
  | fuel + 1 => do
      if (← currentKind) = .elseWord then
        let _ ← advance
        blockWithin fuel [.endWord]
      else
        return []

def loopWithin : Nat → Parse Stmt
  | 0 => unexpected
  | fuel + 1 => do
      let start := (← expect .whileWord).span.start
      let condition ← expressionWithin fuel .default
      let _ ← expect .doWord
      let body ← blockWithin fuel [.endWord]
      let _ ← expect .endWord
      return .loop condition body (← spanFrom start)

end

/-! ### Readers that bring their own fuel -/

def statement : Parse Stmt :=
  fuelled statementWithin

def declaration : Parse Stmt :=
  fuelled declarationWithin

def result : Parse Stmt :=
  fuelled resultWithin

def switch : Parse Stmt :=
  fuelled switchWithin

def conditional : Parse Stmt :=
  fuelled conditionalWithin

def loop : Parse Stmt :=
  fuelled loopWithin

end Parse
end ScriptLang
