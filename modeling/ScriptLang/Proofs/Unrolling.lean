import ScriptLang.Parse.Source

/-!
Readers with their calls of each other taken out.

The readers of expressions, statements and declarations call each other, and every loop of the
parser is a reader that calls itself.  Here the readers that are called are given, so that one step
reads a construct down to the constructs in it, and steps are put on top of each other as often as
wanted.  The fuel of the parser counts these steps: with no fuel left, a reader fails at once.
-/

namespace ScriptLang
namespace Parse

/-- A reader for every construct that others are read with. -/
structure Readers where
  expression : Power → Parse Expr
  operators : Power → Expr → Parse Expr
  binary : Expr → Power → Parse Expr
  operand : Parse Expr
  symbol : Parse Expr
  group : Parse Expr
  items : Kind → Parse (List Expr)
  moreItems : Parse (List Expr)
  statement : Parse Stmt
  block : List Kind → Parse (List Stmt)
  switch : Parse Stmt
  cases : Parse (List Case)
  conditional : Parse Stmt
  alternative : Parse (List Stmt)
  loop : Parse Stmt
  moreParameters : Parse (List Parameter)
  globals : Parse (List GlobalDecl)
  functions : Parse (List FunctionDecl)

namespace Readers

/-! ### Constructs that are read with the given readers -/

section Constructs

variable (readers : Readers)

def expressionStep (power : Power) : Parse Expr := do
  let left ← readers.operand
  readers.operators power left

def operatorsStep (power : Power) (left : Expr) : Parse Expr := do
  let next := Power.ofKind (← currentKind)
  if next.rank ≤ power.rank then
    return left
  else
    let extended ← readers.binary left next
    readers.operators power extended

def binaryStep (left : Expr) (power : Power) : Parse Expr := do
  let token ← advance
  match BinaryOp.ofKind? token.kind with
  | none => throw (unexpectedFault token)
  | some op =>
      let right ← readers.expression power
      let span : Span := { start := left.span.start, stop := right.span.stop }
      return .binary op left right span none

def operandStep : Parse Expr := do
  match ← currentKind with
  | .integer | .decimal | .character | .string | .trueWord | .falseWord | .nilWord => primary
  | .identifier => readers.symbol
  | .openParen => readers.group
  | _ => unexpected

def symbolStep : Parse Expr := do
  let name ← expect .identifier
  match ← currentKind with
  | .openParen =>
      let _ ← advance
      let arguments ← readers.items .closeParen
      let _ ← expect .closeParen
      return .call name.value arguments (← spanFrom name.span.start) none none
  | .openBracket =>
      let _ ← advance
      let index ← readers.expression .default
      let _ ← expect .closeBracket
      return .element name.value index (← spanFrom name.span.start) none none
  | _ => return .access name.value name.span none none

def groupStep : Parse Expr := do
  let opening ← expect .openParen
  let inner ← readers.expression .default
  let _ ← expect .closeParen
  return .group inner (← spanFrom opening.span.start) none

def itemsStep (closing : Kind) : Parse (List Expr) := do
  if (← currentKind) = closing then
    return []
  else
    let first ← readers.expression .default
    let others ← readers.moreItems
    return first :: others

def moreItemsStep : Parse (List Expr) := do
  if (← currentKind) = .comma then
    let _ ← advance
    let first ← readers.expression .default
    let others ← readers.moreItems
    return first :: others
  else
    return []

def list : Parse Expr := do
  let opening ← expect .openBracket
  let elements ← readers.items .closeBracket
  let _ ← expect .closeBracket
  return .list elements (← spanFrom opening.span.start) none

def initializer : Parse (Option Expr) := do
  if (← currentKind) = .assignment then
    let _ ← advance
    return some (← readers.expression .default)
  else
    return none

def declaration : Parse Stmt := do
  let start := (← expect .letWord).span.start
  let name ← identifier "during variable declaration"
  let typeName ← typeAnnotation
  let value ← readers.initializer
  let _ ← expect .semicolon
  return .declaration name typeName value (← spanFrom start) none

def result : Parse Stmt := do
  let start := (← expect .returnWord).span.start
  let value ← readers.expression .default
  let _ ← expect .semicolon
  return .result value (← spanFrom start)

def simpleStatement : Parse Stmt := do
  let start ← offset
  let first ← readers.expression .default
  if (← currentKind) = .assignment then
    let _ ← advance
    let value ← readers.expression .default
    let _ ← expect .semicolon
    return .assignment first value (← spanFrom start)
  else
    let _ ← expect .semicolon
    return .expression first (← spanFrom start)

def statementStep : Parse Stmt := do
  match ← currentKind with
  | .letWord => readers.declaration
  | .switchWord => readers.switch
  | .ifWord => readers.conditional
  | .whileWord => readers.loop
  | .returnWord => readers.result
  | _ => readers.simpleStatement

def blockStep (closing : List Kind) : Parse (List Stmt) := do
  if closing.contains (← currentKind) then
    return []
  else if ← hasTokens then
    let first ← readers.statement
    let others ← readers.block closing
    return first :: others
  else
    complain "block is never closed"

def switchStep : Parse Stmt := do
  let start := (← expect .switchWord).span.start
  let condition ← readers.expression .default
  let cases ← readers.cases
  let _ ← expect .endWord
  return .switch condition cases (← spanFrom start)

def casesStep : Parse (List Case) := do
  if (← currentKind) = .caseWord then
    let start := (← advance).span.start
    let value ← readers.expression .default
    let _ ← expect .colon
    let body ← readers.block [.caseWord, .defaultWord]
    let first := Case.mk (some value) body (← spanFrom start)
    let others ← readers.cases
    return first :: others
  else
    let start := (← expect .defaultWord).span.start
    let body ← readers.block [.endWord]
    return [.mk none body (← spanFrom start)]

def conditionalStep : Parse Stmt := do
  let start := (← expect .ifWord).span.start
  let condition ← readers.expression .default
  let _ ← expect .doWord
  let thenBlock ← readers.block [.elseWord, .endWord]
  let elseBlock ← readers.alternative
  let _ ← expect .endWord
  return .conditional condition thenBlock elseBlock (← spanFrom start)

def alternativeStep : Parse (List Stmt) := do
  if (← currentKind) = .elseWord then
    let _ ← advance
    readers.block [.endWord]
  else
    return []

def loopStep : Parse Stmt := do
  let start := (← expect .whileWord).span.start
  let condition ← readers.expression .default
  let _ ← expect .doWord
  let body ← readers.block [.endWord]
  let _ ← expect .endWord
  return .loop condition body (← spanFrom start)

def globalBody (opening : Token) : Parse (Option String × Option Expr) := do
  match opening.kind with
  | .listWord =>
      let _ ← expect .colon
      let typeName ← identifier "as list element type"
      let _ ← expect .assignment
      return (some typeName, some (← readers.list))
  | .varWord =>
      let typeName ← typeAnnotation
      return (typeName, ← readers.initializer)
  | .valWord =>
      let typeName ← typeAnnotation
      let _ ← expectOr .assignment "expected rhs in constant definition"
      return (typeName, some (← readers.expression .default))
  | _ => throw (unexpectedFault opening)

def global : Parse GlobalDecl := do
  let opening ← advance
  let name ← identifier "during global declaration"
  let (typeName, value) ← readers.globalBody opening
  let _ ← expect .semicolon
  return {
    name := name
    mutable := opening.kind != .valWord
    isList := opening.kind == .listWord
    typeName := typeName
    value := value
    span := ← spanFrom opening.span.start
    target := none }

def moreParametersStep : Parse (List Parameter) := do
  if (← currentKind) = .comma then
    let _ ← advance
    let first ← parameter
    let others ← readers.moreParameters
    return first :: others
  else
    return []

def parameters : Parse (List Parameter) := do
  if (← currentKind) = .closeParen then
    return []
  else
    let first ← parameter
    let others ← readers.moreParameters
    return first :: others

def function : Parse FunctionDecl := do
  let start := (← expect .funWord).span.start
  let name ← identifier "as function name"
  let _ ← expect .openParen
  let parameters ← readers.parameters
  let _ ← expect .closeParen
  let returnTypeName ← typeAnnotation
  let _ ← expect .doWord
  let body ← readers.block [.endWord]
  let _ ← expect .endWord
  return {
    name := name
    parameters := parameters
    returnTypeName := returnTypeName
    body := body
    span := ← spanFrom start
    callee := none }

def globalsStep : Parse (List GlobalDecl) := do
  if startsGlobal (← currentKind) then
    let first ← readers.global
    let others ← readers.globals
    return first :: others
  else
    return []

def functionsStep : Parse (List FunctionDecl) := do
  if (← currentKind) = .funWord then
    let first ← readers.function
    let others ← readers.functions
    return first :: others
  else
    return []

def source : Parse Source := do
  let globals ← readers.globals
  let functions ← readers.functions
  if ← hasTokens then
    unexpected
  else
    return { globals := globals, functions := functions, span := ← spanFrom 0 }

/-- The readers that read constructs with the given ones. -/
def step : Readers :=
  { expression := readers.expressionStep
    operators := readers.operatorsStep
    binary := readers.binaryStep
    operand := readers.operandStep
    symbol := readers.symbolStep
    group := readers.groupStep
    items := readers.itemsStep
    moreItems := readers.moreItemsStep
    statement := readers.statementStep
    block := readers.blockStep
    switch := readers.switchStep
    cases := readers.casesStep
    conditional := readers.conditionalStep
    alternative := readers.alternativeStep
    loop := readers.loopStep
    moreParameters := readers.moreParametersStep
    globals := readers.globalsStep
    functions := readers.functionsStep }

def unrolled : Nat → Readers
  | 0 => readers
  | depth + 1 => (unrolled depth).step

end Constructs

/-! ### The readers of the parser -/

def within (fuel : Nat) : Readers :=
  { expression := expressionWithin fuel
    operators := operatorsWithin fuel
    binary := binaryWithin fuel
    operand := operandWithin fuel
    symbol := symbolWithin fuel
    group := groupWithin fuel
    items := itemsWithin fuel
    moreItems := moreItemsWithin fuel
    statement := statementWithin fuel
    block := blockWithin fuel
    switch := switchWithin fuel
    cases := casesWithin fuel
    conditional := conditionalWithin fuel
    alternative := alternativeWithin fuel
    loop := loopWithin fuel
    moreParameters := moreParametersWithin fuel
    globals := globalsWithin fuel
    functions := functionsWithin fuel }

theorem within_succ (fuel : Nat) : within (fuel + 1) = (within fuel).step := by
  rfl

/-- The readers of the parser are so many steps on top of those that fail at once. -/
theorem within_eq_unrolled (fuel : Nat) : within fuel = (within 0).unrolled fuel := by
  induction fuel with
  | zero => rfl
  | succ fuel inductionHypothesis => rw [within_succ, inductionHypothesis, unrolled]

end Readers
end Parse
end ScriptLang
