import ScriptLang.Evaluation.Source
import ScriptLang.Parse.Source
import ScriptLang.Program
import ScriptLang.Typing.Source

/-!
Interactive sessions.

A session checks and runs pieces of program text one after the other.  Checking has a current
static scope and running has a current scope of its own; whole programs run over a third set
of globals, which outlives each of them.  A step that fails keeps what it had done before.
-/

namespace ScriptLang

structure Session where
  /-- The current static scope, over the globals of checking. -/
  static : StaticScope
  /-- The globals of the programs that were loaded. -/
  globals : RunFrame
  /-- The current scope of single statements and expressions. -/
  dynamic : RunScope
  main : Option Function
  sink : Sink
  deriving Inhabited

abbrev Interaction (α : Type) := EStateM Stop Session α

namespace Session

def start (sink : Sink) : Session :=
  { static := .ofGlobals Typing.builtinFrame
    globals := State.builtinFrame
    dynamic := .ofGlobals State.builtinFrame
    main := none
    sink := sink }

def ofExcept {α : Type} : Except Fault α → Interaction α
  | .ok value => return value
  | .error fault => throw (.fault fault)

def read {α : Type} (reader : Parse α) (text : String) : Interaction α := do
  let tokens ← ofExcept (Token.scan text)
  ofExcept (Parse.ofTokens reader tokens)

def readProgram (text : String) (checked : Bool) : Interaction Source := do
  let source ← ofExcept (Source.parse text)
  if checked then ofExcept source.check else return source

/-! ### Checking -/

/-- A step of checking that may bind something in the static scope.  One that fails has bound
nothing there (`Typing.checkStmtIn_mirrors`). -/
def checking {α : Type} (step : StaticScope → Except Fault (α × StaticScope)) :
    Interaction α := do
  let session ← get
  let (value, scope) ← ofExcept (step session.static)
  set { session with static := scope }
  return value

def checkStatement (text : String) : Interaction Stmt := do
  let statement ← read Parse.statement text
  checking (Typing.checkStmt · statement)

def checkExpression (text : String) : Interaction Expr := do
  let expression ← read (Parse.expression .default) text
  let (expression, _) ← ofExcept (Typing.checkExpr (← get).static none expression)
  return expression

def checkGlobal (text : String) : Interaction GlobalDecl := do
  let global ← read Parse.global text
  checking (Typing.checkGlobal · global)

def declareFunction (text : String) : Interaction FunctionDecl := do
  let function ← read Parse.function text
  checking (Typing.declareFunction · function)

def checkFunction (text : String) : Interaction FunctionDecl := do
  let function ← read Parse.function text
  ofExcept (Typing.checkFunction (← get).static function)

def checkSource (text : String) : Interaction Unit := do
  let source ← ofExcept (Source.parse text)
  let session ← get
  match Typing.checkSource source session.static.globals with
  | .ok _ globals => set { session with static := { session.static with globals := globals } }
  | .error fault globals =>
      set { session with static := { session.static with globals := globals } }
      throw (.fault fault)

def enterStatic : Interaction Unit :=
  modify fun session => { session with static := session.static.child }

def enterStaticBody (returnType : Ty) : Interaction Unit :=
  modify fun session => { session with static := session.static.body returnType }

/-- Leaves the innermost static scope; the globals are never left. -/
def leaveStatic : Interaction Unit :=
  modify fun session => { session with static := session.static.parent?.getD session.static }

/-! ### Single statements and expressions -/

def running {α : Type} (step : Eval α) : Interaction α := fun session =>
  match step { scope := session.dynamic, sink := session.sink } with
  | .ok value state =>
      .ok value { session with dynamic := state.scope, sink := state.sink }
  | .error stop state =>
      .error stop { session with dynamic := state.scope, sink := state.sink }

def execute (fuel : Nat) (text : String) : Interaction Flow := do
  let statement ← read Parse.statement text
  running (Eval.stmt (Eval.invoke fuel) fuel statement)

def evaluate (fuel : Nat) (text : String) : Interaction Value := do
  let expression ← read (Parse.expression .default) text
  running (Eval.expr (Eval.invoke fuel) expression)

def enter : Interaction Unit :=
  modify fun session => { session with dynamic := session.dynamic.child }

def leave : Interaction Unit :=
  modify fun session => { session with dynamic := session.dynamic.parent?.getD session.dynamic }

def define (binding : Variable) (value : Value) (offset : Nat) : Interaction Variable := do
  running (Eval.defineVariable binding value offset)
  return binding

def defineSignature (signature : Signature) (offset : Nat) : Interaction Callee := do
  let function : Function := { signature := signature, body := .absent }
  running (Eval.defineFunction function offset)
  return function.callee

/-! ### Programs -/

/-- A step of evaluation over the globals of programs. -/
def overGlobals {α : Type} (step : Eval α) : Interaction α := fun session =>
  match step { scope := .ofGlobals session.globals, sink := session.sink } with
  | .ok value state =>
      .ok value { session with globals := state.scope.globals, sink := state.sink }
  | .error stop state =>
      .error stop { session with globals := state.scope.globals, sink := state.sink }

def load (fuel : Nat) (text : String) (checked : Bool) : Interaction Function := do
  let source ← readProgram text checked
  let main ← overGlobals (Eval.load fuel source)
  modify fun session => { session with main := some main }
  return main

def run (fuel : Nat) (text : String) (checked : Bool) : Interaction Value := do
  let source ← readProgram text checked
  overGlobals (Eval.program fuel source)

def invoke (fuel : Nat) (arguments : List Value) (offset : Nat) : Interaction Value := do
  match (← get).main with
  | some main => overGlobals (Eval.invoke fuel main arguments offset)
  | none => throw (.fault { cause := .missingMain, offset := offset })

/-- Forgets the globals of programs.  A remembered `main` loses its body with them. -/
def reset : Interaction Unit :=
  modify fun session =>
    { session with
      globals := State.builtinFrame
      main := session.main.map fun main => { main with body := .absent } }

end Session
end ScriptLang
