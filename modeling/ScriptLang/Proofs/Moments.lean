import Mathlib.Logic.Relation
import ScriptLang.Evaluation.Source

/-!
The moments of a run.

A run evaluates a program, and for that its globals and bodies, and for those their statements
and expressions, part by part.  A moment of the run is one at which the evaluation of a part
begins; the state changes only between such moments and the ends of the parts.
-/

namespace ScriptLang

inductive Task where
  | source (source : Source)
  | globals (globals : List GlobalDecl)
  | functions (functions : List FunctionDecl)
  | call (function : Function) (arguments : List Value) (offset : Nat)
  | block (statements : List Stmt)
  | statement (statement : Stmt)
  | cases (subject : Value) (cases : List Case)
  | rounds (count : Nat) (test : Expr) (body : List Stmt)
  | expression (e : Expr)
  | expressions (es : List Expr)

namespace Eval

/-- Evaluates a task for its effect alone. -/
def task (fuel : Nat) : Task → Eval Unit
  | .source source => do let _ ← program fuel source
  | .globals globals => defineGlobals fuel globals
  | .functions functions => defineFunctions functions
  | .call function arguments offset => do let _ ← invoke fuel function arguments offset
  | .block statements => do let _ ← block (invoke fuel) fuel statements
  | .statement statement => do let _ ← stmt (invoke fuel) fuel statement
  | .cases subject cases => do let _ ← firstCase (invoke fuel) fuel subject cases
  | .rounds count test body => do
      let _ ← rounds count (condition (invoke fuel) test)
        (inBlock (block (invoke fuel) fuel body))
  | .expression e => do let _ ← expr (invoke fuel) e
  | .expressions es => do let _ ← exprs (invoke fuel) es

end Eval

/-- The state inside a block that is opened in the given one. -/
def State.opened (state : State) : State :=
  { state with scope := state.scope.child }

/-- The state inside a call that is made in the given one. -/
def State.entered (state : State) (frame : RunFrame) : State :=
  { state with scope := { state.scope with locals := [frame] } }

open Eval in
/-- While a task is evaluated from a state on, the evaluation of another task, an immediate part
of it, begins in another state; both are inside the same call. -/
inductive Part (fuel : Nat) : Task → State → Task → State → Prop where
  | globals {source : Source} {state : State} :
      Part fuel (.source source) state (.globals source.globals) state
  | functions {source : Source} {state middle : State}
      (bound : defineGlobals fuel source.globals state = .ok () middle) :
      Part fuel (.source source) state (.functions source.functions) middle
  | main {source : Source} {state middle : State} {main : Function}
      (loaded : load fuel source state = .ok main middle) :
      Part fuel (.source source) state (.call main [] source.span.start) middle
  | global {first : GlobalDecl} {rest : List GlobalDecl} {state : State} {value : Expr}
      (initial : first.value = some value) :
      Part fuel (.globals (first :: rest)) state (.expression value) state
  | nextGlobals {first : GlobalDecl} {rest : List GlobalDecl} {state middle : State}
      (bound : defineGlobal fuel first state = .ok () middle) :
      Part fuel (.globals (first :: rest)) state (.globals rest) middle
  | nextFunctions {first : FunctionDecl} {rest : List FunctionDecl} {state middle : State}
      (bound : defineFunction (functionOf first) first.span.start state = .ok () middle) :
      Part fuel (.functions (first :: rest)) state (.functions rest) middle
  | firstStatement {first : Stmt} {rest : List Stmt} {state : State} :
      Part fuel (.block (first :: rest)) state (.statement first) state
  | nextStatements {first : Stmt} {rest : List Stmt} {state middle : State}
      (ended : stmt (invoke fuel) fuel first state = .ok .normal middle) :
      Part fuel (.block (first :: rest)) state (.block rest) middle
  | called {value : Expr} {span : Span} {state : State} :
      Part fuel (.statement (.expression value span)) state (.expression value) state
  | declared {name : String} {typeName : Option String} {value : Expr} {span : Span}
      {target : Option Variable} {state : State} :
      Part fuel (.statement (.declaration name typeName (some value) span target)) state
        (.expression value) state
  | assigned {name : String} {place span : Span} {ty : Option Ty} {target : Option Variable}
      {value : Expr} {state middle : State}
      (assignable : assignable name place.start span.start state = .ok () middle) :
      Part fuel (.statement (.assignment (.access name place ty target) value span)) state
        (.expression value) middle
  | position {name : String} {position : Expr} {place span : Span} {ty : Option Ty}
      {target : Option Variable} {value : Expr} {state middle : State}
      (assignable : assignable name place.start span.start state = .ok () middle) :
      Part fuel (.statement (.assignment (.element name position place ty target) value span))
        state (.expression position) middle
  | assignedElement {name : String} {position : Expr} {place span : Span} {ty : Option Ty}
      {target : Option Variable} {value : Expr} {i : Int} {state middle later : State}
      (assignable : assignable name place.start span.start state = .ok () middle)
      (indexed : index (invoke fuel) position middle = .ok i later) :
      Part fuel (.statement (.assignment (.element name position place ty target) value span))
        state (.expression value) later
  | test {test : Expr} {thenBlock elseBlock : List Stmt} {span : Span} {state : State} :
      Part fuel (.statement (.conditional test thenBlock elseBlock span)) state
        (.expression test) state
  | branch {test : Expr} {thenBlock elseBlock : List Stmt} {span : Span} {truth : Bool}
      {state middle : State}
      (tested : condition (invoke fuel) test state = .ok truth middle) :
      Part fuel (.statement (.conditional test thenBlock elseBlock span)) state
        (.block (if truth then thenBlock else elseBlock)) middle.opened
  | subject {subject : Expr} {cases : List Case} {span : Span} {state : State} :
      Part fuel (.statement (.switch subject cases span)) state (.expression subject) state
  | cases {subject : Expr} {cases : List Case} {span : Span} {value : Value}
      {state middle : State} (evaluated : expr (invoke fuel) subject state = .ok value middle) :
      Part fuel (.statement (.switch subject cases span)) state (.cases value cases) middle
  | rounds {test : Expr} {body : List Stmt} {span : Span} {state : State} :
      Part fuel (.statement (.loop test body span)) state (.rounds fuel test body) state
  | returned {value : Expr} {span : Span} {state : State} :
      Part fuel (.statement (.result value span)) state (.expression value) state
  | caseValue {subject : Value} {value : Expr} {body : List Stmt} {span : Span}
      {rest : List Case} {state : State} :
      Part fuel (.cases subject (.mk (some value) body span :: rest)) state
        (.expression value) state
  | chosen {subject : Value} {value : Option Expr} {body : List Stmt} {span : Span}
      {rest : List Case} {state middle : State}
      (matched : matchesCase (invoke fuel) subject value state = .ok true middle) :
      Part fuel (.cases subject (.mk value body span :: rest)) state (.block body) middle.opened
  | nextCases {subject : Value} {value : Option Expr} {body : List Stmt} {span : Span}
      {rest : List Case} {state middle : State}
      (matched : matchesCase (invoke fuel) subject value state = .ok false middle) :
      Part fuel (.cases subject (.mk value body span :: rest)) state (.cases subject rest) middle
  | roundTest {count : Nat} {test : Expr} {body : List Stmt} {state : State} :
      Part fuel (.rounds (count + 1) test body) state (.expression test) state
  | round {count : Nat} {test : Expr} {body : List Stmt} {state middle : State}
      (tested : condition (invoke fuel) test state = .ok true middle) :
      Part fuel (.rounds (count + 1) test body) state (.block body) middle.opened
  | nextRounds {count : Nat} {test : Expr} {body : List Stmt} {state middle later : State}
      (tested : condition (invoke fuel) test state = .ok true middle)
      (ended : inBlock (block (invoke fuel) fuel body) middle = .ok .normal later) :
      Part fuel (.rounds (count + 1) test body) state (.rounds count test body) later
  | group {inner : Expr} {span : Span} {ty : Option Ty} {state : State} :
      Part fuel (.expression (.group inner span ty)) state (.expression inner) state
  | left {op : BinaryOp} {left right : Expr} {span : Span} {ty : Option Ty} {state : State} :
      Part fuel (.expression (.binary op left right span ty)) state (.expression left) state
  | right {op : BinaryOp} {left right : Expr} {span : Span} {ty : Option Ty} {leftValue : Value}
      {state middle : State}
      (evaluated : expr (invoke fuel) left state = .ok leftValue middle)
      (needed : op.isLogical = true → leftValue = .boolean (op == .and)) :
      Part fuel (.expression (.binary op left right span ty)) state (.expression right) middle
  | index {name : String} {index : Expr} {span : Span} {ty : Option Ty}
      {target : Option Variable} {cell : Cell} {state middle : State}
      (found : lookupVariable name span.start state = .ok cell middle) :
      Part fuel (.expression (.element name index span ty target)) state
        (.expression index) middle
  | arguments {name : String} {arguments : List Expr} {span : Span} {ty : Option Ty}
      {callee : Option Callee} {state : State} :
      Part fuel (.expression (.call name arguments span ty callee)) state
        (.expressions arguments) state
  | call {name : String} {arguments : List Expr} {span : Span} {ty : Option Ty}
      {callee : Option Callee} {values : List Value} {function : Function}
      {state middle later : State}
      (evaluated : exprs (invoke fuel) arguments state = .ok values middle)
      (found : lookupFunction (name, values.length) span.start middle = .ok function later) :
      Part fuel (.expression (.call name arguments span ty callee)) state
        (.call function values span.start) later
  | elements {elements : List Expr} {span : Span} {ty : Option Ty} {state : State} :
      Part fuel (.expression (.list elements span ty)) state (.expressions elements) state
  | first {first : Expr} {rest : List Expr} {state : State} :
      Part fuel (.expressions (first :: rest)) state (.expression first) state
  | others {first : Expr} {rest : List Expr} {value : Value} {state middle : State}
      (evaluated : expr (invoke fuel) first state = .ok value middle) :
      Part fuel (.expressions (first :: rest)) state (.expressions rest) middle

/-- A moment of a run: what is evaluated from it on, the fuel left for that, and the state.
The blocks of callers are suspended. -/
structure Moment where
  task : Task
  fuel : Nat
  suspended : List RunFrame
  state : State

namespace Moment

open Eval in
/-- The second moment is reached while the task of the first one is evaluated, and begins a part
of that task or the body of the called function. -/
inductive Enters : Moment → Moment → Prop where
  | part {moment : Moment} {task : Task} {state : State}
      (part : Part moment.fuel moment.task moment.state task state) :
      Enters moment { moment with task := task, state := state }
  | body {function : Function} {declaration : FunctionDecl} {arguments : List Value}
      {offset fuel : Nat} {suspended : List RunFrame} {frame : RunFrame} {state : State}
      (bodyEq : function.body = .declared declaration)
      (bound : bindArguments declaration.span.start
        { Frame.empty with returnType := some function.signature.returnType }
        (declaration.parameters.zip (arguments.zip function.signature.parameterTypes)) =
          .ok frame) :
      Enters
        { task := .call function arguments offset
          fuel := fuel + 1
          suspended := suspended
          state := state }
        { task := .block declaration.body
          fuel := fuel
          suspended := state.scope.locals ++ suspended
          state := state.entered frame }

/-- The state in which the evaluation of the task ends, whether it fails or not. -/
def last (moment : Moment) : State :=
  match Eval.task moment.fuel moment.task moment.state with
  | .ok _ state => state
  | .error _ state => state

/-- A variable that lives when the evaluation of the task begins, or when it ends. -/
def Lives (moment : Moment) (cell : Cell) : Prop :=
  ∃ state, (state = moment.state ∨ state = moment.last) ∧
    ∃ frame ∈ state.scope.frames ++ moment.suspended, ∃ name,
      frame.findVariable? name = some cell

end Moment

/-- The moments of a run of a program. -/
def Source.Reaches (source : Source) (fuel : Nat) (sink : Sink) : Moment → Prop :=
  Relation.ReflTransGen Moment.Enters
    { task := .source source, fuel := fuel, suspended := [], state := .initial sink }

end ScriptLang
