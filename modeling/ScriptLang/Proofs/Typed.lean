import ScriptLang.Proofs.Discipline
import ScriptLang.Typing.Source

/-!
Typed trees.

The rules say which decorated trees are typed in which scope, and what their decorations are.
They have no rule for a list literal: one stands only where a list is declared, and is typed
there.  Inside a function the scope is a frame on top of outer scopes; a statement changes the
frame alone.
-/

namespace ScriptLang

variable (D : Discipline)

mutual

/-- A decorated expression and its type, in a scope, where its place expects `context`. -/
inductive ExprTyped (scope : StaticScope) : Option Ty → Expr → Ty → Prop where
  | literal {context : Option Ty} {value : Literal} {span : Span} {ty : Ty} {offset : Nat}
      (inRange : Typing.literalTy value offset = .ok ty) :
      ExprTyped scope context (.literal value span (some ty)) ty
  | group {context : Option Ty} {inner : Expr} {span : Span} {ty : Ty}
      (innerTyped : ExprTyped scope context inner ty) :
      ExprTyped scope context (.group inner span (some ty)) ty
  | binary {context : Option Ty} {op : BinaryOp} {left right : Expr} {span : Span}
      {leftTy rightTy ty : Ty}
      (leftTyped : ExprTyped scope none left leftTy)
      (rightTyped : ExprTyped scope none right rightTy)
      (rule : OperatorTyped op leftTy rightTy ty) :
      ExprTyped scope context (.binary op left right span (some ty)) ty
  | access {context : Option Ty} {name : String} {span : Span} {ty : Ty} {target : Variable}
      {offset : Nat} (bound : scope.findVariable? name = some target)
      (whole : Typing.wholeTy target context offset = .ok ty) :
      ExprTyped scope context (.access name span (some ty) (some target)) ty
  | element {context : Option Ty} {name : String} {index : Expr} {span : Span}
      {target : Variable} (indexTyped : ExprTyped scope none index .integer)
      (bound : scope.findVariable? name = some target) (isList : target.isList = true) :
      ExprTyped scope context (.element name index span (some target.ty) (some target))
        target.ty
  | call {context : Option Ty} {name : String} {arguments : List Expr} {span : Span}
      {callee : Callee} (bound : scope.findFunction? (name, arguments.length) = some callee)
      (argumentsTyped : ExprsTyped scope callee.signature.parameterTypes arguments) :
      ExprTyped scope context
        (.call name arguments span (some callee.signature.returnType) (some callee))
        callee.signature.returnType

inductive ExprsTyped (scope : StaticScope) : List Ty → List Expr → Prop where
  | nil : ExprsTyped scope [] []
  | cons {expected received : Ty} {types : List Ty} {first : Expr} {rest : List Expr}
      (firstTyped : ExprTyped scope (some expected) first received)
      (accepts : D.Accepts expected received) (restTyped : ExprsTyped scope types rest) :
      ExprsTyped scope (expected :: types) (first :: rest)

end

inductive BindingTyped (scope : StaticScope) : Option Expr → Ty → Prop where
  | inferred {value : Expr} {ty : Ty} (typed : ExprTyped D scope none value ty) :
      BindingTyped scope (some value) ty
  | given {value : Expr} {ty received : Ty} (named : D.names ty)
      (typed : ExprTyped D scope (some ty) value received) (accepts : D.Accepts ty received) :
      BindingTyped scope (some value) ty
  | blank {ty : Ty} (named : D.names ty) (blank : D.blank ty) : BindingTyped scope none ty

mutual

/-- A decorated statement of a function that returns `returns`, and the frame behind it. -/
inductive StmtTyped (returns : Ty) :
    StaticScope → StaticFrame → Stmt → StaticFrame → Prop where
  | expression {outer : StaticScope} {frame : StaticFrame} {value : Expr} {span : Span} {ty : Ty}
      (typed : ExprTyped D (outer.push frame) none value ty) :
      StmtTyped returns outer frame (.expression value span) frame
  | declaration {outer : StaticScope} {frame : StaticFrame} {name : String}
      {typeName : Option String} {value : Option Expr} {span : Span} {ty : Ty}
      (typed : BindingTyped D (outer.push frame) value ty)
      (unbound : frame.findVariable? name = none) :
      StmtTyped returns outer frame
        (.declaration name typeName value span (some (.plain name ty true false)))
        (frame.addVariable name (.plain name ty true false))
  | assignWhole {outer : StaticScope} {frame : StaticFrame} {name : String} {place span : Span}
      {target : Variable} {value : Expr} {received : Ty}
      (bound : (outer.push frame).findVariable? name = some target)
      (isSingle : target.isList = false) (isMutable : target.mutable = true)
      (typed : ExprTyped D (outer.push frame) (some target.ty) value received)
      (accepts : D.Accepts target.ty received) :
      StmtTyped returns outer frame
        (.assignment (.access name place (some target.ty) (some target)) value span) frame
  | assignElement {outer : StaticScope} {frame : StaticFrame} {name : String} {index : Expr}
      {place span : Span} {target : Variable} {value : Expr} {received : Ty}
      (indexTyped : ExprTyped D (outer.push frame) none index .integer)
      (bound : (outer.push frame).findVariable? name = some target)
      (isList : target.isList = true) (isMutable : target.mutable = true)
      (typed : ExprTyped D (outer.push frame) (some target.ty) value received)
      (accepts : D.Accepts target.ty received) :
      StmtTyped returns outer frame
        (.assignment (.element name index place (some target.ty) (some target)) value span) frame
  | conditional {outer : StaticScope} {frame : StaticFrame} {condition : Expr}
      {thenBlock elseBlock : List Stmt} {span : Span}
      (conditionTyped : ExprTyped D (outer.push frame) none condition .boolean)
      (thenTyped : BlockTyped returns (outer.push frame) .empty thenBlock)
      (elseTyped : BlockTyped returns (outer.push frame) .empty elseBlock) :
      StmtTyped returns outer frame (.conditional condition thenBlock elseBlock span) frame
  | switch {outer : StaticScope} {frame : StaticFrame} {subject : Expr} {cases : List Case}
      {span : Span} {ty : Ty} (subjectTyped : ExprTyped D (outer.push frame) none subject ty)
      (casesTyped : CasesTyped returns (outer.push frame) cases) :
      StmtTyped returns outer frame (.switch subject cases span) frame
  | loop {outer : StaticScope} {frame : StaticFrame} {condition : Expr} {body : List Stmt}
      {span : Span} (conditionTyped : ExprTyped D (outer.push frame) none condition .boolean)
      (bodyTyped : BlockTyped returns (outer.push frame) .empty body) :
      StmtTyped returns outer frame (.loop condition body span) frame
  | result {outer : StaticScope} {frame : StaticFrame} {value : Expr} {span : Span}
      {received : Ty} (typed : ExprTyped D (outer.push frame) (some returns) value received)
      (accepts : D.Accepts returns received) :
      StmtTyped returns outer frame (.result value span) frame

inductive BlockTyped (returns : Ty) : StaticScope → StaticFrame → List Stmt → Prop where
  | nil {outer : StaticScope} {frame : StaticFrame} : BlockTyped returns outer frame []
  | cons {outer : StaticScope} {frame next : StaticFrame} {first : Stmt} {rest : List Stmt}
      (firstTyped : StmtTyped returns outer frame first next)
      (restTyped : BlockTyped returns outer next rest) :
      BlockTyped returns outer frame (first :: rest)

inductive CasesTyped (returns : Ty) : StaticScope → List Case → Prop where
  | nil {scope : StaticScope} : CasesTyped returns scope []
  | value {scope : StaticScope} {value : Expr} {body : List Stmt} {span : Span} {ty : Ty}
      {rest : List Case} (valueTyped : ExprTyped D scope none value ty)
      (bodyTyped : BlockTyped returns scope .empty body)
      (restTyped : CasesTyped returns scope rest) :
      CasesTyped returns scope (.mk (some value) body span :: rest)
  | default {scope : StaticScope} {body : List Stmt} {span : Span} {rest : List Case}
      (bodyTyped : BlockTyped returns scope .empty body)
      (restTyped : CasesTyped returns scope rest) :
      CasesTyped returns scope (.mk none body span :: rest)

end

def Stmt.isResult : Stmt → Bool
  | .result _ _ => true
  | _ => false

def endsWithResult : List Stmt → Bool
  | [] => false
  | [last] => last.isResult
  | _ :: second :: rest => endsWithResult (second :: rest)

/-- What stands behind a signature, where the globals are as given. -/
inductive BodyTyped (globals : StaticFrame) : Signature → Body → Prop where
  | builtin (builtin : Builtin) : BodyTyped globals builtin.signature (.builtin builtin)
  | declared {declaration : FunctionDecl} {types : List Ty} {returns : Ty} {frame : StaticFrame}
      (arity : types.length = declaration.parameters.length)
      (typesNamed : ∀ ty ∈ types, D.names ty) (returnsNamed : D.names returns)
      (bound : Typing.bindParameters declaration.span.start
          ((Chain.ofGlobals globals).body returns) (declaration.parameters.zip types) =
        .ok ((Chain.ofGlobals globals).push frame))
      (typed : BlockTyped D returns (Chain.ofGlobals globals) frame declaration.body)
      (ends : D.blank returns ∨ endsWithResult declaration.body = true) :
      BodyTyped globals (.plain declaration.name types returns) (.declared declaration)

/-- A decorated global and its variable, where the globals before it are as given. -/
inductive GlobalTyped (globals : StaticFrame) (global : GlobalDecl) : Variable → Prop where
  | list {elements : List Expr} {span : Span} {ty : Ty} (isList : global.isList = true)
      (initial : global.value = some (.list elements span (some ty))) (named : D.names ty)
      (sized : D.sizes (.plain global.name ty global.mutable true) elements.length)
      (typed : ExprsTyped D (.ofGlobals globals) (List.replicate elements.length ty) elements) :
      GlobalTyped globals global (.plain global.name ty global.mutable true)
  | single {ty : Ty} (isSingle : global.isList = false)
      (typed : BindingTyped D (.ofGlobals globals) global.value ty) :
      GlobalTyped globals global (.plain global.name ty global.mutable false)

inductive GlobalsTyped : StaticFrame → List GlobalDecl → StaticFrame → Prop where
  | nil {globals : StaticFrame} : GlobalsTyped globals [] globals
  | cons {globals last : StaticFrame} {first : GlobalDecl} {rest : List GlobalDecl}
      {target : Variable} (firstTyped : GlobalTyped D globals first target)
      (decorated : first.target = some target)
      (unbound : globals.findVariable? first.name = none)
      (restTyped : GlobalsTyped (globals.addVariable first.name target) rest last) :
      GlobalsTyped globals (first :: rest) last

inductive FunctionsDeclared : StaticFrame → List FunctionDecl → StaticFrame → Prop where
  | nil {globals : StaticFrame} : FunctionsDeclared globals [] globals
  | cons {globals last : StaticFrame} {first : FunctionDecl} {rest : List FunctionDecl}
      {callee : Callee} (decorated : first.callee = some callee)
      (named : callee.signature.name = first.name)
      (plain : callee.signature.qualifiedName = first.name)
      (unbound : globals.findFunction? callee.signature.key = none)
      (restDeclared :
        FunctionsDeclared (globals.addFunction callee.signature.key callee) rest last) :
      FunctionsDeclared globals (first :: rest) last

/-- A decorated program, given the frame of its globals before the functions are declared and
the frame with all of them. -/
structure SourceTyped (source : Source) (early globals : StaticFrame) : Prop where
  globalsTyped : GlobalsTyped D Typing.builtinFrame source.globals early
  declared : FunctionsDeclared early source.functions globals
  bodies : ∀ function ∈ source.functions, ∀ callee, function.callee = some callee →
    BodyTyped D globals callee.signature (.declared function)
  main : ∃ callee, (Chain.ofGlobals globals).findFunction? ("main", 0) = some callee ∧
    callee.signature.parameterTypes = [] ∧ callee.signature.returnType = .integer

/-! ### What a discipline asks of annotations -/

/-- A discipline that asks nothing of a program but that its annotations suit. -/
structure Discipline.Liberal : Prop where
  admits : ∀ target source, D.admits target source
  sizes : ∀ target count, D.sizes target count

mutual

def Stmt.declarations : Stmt → List (Option String × Option Expr)
  | .declaration _ typeName value _ _ => [(typeName, value)]
  | .conditional _ thenBlock elseBlock _ =>
      blockDeclarations thenBlock ++ blockDeclarations elseBlock
  | .switch _ cases _ => casesDeclarations cases
  | .loop _ body _ => blockDeclarations body
  | .expression _ _ | .assignment _ _ _ | .result _ _ => []

def blockDeclarations : List Stmt → List (Option String × Option Expr)
  | [] => []
  | first :: rest => first.declarations ++ blockDeclarations rest

def casesDeclarations : List Case → List (Option String × Option Expr)
  | [] => []
  | .mk _ body _ :: rest => blockDeclarations body ++ casesDeclarations rest

end

/-- The type that a declaration names is one for variables, and one that may stay blank if the
declaration has no initial value. -/
def Discipline.Suits (declaration : Option String × Option Expr) : Prop :=
  ∀ name ty, declaration.1 = some name → Ty.ofName? name = some ty →
    D.names ty ∧ (declaration.2 = none → D.blank ty)

/-- The annotations of a program name types that variables and results may have, and functions
whose type is not blank end with a result. -/
structure Discipline.SuitsSource (source : Source) : Prop where
  globals : ∀ global ∈ source.globals, D.Suits (global.typeName, global.value)
  declarations : ∀ function ∈ source.functions, ∀ declaration ∈ blockDeclarations function.body,
    D.Suits declaration
  parameters : ∀ function ∈ source.functions, ∀ parameter ∈ function.parameters, ∀ ty,
    Ty.ofName? parameter.typeName = some ty → D.names ty
  results : ∀ function ∈ source.functions, ∀ returns,
    Typing.resolveReturn function.returnTypeName function.span.start = .ok returns →
    D.names returns ∧ (D.blank returns ∨ endsWithResult function.body = true)

end ScriptLang
