import ScriptLang.Evaluation.Source
import ScriptLang.Proofs.RelatedScopes
import ScriptLang.Typing.Statement

/-!
Trees that run alike, and states that they run alike in.

Two trees are alike when they differ in their decorations, in the types that are written in them,
in where they stand, and in groups that the second one has around expressions of the first;
`places` says which offsets may stand for each other.  Nothing that a run can show depends on the
rest.  The receiver of an assignment is not grouped, for only a name or an element of a list can be
assigned to.  States are alike when the same names are bound in them, to cells
with the same values and to functions with alike bodies, and when they have the same sink.  The
static types of their cells and functions may differ.
-/

namespace ScriptLang

variable (places : Nat → Nat → Prop)

/-! ### Trees -/

mutual

inductive ExprAlike : Expr → Expr → Prop where
  | literal (value : Literal) {span span' : Span} {ty ty' : Option Ty}
      (here : places span.start span'.start) :
      ExprAlike (.literal value span ty) (.literal value span' ty')
  | group {inner inner' : Expr} {span span' : Span} {ty ty' : Option Ty}
      (here : places span.start span'.start) (innerAlike : ExprAlike inner inner') :
      ExprAlike (.group inner span ty) (.group inner' span' ty')
  | wrapped {e inner : Expr} {span : Span} {ty : Option Ty} (here : places e.start span.start)
      (innerAlike : ExprAlike e inner) : ExprAlike e (.group inner span ty)
  | binary (op : BinaryOp) {left left' right right' : Expr} {span span' : Span}
      {ty ty' : Option Ty} (here : places span.start span'.start)
      (leftAlike : ExprAlike left left') (rightAlike : ExprAlike right right') :
      ExprAlike (.binary op left right span ty) (.binary op left' right' span' ty')
  | access (name : String) {span span' : Span} {ty ty' : Option Ty}
      {target target' : Option Variable} (here : places span.start span'.start) :
      ExprAlike (.access name span ty target) (.access name span' ty' target')
  | element (name : String) {index index' : Expr} {span span' : Span} {ty ty' : Option Ty}
      {target target' : Option Variable} (here : places span.start span'.start)
      (indexAlike : ExprAlike index index') :
      ExprAlike (.element name index span ty target) (.element name index' span' ty' target')
  | call (name : String) {arguments arguments' : List Expr} {span span' : Span}
      {ty ty' : Option Ty} {callee callee' : Option Callee}
      (here : places span.start span'.start) (argumentsAlike : ExprsAlike arguments arguments') :
      ExprAlike (.call name arguments span ty callee) (.call name arguments' span' ty' callee')
  | list {elements elements' : List Expr} {span span' : Span} {ty ty' : Option Ty}
      (here : places span.start span'.start) (elementsAlike : ExprsAlike elements elements') :
      ExprAlike (.list elements span ty) (.list elements' span' ty')

inductive ExprsAlike : List Expr → List Expr → Prop where
  | nil : ExprsAlike [] []
  | cons {first first' : Expr} {rest rest' : List Expr} (firstAlike : ExprAlike first first')
      (restAlike : ExprsAlike rest rest') : ExprsAlike (first :: rest) (first' :: rest')

end

variable {places} in
theorem ExprAlike.start {e e' : Expr} (alike : ExprAlike places e e') :
    places e.start e'.start := by
  cases alike with
  | literal _ here | group here | wrapped here | binary _ here | access _ here | element _ here
  | call _ here | list here =>
      exact here

mutual

inductive StmtAlike : Stmt → Stmt → Prop where
  | expression {value value' : Expr} {span span' : Span}
      (valueAlike : ExprAlike places value value') :
      StmtAlike (.expression value span) (.expression value' span')
  | declaration (name : String) {typeName typeName' : Option String} {value value' : Option Expr}
      {span span' : Span} {target target' : Option Variable}
      (here : places span.start span'.start)
      (valueAlike : Option.Rel (ExprAlike places) value value') :
      StmtAlike (.declaration name typeName value span target)
        (.declaration name typeName' value' span' target')
  | assignment {receiver receiver' value value' : Expr} {span span' : Span}
      (here : places span.start span'.start)
      (receiverAlike : ExprAlike places receiver receiver')
      (sameAccess : Typing.isAccess receiver = Typing.isAccess receiver')
      (valueAlike : ExprAlike places value value') :
      StmtAlike (.assignment receiver value span) (.assignment receiver' value' span')
  | conditional {test test' : Expr} {thenBlock thenBlock' elseBlock elseBlock' : List Stmt}
      {span span' : Span} (testAlike : ExprAlike places test test')
      (thenAlike : BlockAlike thenBlock thenBlock') (elseAlike : BlockAlike elseBlock elseBlock') :
      StmtAlike (.conditional test thenBlock elseBlock span)
        (.conditional test' thenBlock' elseBlock' span')
  | switch {subject subject' : Expr} {cases cases' : List Case} {span span' : Span}
      (subjectAlike : ExprAlike places subject subject') (casesAlike : CasesAlike cases cases') :
      StmtAlike (.switch subject cases span) (.switch subject' cases' span')
  | loop {test test' : Expr} {body body' : List Stmt} {span span' : Span}
      (testAlike : ExprAlike places test test') (bodyAlike : BlockAlike body body') :
      StmtAlike (.loop test body span) (.loop test' body' span')
  | result {value value' : Expr} {span span' : Span}
      (valueAlike : ExprAlike places value value') :
      StmtAlike (.result value span) (.result value' span')

inductive BlockAlike : List Stmt → List Stmt → Prop where
  | nil : BlockAlike [] []
  | cons {first first' : Stmt} {rest rest' : List Stmt} (firstAlike : StmtAlike first first')
      (restAlike : BlockAlike rest rest') : BlockAlike (first :: rest) (first' :: rest')

inductive CasesAlike : List Case → List Case → Prop where
  | nil : CasesAlike [] []
  | cons {value value' : Option Expr} {body body' : List Stmt} {span span' : Span}
      {rest rest' : List Case} (valueAlike : Option.Rel (ExprAlike places) value value')
      (bodyAlike : BlockAlike body body') (restAlike : CasesAlike rest rest') :
      CasesAlike (.mk value body span :: rest) (.mk value' body' span' :: rest')

end

structure GlobalDecl.Alike (first second : GlobalDecl) : Prop where
  name : first.name = second.name
  sameMutable : first.mutable = second.mutable
  here : places first.span.start second.span.start
  value : Option.Rel (ExprAlike places) first.value second.value

structure FunctionDecl.Alike (first second : FunctionDecl) : Prop where
  name : first.name = second.name
  parameters : first.parameters.map Parameter.name = second.parameters.map Parameter.name
  here : places first.span.start second.span.start
  body : BlockAlike places first.body second.body

structure Source.Alike (first second : Source) : Prop where
  globals : List.Forall₂ (GlobalDecl.Alike places) first.globals second.globals
  functions : List.Forall₂ (FunctionDecl.Alike places) first.functions second.functions
  start : places first.span.start second.span.start
  stop : places first.span.stop second.span.stop

/-- The signature that checking gave the declaration, if any, has a type for each parameter. -/
def FunctionDecl.Fits (declaration : FunctionDecl) : Prop :=
  ∀ callee, declaration.callee = some callee → callee.signature.arity = declaration.arity

/-! ### States -/

/-- Variables of one name that hold the same value.  Their static types may differ. -/
structure CellAlike (first second : Cell) : Prop where
  name : first.binding.name = second.binding.name
  sameMutable : first.binding.mutable = second.binding.mutable
  value : first.value = second.value

inductive BodyAlike : Body → Body → Prop where
  | builtin (builtin : Builtin) : BodyAlike (.builtin builtin) (.builtin builtin)
  | declared {first second : FunctionDecl} (declarations : first.Alike places second) :
      BodyAlike (.declared first) (.declared second)
  | absent : BodyAlike .absent .absent

/-- Functions of one name and arity that run alike.  Their static types may differ. -/
structure FunctionAlike (first second : Function) : Prop where
  name : first.signature.name = second.signature.name
  arity : first.signature.arity = second.signature.arity
  body : BodyAlike places first.body second.body

abbrev RunFrame.Alike (first second : RunFrame) : Prop :=
  Frame.Related CellAlike (FunctionAlike places) first second

abbrev RunScope.Alike (first second : RunScope) : Prop :=
  Chain.Related CellAlike (FunctionAlike places) first second

structure State.Alike (first second : State) : Prop where
  scope : RunScope.Alike places first.scope second.scope
  sink : first.sink = second.sink

inductive Stop.Alike : Stop → Stop → Prop where
  | fault {first second : Fault} (faults : FaultsAlike places first second) :
      Stop.Alike (.fault first) (.fault second)
  | outOfFuel : Stop.Alike .outOfFuel .outOfFuel

structure Outcome.Alike (first second : Outcome) : Prop where
  result : ResultsAlike (Stop.Alike places) Eq first.result second.result
  sink : first.sink = second.sink

variable {places}

theorem RunFrame.Alike.addBuiltin {first second : RunFrame} (alike : first.Alike places second)
    (builtin : Builtin) :
    RunFrame.Alike places (first.addFunction builtin.signature.key (.ofBuiltin builtin))
      (second.addFunction builtin.signature.key (.ofBuiltin builtin)) :=
  alike.addFunction builtin.signature.key ⟨rfl, rfl, .builtin builtin⟩

theorem State.Alike.initial (sink : Sink) :
    (State.initial sink).Alike places (State.initial sink) := by
  have empty : RunFrame.Alike places .empty .empty := .ofEmpty none none
  exact ⟨⟨.nil, ((empty.addBuiltin .print).addBuiltin .logarithm).addBuiltin .converter⟩, rfl⟩

theorem Outcome.Alike.eq {first second : Outcome} (alike : first.Alike Eq second) :
    first = second := by
  obtain ⟨result, sink⟩ := first
  obtain ⟨result', sink'⟩ := second
  obtain ⟨resultsAlike, rfl⟩ := alike
  cases resultsAlike with
  | ok same =>
      cases same
      rfl
  | error stops =>
      cases stops with
      | outOfFuel => rfl
      | @fault first second faults =>
          obtain ⟨cause, offset⟩ := first
          obtain ⟨cause', offset'⟩ := second
          obtain ⟨rfl, rfl⟩ := faults
          rfl

end ScriptLang
