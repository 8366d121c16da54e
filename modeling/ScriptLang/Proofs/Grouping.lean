import ScriptLang.Proofs.Redecoration
import ScriptLang.Proofs.RelocatedChecks
import ScriptLang.Proofs.UndecoratedRuns

/-!
Groups around expressions.

Groups may be put around any expressions of a program but two: the one that makes up an expression
statement, which has to be a call, and the receiver of an assignment, which has to be a name or an
element of a list.  Checking hands the context of a group to what it contains, and running only
looks through it, so the program with groups is checked and runs as the program without them.
-/

namespace ScriptLang

open Typing

/-! ### Programs with groups -/

mutual

/-- The second expression is the first with groups around it or around parts of it.  A group has
the type of what it contains; the other decorations are the same. -/
inductive ExprGrouped : Expr → Expr → Prop where
  | node {e e' : Expr} (grouped : NodeGrouped e e') : ExprGrouped e e'
  | wrapped {e e' : Expr} (span : Span) (grouped : ExprGrouped e e') :
      ExprGrouped e (.group e' span e'.ty?)

/-- The second expression is the first with groups around parts of it, but none around it. -/
inductive NodeGrouped : Expr → Expr → Prop where
  | literal (value : Literal) (span : Span) (ty : Option Ty) :
      NodeGrouped (.literal value span ty) (.literal value span ty)
  | group {inner inner' : Expr} (span : Span) (ty : Option Ty)
      (innerGrouped : ExprGrouped inner inner') :
      NodeGrouped (.group inner span ty) (.group inner' span ty)
  | binary (op : BinaryOp) {left left' right right' : Expr} (span : Span) (ty : Option Ty)
      (leftGrouped : ExprGrouped left left') (rightGrouped : ExprGrouped right right') :
      NodeGrouped (.binary op left right span ty) (.binary op left' right' span ty)
  | access (name : String) (span : Span) (ty : Option Ty) (target : Option Variable) :
      NodeGrouped (.access name span ty target) (.access name span ty target)
  | element (name : String) {index index' : Expr} (span : Span) (ty : Option Ty)
      (target : Option Variable) (indexGrouped : ExprGrouped index index') :
      NodeGrouped (.element name index span ty target) (.element name index' span ty target)
  | call (name : String) {arguments arguments' : List Expr} (span : Span) (ty : Option Ty)
      (callee : Option Callee) (argumentsGrouped : ExprsGrouped arguments arguments') :
      NodeGrouped (.call name arguments span ty callee) (.call name arguments' span ty callee)
  | list {elements elements' : List Expr} (span : Span) (ty : Option Ty)
      (elementsGrouped : ExprsGrouped elements elements') :
      NodeGrouped (.list elements span ty) (.list elements' span ty)

inductive ExprsGrouped : List Expr → List Expr → Prop where
  | nil : ExprsGrouped [] []
  | cons {first first' : Expr} {rest rest' : List Expr} (firstGrouped : ExprGrouped first first')
      (restGrouped : ExprsGrouped rest rest') : ExprsGrouped (first :: rest) (first' :: rest')

end

mutual

/-- The second statement is the first with groups around some of its expressions, but none around
the expression of an expression statement or the receiver of an assignment. -/
inductive StmtGrouped : Stmt → Stmt → Prop where
  | expression {value value' : Expr} (span : Span) (valueGrouped : NodeGrouped value value') :
      StmtGrouped (.expression value span) (.expression value' span)
  | declaration (name : String) (typeName : Option String) {value value' : Option Expr}
      (span : Span) (target : Option Variable)
      (valueGrouped : Option.Rel ExprGrouped value value') :
      StmtGrouped (.declaration name typeName value span target)
        (.declaration name typeName value' span target)
  | assignment {receiver receiver' value value' : Expr} (span : Span)
      (receiverGrouped : NodeGrouped receiver receiver')
      (valueGrouped : ExprGrouped value value') :
      StmtGrouped (.assignment receiver value span) (.assignment receiver' value' span)
  | conditional {condition condition' : Expr}
      {thenBlock thenBlock' elseBlock elseBlock' : List Stmt} (span : Span)
      (conditionGrouped : ExprGrouped condition condition')
      (thenGrouped : BlockGrouped thenBlock thenBlock')
      (elseGrouped : BlockGrouped elseBlock elseBlock') :
      StmtGrouped (.conditional condition thenBlock elseBlock span)
        (.conditional condition' thenBlock' elseBlock' span)
  | switch {condition condition' : Expr} {cases cases' : List Case} (span : Span)
      (conditionGrouped : ExprGrouped condition condition')
      (casesGrouped : CasesGrouped cases cases') :
      StmtGrouped (.switch condition cases span) (.switch condition' cases' span)
  | loop {condition condition' : Expr} {body body' : List Stmt} (span : Span)
      (conditionGrouped : ExprGrouped condition condition')
      (bodyGrouped : BlockGrouped body body') :
      StmtGrouped (.loop condition body span) (.loop condition' body' span)
  | result {value value' : Expr} (span : Span) (valueGrouped : ExprGrouped value value') :
      StmtGrouped (.result value span) (.result value' span)

inductive BlockGrouped : List Stmt → List Stmt → Prop where
  | nil : BlockGrouped [] []
  | cons {first first' : Stmt} {rest rest' : List Stmt} (firstGrouped : StmtGrouped first first')
      (restGrouped : BlockGrouped rest rest') : BlockGrouped (first :: rest) (first' :: rest')

inductive CasesGrouped : List Case → List Case → Prop where
  | nil : CasesGrouped [] []
  | cons {first first' : Case} {rest rest' : List Case} (firstGrouped : CaseGrouped first first')
      (restGrouped : CasesGrouped rest rest') : CasesGrouped (first :: rest) (first' :: rest')

inductive CaseGrouped : Case → Case → Prop where
  | mk {value value' : Option Expr} {body body' : List Stmt} (span : Span)
      (valueGrouped : Option.Rel ExprGrouped value value')
      (bodyGrouped : BlockGrouped body body') :
      CaseGrouped (.mk value body span) (.mk value' body' span)

end

inductive GlobalDecl.Grouped (global : GlobalDecl) : GlobalDecl → Prop where
  | value {value' : Option Expr} (valueGrouped : Option.Rel ExprGrouped global.value value') :
      GlobalDecl.Grouped global { global with value := value' }

inductive FunctionDecl.Grouped (function : FunctionDecl) : FunctionDecl → Prop where
  | body {body' : List Stmt} (bodyGrouped : BlockGrouped function.body body') :
      FunctionDecl.Grouped function { function with body := body' }

/-- The second program is the first with groups around some of its expressions. -/
structure Source.Grouped (source grouped : Source) : Prop where
  globals : List.Forall₂ GlobalDecl.Grouped source.globals grouped.globals
  functions : List.Forall₂ FunctionDecl.Grouped source.functions grouped.functions
  span : source.span = grouped.span

/-! ### Checking expressions with groups -/

namespace Typing

abbrev GroupedAs {α β : Type} : (α → β → Prop) → Except Fault α → Except Fault β → Prop :=
  ResultsAlike (FaultsAlike fun _ _ => True)

structure TypedAs (related : Expr → Expr → Prop) (checked checked' : Expr × Ty) : Prop where
  related : related checked.1 checked'.1
  sameTy : checked.2 = checked'.2
  decorated : checked'.1.ty? = some checked.2

theorem length_grouped {es es' : List Expr} (grouped : ExprsGrouped es es') :
    es'.length = es.length := by
  induction es generalizing es' with
  | nil =>
      cases grouped
      rfl
  | cons first rest inductionHypothesis =>
      cases grouped with
      | cons _ restGrouped =>
          rw [List.length_cons, List.length_cons, inductionHypothesis restGrouped]

mutual

theorem checkExpr_grouped {scope scope' : StaticScope} (scopes : Chain.Related Eq Eq scope scope')
    {e e' : Expr} (grouped : ExprGrouped e e') (context : Option Ty) :
    GroupedAs (TypedAs ExprGrouped) (checkExpr scope context e) (checkExpr scope' context e') := by
  match grouped with
  | .node nodeGrouped =>
      refine (checkNode_grouped scopes nodeGrouped context).imp (fun _ _ alike => alike) ?_
      rintro checked checked' ⟨related, sameTy, decorated⟩
      exact ⟨.node related, sameTy, decorated⟩
  | .wrapped span innerGrouped =>
      rw [checkExpr.eq_def scope' context (.group _ _ _),
        ← bind_pure (checkExpr scope context e)]
      refine (checkExpr_grouped scopes innerGrouped context).bind ?_
      rintro ⟨inner, ty⟩ ⟨inner', ty'⟩ ⟨related, rfl, decorated⟩
      exact .ok ⟨decorated ▸ .wrapped span related, rfl, rfl⟩

theorem checkNode_grouped {scope scope' : StaticScope} (scopes : Chain.Related Eq Eq scope scope')
    {e e' : Expr} (grouped : NodeGrouped e e') (context : Option Ty) :
    GroupedAs (TypedAs NodeGrouped) (checkExpr scope context e) (checkExpr scope' context e') := by
  match grouped with
  | .literal value span old =>
      rw [checkExpr, checkExpr]
      refine (literalTy_alike value trivial).bind ?_
      rintro ty _ rfl
      exact .ok ⟨.literal value span (some ty), rfl, rfl⟩
  | .group span old innerGrouped =>
      rw [checkExpr, checkExpr]
      refine (checkExpr_grouped scopes innerGrouped context).bind ?_
      rintro ⟨inner, ty⟩ ⟨inner', ty'⟩ ⟨related, rfl, decorated⟩
      exact .ok ⟨.group span (some ty) related, rfl, rfl⟩
  | .binary op span old leftGrouped rightGrouped =>
      rw [checkExpr, checkExpr]
      refine (checkExpr_grouped scopes leftGrouped none).bind ?_
      rintro ⟨left, leftTy⟩ ⟨left', leftTy'⟩ ⟨leftRelated, rfl, _⟩
      refine (checkExpr_grouped scopes rightGrouped none).bind ?_
      rintro ⟨right, rightTy⟩ ⟨right', rightTy'⟩ ⟨rightRelated, rfl, _⟩
      refine (binaryTy_alike op leftTy rightTy trivial trivial).bind ?_
      rintro ty _ rfl
      exact .ok ⟨.binary op span (some ty) leftRelated rightRelated, rfl, rfl⟩
  | .access name span old target =>
      rw [checkExpr, checkExpr]
      refine (scopes.lookupVariable name trivial).bind ?_
      rintro target _ rfl
      refine (wholeTy_alike target context trivial).bind ?_
      rintro ty _ rfl
      exact .ok ⟨.access name span (some ty) (some target), rfl, rfl⟩
  | .element name span old target indexGrouped =>
      rw [checkExpr, checkExpr]
      refine (checkExpr_grouped scopes indexGrouped none).bind ?_
      rintro ⟨index, indexTy⟩ ⟨index', indexTy'⟩ ⟨indexRelated, rfl, _⟩
      refine (require_alike .integer indexTy trivial).bind fun _ _ _ => ?_
      refine (scopes.lookupVariable name trivial).bind ?_
      rintro target _ rfl
      refine (elementTy_alike target trivial).bind ?_
      rintro ty _ rfl
      exact .ok ⟨.element name span (some ty) (some target) indexRelated, rfl, rfl⟩
  | .call name span old callee argumentsGrouped =>
      rw [checkExpr, checkExpr, length_grouped argumentsGrouped]
      refine (scopes.lookupFunction _ trivial).bind ?_
      rintro callee _ rfl
      refine ((checkExprs_grouped scopes argumentsGrouped).1
        callee.signature.parameterTypes).bind ?_
      intro arguments arguments' related
      exact .ok ⟨.call name span (some callee.signature.returnType) (some callee) related, rfl, rfl⟩
  | .list span old elementsGrouped =>
      rw [checkExpr, checkExpr]
      refine ((checkExprs_grouped scopes elementsGrouped).2 (context.getD .any)).bind ?_
      intro elements elements' related
      exact .ok ⟨.list span (some (context.getD .any)) related, rfl, rfl⟩

theorem checkExprs_grouped {scope scope' : StaticScope}
    (scopes : Chain.Related Eq Eq scope scope') {es es' : List Expr}
    (grouped : ExprsGrouped es es') :
    (∀ types, GroupedAs ExprsGrouped (checkArguments scope types es)
      (checkArguments scope' types es')) ∧
    ∀ expected, GroupedAs ExprsGrouped (checkElements scope expected es)
      (checkElements scope' expected es') := by
  match grouped with
  | .nil =>
      refine ⟨fun types => ?_, fun expected => .ok .nil⟩
      rw [checkArguments_nil, checkArguments_nil]
      exact .ok .nil
  | .cons firstGrouped restGrouped =>
      obtain ⟨restAsArguments, restAsElements⟩ := checkExprs_grouped scopes restGrouped
      constructor
      · rintro (_ | ⟨expected, types⟩)
        · rw [checkArguments_no_types, checkArguments_no_types]
          exact .ok (.cons firstGrouped restGrouped)
        · rw [checkArguments, checkArguments]
          refine (checkExpr_grouped scopes firstGrouped (some expected)).bind ?_
          rintro ⟨first, received⟩ ⟨first', received'⟩ ⟨firstRelated, rfl, _⟩
          dsimp only
          by_cases accepted : expected.accepts received = true
          · rw [if_pos accepted, if_pos accepted]
            refine (restAsArguments types).bind fun rest rest' restRelated => ?_
            exact .ok (.cons firstRelated restRelated)
          · rw [if_neg accepted, if_neg accepted]
            exact .error ⟨rfl, trivial⟩
      · intro expected
        rw [checkElements, checkElements]
        refine (checkExpr_grouped scopes firstGrouped (some expected)).bind ?_
        rintro ⟨first, received⟩ ⟨first', received'⟩ ⟨firstRelated, rfl, _⟩
        refine (require_alike expected received trivial).bind fun _ _ _ => ?_
        refine (restAsElements expected).bind fun rest rest' restRelated => ?_
        exact .ok (.cons firstRelated restRelated)

end

/-! ### Checking statements with groups -/

theorem checkBinding_grouped {scope scope' : StaticScope}
    (scopes : Chain.Related Eq Eq scope scope') (typeName : Option String)
    {value value' : Option Expr} (grouped : Option.Rel ExprGrouped value value') (offset : Nat) :
    GroupedAs (fun checked checked' => Option.Rel ExprGrouped checked.1 checked'.1 ∧
        checked.2 = checked'.2)
      (checkBinding scope typeName value offset) (checkBinding scope' typeName value' offset) := by
  cases grouped with
  | none =>
      cases typeName with
      | none =>
          exact .error ⟨rfl, trivial⟩
      | some name =>
          refine (resolve_alike name trivial).bind ?_
          rintro declared _ rfl
          exact .ok ⟨.none, rfl⟩
  | some valueGrouped =>
      cases typeName with
      | none =>
          refine (checkExpr_grouped scopes valueGrouped none).bind ?_
          rintro ⟨value, ty⟩ ⟨value', ty'⟩ ⟨related, rfl, _⟩
          exact .ok ⟨.some related, rfl⟩
      | some name =>
          refine (resolve_alike name trivial).bind ?_
          rintro declared _ rfl
          refine (checkExpr_grouped scopes valueGrouped (some declared)).bind ?_
          rintro ⟨value, received⟩ ⟨value', received'⟩ ⟨related, rfl, _⟩
          refine (require_alike declared received trivial).bind fun _ _ _ => ?_
          exact .ok ⟨.some related, rfl⟩

theorem checkCondition_grouped {scope scope' : StaticScope}
    (scopes : Chain.Related Eq Eq scope scope') {condition condition' : Expr}
    (grouped : ExprGrouped condition condition') :
    GroupedAs ExprGrouped (checkCondition scope condition) (checkCondition scope' condition') := by
  refine (checkExpr_grouped scopes grouped none).bind ?_
  rintro ⟨condition, ty⟩ ⟨condition', ty'⟩ ⟨related, rfl, _⟩
  exact (require_alike .boolean ty trivial).bind fun _ _ _ => .ok related

theorem checkAgainst_grouped {scope scope' : StaticScope}
    (scopes : Chain.Related Eq Eq scope scope') (expected : Ty) {value value' : Expr}
    (grouped : ExprGrouped value value') :
    GroupedAs ExprGrouped (checkAgainst scope expected value)
      (checkAgainst scope' expected value') := by
  refine (checkExpr_grouped scopes grouped (some expected)).bind ?_
  rintro ⟨value, received⟩ ⟨value', received'⟩ ⟨related, rfl, _⟩
  exact (require_alike expected received trivial).bind fun _ _ _ => .ok related

theorem isCall_grouped {e e' : Expr} (grouped : NodeGrouped e e') : isCall e' = isCall e := by
  cases grouped <;> rfl

theorem isAccess_grouped {e e' : Expr} (grouped : NodeGrouped e e') :
    isAccess e' = isAccess e := by
  cases grouped <;> rfl

theorem targetOf_grouped {e e' : Expr} (grouped : NodeGrouped e e') :
    targetOf e' = targetOf e := by
  cases grouped <;> rfl

theorem isEmpty_grouped {b b' : List Stmt} (grouped : BlockGrouped b b') :
    b'.isEmpty = b.isEmpty := by
  cases grouped <;> rfl

theorem headings_grouped {cs cs' : List Case} (grouped : CasesGrouped cs cs') :
    cs'.map Case.heading = cs.map Case.heading := by
  induction cs generalizing cs' with
  | nil =>
      cases grouped
      rfl
  | cons first rest inductionHypothesis =>
      cases grouped with
      | cons firstGrouped restGrouped =>
          obtain ⟨span, valueGrouped, _⟩ := firstGrouped
          rw [List.map_cons, List.map_cons, inductionHypothesis restGrouped]
          cases valueGrouped with
          | none => rfl
          | some _ => rfl

mutual

theorem checkStmt_grouped {scope scope' : StaticScope} (scopes : ScopesAlike scope scope')
    {s s' : Stmt} (grouped : StmtGrouped s s') :
    GroupedAs (fun checked checked' => StmtGrouped checked.1 checked'.1 ∧
        ScopesAlike checked.2 checked'.2)
      (checkStmt scope s) (checkStmt scope' s') := by
  cases grouped with
  | expression span valueGrouped =>
      rw [checkStmt, checkStmt, isCall_grouped valueGrouped]
      split
      · refine (checkNode_grouped scopes.lookUps valueGrouped none).bind ?_
        rintro ⟨value, ty⟩ ⟨value', ty'⟩ ⟨related, rfl, _⟩
        exact .ok ⟨.expression span related, scopes⟩
      · exact .error ⟨rfl, trivial⟩
  | declaration name typeName span old valueGrouped =>
      rw [checkStmt, checkStmt]
      refine (checkBinding_grouped scopes.lookUps typeName valueGrouped span.start).bind ?_
      rintro ⟨value, ty⟩ ⟨value', ty'⟩ ⟨related, rfl⟩
      refine (scopes.defineVariable name (.plain name ty true false) trivial).bind ?_
      intro wider wider' widerAlike
      exact .ok ⟨.declaration name typeName span _ related, widerAlike⟩
  | assignment span receiverGrouped valueGrouped =>
      rw [checkStmt, checkStmt, isAccess_grouped receiverGrouped]
      split
      · refine (checkNode_grouped scopes.lookUps receiverGrouped none).bind ?_
        rintro ⟨receiver, expected⟩ ⟨receiver', expected'⟩ ⟨receiverRelated, rfl, _⟩
        dsimp only
        rw [targetOf_grouped receiverRelated]
        refine (requireMutable_alike (targetOf receiver) trivial).bind fun _ _ _ => ?_
        refine (checkAgainst_grouped scopes.lookUps expected valueGrouped).bind ?_
        intro value value' related
        exact .ok ⟨.assignment span receiverRelated related, scopes⟩
      · exact .error ⟨rfl, trivial⟩
  | conditional span conditionGrouped thenGrouped elseGrouped =>
      rw [checkStmt, checkStmt, isEmpty_grouped thenGrouped]
      split
      · exact .error ⟨rfl, trivial⟩
      · refine (checkCondition_grouped scopes.lookUps conditionGrouped).bind ?_
        intro condition condition' related
        refine (checkBlock_grouped scopes.child thenGrouped).bind fun _ _ thenRelated => ?_
        refine (checkBlock_grouped scopes.child elseGrouped).bind fun _ _ elseRelated => ?_
        exact .ok ⟨.conditional span related thenRelated elseRelated, scopes⟩
  | @switch _ _ cs cs' span conditionGrouped casesGrouped =>
      rw [checkStmt, checkStmt, requireDefault_congr (headings_grouped casesGrouped)]
      refine (checkExpr_grouped scopes.lookUps conditionGrouped none).bind ?_
      rintro ⟨condition, expected⟩ ⟨condition', expected'⟩ ⟨related, rfl, _⟩
      cases requireDefault cs span.start with
      | error fault =>
          exact .error ⟨rfl, trivial⟩
      | ok _ =>
          refine (checkCases_grouped scopes expected casesGrouped).bind fun _ _ casesRelated => ?_
          exact .ok ⟨.switch span related casesRelated, scopes⟩
  | loop span conditionGrouped bodyGrouped =>
      rw [checkStmt, checkStmt]
      refine (checkCondition_grouped scopes.lookUps conditionGrouped).bind ?_
      intro condition condition' related
      refine (checkBlock_grouped scopes.child bodyGrouped).bind fun _ _ bodyRelated => ?_
      exact .ok ⟨.loop span related bodyRelated, scopes⟩
  | result span valueGrouped =>
      rw [checkStmt, checkStmt, ← scopes.returnType]
      cases scope.returnType? with
      | none =>
          exact .error ⟨rfl, trivial⟩
      | some expected =>
          refine (checkAgainst_grouped scopes.lookUps expected valueGrouped).bind ?_
          intro value value' related
          exact .ok ⟨.result span related, scopes⟩
termination_by structural s

theorem checkBlock_grouped {scope scope' : StaticScope} (scopes : ScopesAlike scope scope')
    {b b' : List Stmt} (grouped : BlockGrouped b b') :
    GroupedAs BlockGrouped (checkBlock scope b) (checkBlock scope' b') := by
  cases grouped with
  | nil =>
      rw [checkBlock, checkBlock]
      exact .ok .nil
  | cons firstGrouped restGrouped =>
      rw [checkBlock, checkBlock]
      refine (checkStmt_grouped scopes firstGrouped).bind ?_
      rintro ⟨first, behind⟩ ⟨first', behind'⟩ ⟨firstRelated, scopesBehind⟩
      refine (checkBlock_grouped scopesBehind restGrouped).bind fun _ _ restRelated => ?_
      exact .ok (.cons firstRelated restRelated)
termination_by structural b

theorem checkCases_grouped {scope scope' : StaticScope} (scopes : ScopesAlike scope scope')
    (expected : Ty) {cs cs' : List Case} (grouped : CasesGrouped cs cs') :
    GroupedAs CasesGrouped (checkCases scope expected cs) (checkCases scope' expected cs') := by
  cases grouped with
  | nil =>
      rw [checkCases, checkCases]
      exact .ok .nil
  | cons firstGrouped restGrouped =>
      rw [checkCases, checkCases]
      refine (checkCase_grouped scopes expected firstGrouped).bind fun _ _ firstRelated => ?_
      refine (checkCases_grouped scopes expected restGrouped).bind fun _ _ restRelated => ?_
      exact .ok (.cons firstRelated restRelated)
termination_by structural cs

theorem checkCase_grouped {scope scope' : StaticScope} (scopes : ScopesAlike scope scope')
    (expected : Ty) {c c' : Case} (grouped : CaseGrouped c c') :
    GroupedAs CaseGrouped (checkCase scope expected c) (checkCase scope' expected c') := by
  cases grouped with
  | mk span valueGrouped bodyGrouped =>
      cases valueGrouped with
      | none =>
          rw [checkCase, checkCase]
          refine (checkBlock_grouped scopes.child bodyGrouped).bind fun _ _ bodyRelated => ?_
          exact .ok (.mk span .none bodyRelated)
      | some valueGrouped =>
          rw [checkCase, checkCase]
          refine (checkExpr_grouped scopes.lookUps valueGrouped none).bind ?_
          rintro ⟨value, received⟩ ⟨value', received'⟩ ⟨related, rfl, _⟩
          refine (require_alike expected received trivial).bind fun _ _ _ => ?_
          refine (checkBlock_grouped scopes.child bodyGrouped).bind fun _ _ bodyRelated => ?_
          exact .ok (.mk span (.some related) bodyRelated)
termination_by structural c

end

/-! ### Checking programs with groups -/

theorem checkGlobal_grouped {scope scope' : StaticScope}
    (scopes : Chain.Related Eq Eq scope scope') {global global' : GlobalDecl}
    (grouped : global.Grouped global') :
    GroupedAs (fun checked checked' => checked.1.Grouped checked'.1 ∧
        Chain.Related Eq Eq checked.2 checked'.2)
      (checkGlobal scope global) (checkGlobal scope' global') := by
  obtain ⟨valueGrouped⟩ := grouped
  refine (checkBinding_grouped scopes global.typeName valueGrouped global.span.start).bind ?_
  rintro ⟨value, ty⟩ ⟨value', ty'⟩ ⟨related, rfl⟩
  refine (scopes.defineVariable global.name rfl trivial).bind fun wider wider' widerRelated => ?_
  exact .ok ⟨.value related, widerRelated⟩

theorem declareFunction_grouped {scope scope' : StaticScope}
    (scopes : Chain.Related Eq Eq scope scope') {function function' : FunctionDecl}
    (grouped : function.Grouped function') :
    GroupedAs (fun declared declared' => declared.1.Grouped declared'.1 ∧
        Chain.Related Eq Eq declared.2 declared'.2)
      (declareFunction scope function) (declareFunction scope' function') := by
  obtain ⟨bodyGrouped⟩ := grouped
  refine (resolveAll_alike _ trivial).bind ?_
  rintro types _ rfl
  refine (resolveReturn_alike _ trivial).bind ?_
  rintro returns _ rfl
  refine (scopes.defineFunction _ rfl trivial).bind fun wider wider' widerRelated => ?_
  exact .ok ⟨.body bodyGrouped, widerRelated⟩

theorem calleeOf_grouped {scope scope' : StaticScope} (scopes : Chain.Related Eq Eq scope scope')
    {function function' : FunctionDecl} (grouped : function.Grouped function') :
    GroupedAs Eq (calleeOf scope function) (calleeOf scope' function') := by
  obtain ⟨bodyGrouped⟩ := grouped
  unfold calleeOf
  dsimp only
  split
  · exact .ok rfl
  · exact scopes.lookupFunction _ trivial

theorem checkFunction_grouped {scope scope' : StaticScope}
    (scopes : Chain.Related Eq Eq scope scope') {function function' : FunctionDecl}
    (grouped : function.Grouped function') :
    GroupedAs FunctionDecl.Grouped (checkFunction scope function)
      (checkFunction scope' function') := by
  refine (calleeOf_grouped scopes grouped).bind ?_
  rintro callee _ rfl
  obtain ⟨bodyGrouped⟩ := grouped
  refine (bindParameters_alike _ trivial (.body scopes callee.signature.returnType)).bind ?_
  intro inner inner' innerScopes
  refine (checkBlock_grouped innerScopes bodyGrouped).bind fun _ _ bodyRelated => ?_
  exact .ok (.body bodyRelated)

theorem checkGlobals_grouped {list list' : List GlobalDecl}
    (grouped : List.Forall₂ GlobalDecl.Grouped list list') :
    ChecksAlike (fun _ _ => True) (List.Forall₂ GlobalDecl.Grouped)
      (checkEach (fun global => binding (checkGlobal · global)) list)
      (checkEach (fun global => binding (checkGlobal · global)) list') := by
  refine ChecksAlike.each (fun global global' related => ?_) grouped
  exact .binding fun _ _ scopes => checkGlobal_grouped scopes related

theorem declareFunctions_grouped {list list' : List FunctionDecl}
    (grouped : List.Forall₂ FunctionDecl.Grouped list list') :
    ChecksAlike (fun _ _ => True) (List.Forall₂ FunctionDecl.Grouped)
      (checkEach (fun function => binding (declareFunction · function)) list)
      (checkEach (fun function => binding (declareFunction · function)) list') := by
  refine ChecksAlike.each (fun function function' related => ?_) grouped
  exact .binding fun _ _ scopes => declareFunction_grouped scopes related

theorem checkFunctions_grouped {list list' : List FunctionDecl}
    (grouped : List.Forall₂ FunctionDecl.Grouped list list') :
    ChecksAlike (fun _ _ => True) (List.Forall₂ FunctionDecl.Grouped)
      (checkEach (fun function => reading (checkFunction · function)) list)
      (checkEach (fun function => reading (checkFunction · function)) list') := by
  refine ChecksAlike.each (fun function function' related => ?_) grouped
  exact .reading fun _ _ scopes => checkFunction_grouped scopes related

theorem checkSource_grouped {source source' : Source} (grouped : source.Grouped source') :
    ChecksAlike (fun _ _ => True) Source.Grouped (checkSource source) (checkSource source') := by
  refine (checkGlobals_grouped grouped.globals).bind fun _ _ globalsRelated => ?_
  refine (declareFunctions_grouped grouped.functions).bind fun _ _ declared => ?_
  refine (checkFunctions_grouped declared).bind fun _ _ functionsRelated => ?_
  refine (ChecksAlike.reading fun _ _ scopes => requireMain_alike scopes trivial).bind ?_
  intro _ _ _
  exact .pure ⟨globalsRelated, functionsRelated, grouped.span⟩

end Typing

theorem Source.check_grouped {source source' : Source} (grouped : source.Grouped source') :
    GroupedAs Source.Grouped source.check source'.check := by
  have ends : ChecksEnd _ _ (checkSource source builtinFrame) _ :=
    checkSource_grouped grouped _ _ (.refl (fun _ => rfl) (fun _ => rfl) _)
  unfold Source.check
  generalize checkSource source builtinFrame = result at ends ⊢
  generalize checkSource source' builtinFrame = result' at ends ⊢
  cases ends with
  | ok values _ => exact .ok values
  | error faults => exact .error faults

/-! ### Running programs with groups -/

mutual

theorem ExprGrouped.alike {e e' : Expr} (grouped : ExprGrouped e e') :
    ExprAlike (fun _ _ => True) e e' := by
  match grouped with
  | .node nodeGrouped => exact nodeGrouped.alike
  | .wrapped span innerGrouped => exact .wrapped trivial innerGrouped.alike

theorem NodeGrouped.alike {e e' : Expr} (grouped : NodeGrouped e e') :
    ExprAlike (fun _ _ => True) e e' := by
  match grouped with
  | .literal value span ty =>
      exact .literal value trivial
  | .group span ty innerGrouped =>
      exact .group trivial innerGrouped.alike
  | .binary op span ty leftGrouped rightGrouped =>
      exact .binary op trivial leftGrouped.alike rightGrouped.alike
  | .access name span ty target =>
      exact .access name trivial
  | .element name span ty target indexGrouped =>
      exact .element name trivial indexGrouped.alike
  | .call name span ty callee argumentsGrouped =>
      exact .call name trivial argumentsGrouped.alike
  | .list span ty elementsGrouped =>
      exact .list trivial elementsGrouped.alike

theorem ExprsGrouped.alike {es es' : List Expr} (grouped : ExprsGrouped es es') :
    ExprsAlike (fun _ _ => True) es es' := by
  match grouped with
  | .nil => exact .nil
  | .cons firstGrouped restGrouped => exact .cons firstGrouped.alike restGrouped.alike

end

theorem option_alike_of_grouped {value value' : Option Expr}
    (grouped : Option.Rel ExprGrouped value value') :
    Option.Rel (ExprAlike fun _ _ => True) value value' := by
  cases grouped with
  | none => exact .none
  | some valueGrouped => exact .some valueGrouped.alike

mutual

theorem StmtGrouped.alike {s s' : Stmt} (grouped : StmtGrouped s s') :
    StmtAlike (fun _ _ => True) s s' := by
  match grouped with
  | .expression span valueGrouped =>
      exact .expression valueGrouped.alike
  | .declaration name typeName span target valueGrouped =>
      exact .declaration name trivial (option_alike_of_grouped valueGrouped)
  | .assignment span receiverGrouped valueGrouped =>
      exact .assignment trivial receiverGrouped.alike (isAccess_grouped receiverGrouped).symm
        valueGrouped.alike
  | .conditional span conditionGrouped thenGrouped elseGrouped =>
      exact .conditional conditionGrouped.alike thenGrouped.alike elseGrouped.alike
  | .switch span conditionGrouped casesGrouped =>
      exact .switch conditionGrouped.alike casesGrouped.alike
  | .loop span conditionGrouped bodyGrouped =>
      exact .loop conditionGrouped.alike bodyGrouped.alike
  | .result span valueGrouped =>
      exact .result valueGrouped.alike

theorem BlockGrouped.alike {b b' : List Stmt} (grouped : BlockGrouped b b') :
    BlockAlike (fun _ _ => True) b b' := by
  match grouped with
  | .nil => exact .nil
  | .cons firstGrouped restGrouped => exact .cons firstGrouped.alike restGrouped.alike

theorem CasesGrouped.alike {cs cs' : List Case} (grouped : CasesGrouped cs cs') :
    CasesAlike (fun _ _ => True) cs cs' := by
  match grouped with
  | .nil =>
      exact .nil
  | .cons (.mk span valueGrouped bodyGrouped) restGrouped =>
      exact .cons (option_alike_of_grouped valueGrouped) bodyGrouped.alike restGrouped.alike

end

theorem Source.Grouped.alike {source source' : Source} (grouped : source.Grouped source') :
    source.Alike (fun _ _ => True) source' := by
  refine ⟨grouped.globals.imp ?_, grouped.functions.imp ?_, trivial, trivial⟩
  · rintro global global' ⟨valueGrouped⟩
    exact ⟨rfl, rfl, trivial, option_alike_of_grouped valueGrouped⟩
  · rintro function function' ⟨bodyGrouped⟩
    exact ⟨rfl, rfl, trivial, bodyGrouped.alike⟩

/-- Redundant groups are transparent.  A program is accepted with groups around its expressions if
it is without them, and only then; else both are rejected for the same reason.  All nodes get the
types and decorations that they had, a group the type of what it contains, and every run prints the
same and ends alike, with the same value or for the same reason. -/
theorem Source.check_run_grouped {source source' : Source}
    (grouped : source.erased.Grouped source'.erased) :
    GroupedAs (fun checked checked' => checked.Grouped checked' ∧
        ∀ fuel sink, (checked.run fuel sink).Alike (fun _ _ => True) (checked'.run fuel sink))
      source.check source'.check := by
  have checksAlike := Source.check_grouped grouped
  rw [source.check_erased, source'.check_erased] at checksAlike
  cases accepted : source.check with
  | error fault =>
      cases accepted' : source'.check with
      | error fault' =>
          rw [accepted, accepted'] at checksAlike
          cases checksAlike with
          | error faults => exact .error faults
      | ok checked' =>
          rw [accepted, accepted'] at checksAlike
          cases checksAlike
  | ok checked =>
      cases accepted' : source'.check with
      | error fault' =>
          rw [accepted, accepted'] at checksAlike
          cases checksAlike
      | ok checked' =>
          rw [accepted, accepted'] at checksAlike
          cases checksAlike with
          | ok related =>
              exact .ok ⟨related, related.alike.run (Source.fit_of_check accepted)
                (Source.fit_of_check accepted')⟩

def summingSource (around : Expr → Expr) : Source :=
  let here : Span := { start := 0, stop := 0 }
  let number (value : Int) : Expr := around (.literal (.integer value) here none)
  { globals :=
      [{ name := "items", mutable := true, isList := true, typeName := some "Integer"
         value := some (around (.list [number 1, number 2] here none)), span := here
         target := none }]
    functions :=
      [{ name := "main", parameters := [], returnTypeName := some "Integer"
         body :=
          [.expression (.call "print" [around (.access "items" here none none)] here none none)
              here,
            .result (around (.binary .add (number 3) (number 4) here none)) here]
         span := here, callee := none }]
    span := here }

theorem Source.check_run_grouped_summing :
    let inGroup (e : Expr) : Expr := .group e { start := 0, stop := 0 } none
    ∃ checked checked' value,
      (summingSource id).check = .ok checked ∧ (summingSource inGroup).check = .ok checked' ∧
        checked.Grouped checked' ∧
        (checked.run 9 .unlimited).result = .ok value ∧ value.display = "7" ∧
        (checked.run 9 .unlimited).sink.text = "[1, 2]\n" ∧
        (checked.run 9 .unlimited).Alike (fun _ _ => True) (checked'.run 9 .unlimited) := by
  intro inGroup
  have computed : ((summingSource id).check.toOption.bind fun checked =>
      (checked.run 9 .unlimited).result.toOption.map fun value =>
        (value.display, (checked.run 9 .unlimited).sink.text)) = some ("7", "[1, 2]\n") := by
    decide +kernel
  obtain ⟨checked, accepted, computed⟩ := Option.bind_eq_some_iff.mp computed
  obtain ⟨value, returned, seen⟩ := Option.map_eq_some_iff.mp computed
  obtain ⟨shown, printed⟩ := Prod.mk.inj seen
  have accepted := eq_ok_of_toOption accepted
  have number (value : Int) : ExprGrouped (.literal (.integer value) ⟨0, 0⟩ none)
      (inGroup (.literal (.integer value) ⟨0, 0⟩ none)) :=
    .wrapped _ (.node (.literal _ _ _))
  have items : ExprGrouped (.access "items" ⟨0, 0⟩ none none)
      (inGroup (.access "items" ⟨0, 0⟩ none none)) :=
    .wrapped _ (.node (.access _ _ _ _))
  have grouped : (summingSource id).erased.Grouped (summingSource inGroup).erased :=
    ⟨.cons (.value (.some (.wrapped _ (.node
        (.list _ _ (.cons (number 1) (.cons (number 2) .nil))))))) .nil,
      .cons (.body (.cons (.expression _ (.call _ _ _ _ (.cons items .nil)))
        (.cons (.result _ (.wrapped _ (.node (.binary _ _ _ (number 3) (number 4))))) .nil))) .nil,
      rfl⟩
  have alike := Source.check_run_grouped grouped
  rw [accepted] at alike
  generalize (summingSource inGroup).check = result at alike
  cases alike with
  | @ok _ checked' holds =>
      exact ⟨checked, checked', value, accepted, rfl, holds.1,
        eq_ok_of_toOption returned, shown, printed, holds.2 9 .unlimited⟩

end ScriptLang
