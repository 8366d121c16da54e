import ScriptLang.Proofs.Relocation
import ScriptLang.Typing.Source

/-!
Checking trees at other places.

What is found out about a tree does not depend on where its nodes stand, nor on the order in which
the names around it came to be bound.  In scopes that answer look-ups alike, a relocated tree is
checked as the tree is: it gets the same decorations, or fails for the same reason at the place
where that has gone.
-/

namespace ScriptLang
namespace Typing

/-- Scopes that answer look-ups alike, inside a body with the same return type. -/
structure ScopesAlike (scope scope' : StaticScope) : Prop where
  lookUps : Chain.Related Eq Eq scope scope'
  returnType : scope.returnType? = scope'.returnType?

abbrev RelocatedAs {α β : Type} (f : Nat → Nat) (good : α → β → Prop) :
    Except Fault α → Except Fault β → Prop :=
  ResultsAlike (FaultsAlike (Relocates f)) good

variable {f : Nat → Nat} {scope scope' : StaticScope}

namespace ScopesAlike

theorem child (alike : ScopesAlike scope scope') : ScopesAlike scope.child scope'.child := by
  refine ⟨alike.lookUps.push (.ofEmpty none none), ?_⟩
  unfold Chain.child Chain.returnType?
  rw [Chain.frames_push, Chain.frames_push, List.findSome?_cons, List.findSome?_cons]
  exact alike.returnType

theorem body (lookUps : Chain.Related Eq Eq scope scope') (returnType : Ty) :
    ScopesAlike (scope.body returnType) (scope'.body returnType) := by
  refine ⟨lookUps.push (.ofEmpty _ _), ?_⟩
  rw [Chain.returnType?_body, Chain.returnType?_body]

theorem defineVariable {places : Nat → Nat → Prop} (alike : ScopesAlike scope scope')
    (name : String) (target : Variable) {offset offset' : Nat} (here : places offset offset') :
    ResultsAlike (FaultsAlike places) ScopesAlike (scope.defineVariable name target offset)
      (scope'.defineVariable name target offset') := by
  have innermost := alike.lookUps.innermost
  have bound := innermost.findVariable name
  unfold Chain.defineVariable Frame.defineVariable
  generalize scope.innermost.findVariable? name = found at bound ⊢
  generalize scope'.innermost.findVariable? name = found' at bound ⊢
  cases bound with
  | some _ =>
      exact .error ⟨rfl, here⟩
  | none =>
      refine .ok ⟨alike.lookUps.withInnermost (innermost.addVariable name rfl), ?_⟩
      have kept : ∀ chain : StaticScope,
          (chain.withInnermost (chain.innermost.addVariable name target)).returnType? =
            chain.returnType? := fun chain => Chain.returnType?_withInnermost rfl
      rw [kept, kept]
      exact alike.returnType

end ScopesAlike

/-! ### Types -/

section Types

variable {places : Nat → Nat → Prop} {offset offset' : Nat}

theorem resolve_alike (name : String) (here : places offset offset') :
    ResultsAlike (FaultsAlike places) Eq (Ty.resolve name offset) (Ty.resolve name offset') := by
  unfold Ty.resolve
  cases Ty.ofName? name with
  | some ty => exact .ok rfl
  | none => exact .error ⟨rfl, here⟩

theorem require_alike (expected received : Ty) (here : places offset offset') :
    ResultsAlike (FaultsAlike places) Eq (expected.require received offset)
      (expected.require received offset') := by
  unfold Ty.require
  split
  · exact .ok rfl
  · exact .error ⟨rfl, here⟩

theorem requireSame_alike (left right : Ty) (here : places offset offset') :
    ResultsAlike (FaultsAlike places) Eq (requireSame left right offset)
      (requireSame left right offset') := by
  unfold requireSame
  split
  · exact .ok rfl
  · exact .error ⟨rfl, here⟩

theorem requireNumeric_alike (ty : Ty) (here : places offset offset') :
    ResultsAlike (FaultsAlike places) Eq (requireNumeric ty offset)
      (requireNumeric ty offset') := by
  unfold requireNumeric
  split
  · exact .ok rfl
  · exact .error ⟨rfl, here⟩

theorem literalTy_alike (value : Literal) (here : places offset offset') :
    ResultsAlike (FaultsAlike places) Eq (literalTy value offset) (literalTy value offset') := by
  cases value with
  | integer value =>
      unfold literalTy
      dsimp only
      split
      · exact .ok rfl
      · exact .error ⟨rfl, here⟩
  | decimal value =>
      unfold literalTy
      dsimp only
      split
      · exact .ok rfl
      · exact .error ⟨rfl, here⟩
  | _ =>
      exact .ok rfl

theorem wholeTy_alike (target : Variable) (context : Option Ty) (here : places offset offset') :
    ResultsAlike (FaultsAlike places) Eq (wholeTy target context offset)
      (wholeTy target context offset') := by
  unfold wholeTy
  split
  · split
    · exact .ok rfl
    · exact .error ⟨rfl, here⟩
  · exact .ok rfl

theorem elementTy_alike (target : Variable) (here : places offset offset') :
    ResultsAlike (FaultsAlike places) Eq (elementTy target offset) (elementTy target offset') := by
  unfold elementTy
  split
  · exact .ok rfl
  · exact .error ⟨rfl, here⟩

theorem demands_alike {first first' second second' : Except Fault Unit} (ty : Ty)
    (firstAlike : ResultsAlike (FaultsAlike places) Eq first first')
    (secondAlike : ResultsAlike (FaultsAlike places) Eq second second') :
    ResultsAlike (FaultsAlike places) Eq (do first; second; return ty)
      (do first'; second'; return ty) :=
  firstAlike.bind fun _ _ _ => secondAlike.bind fun _ _ _ => .ok rfl

theorem binaryTy_alike (op : BinaryOp) (left right : Ty) (atLeft : places offset offset')
    {rightOffset rightOffset' : Nat} (atRight : places rightOffset rightOffset') :
    ResultsAlike (FaultsAlike places) Eq (binaryTy op left right offset rightOffset)
      (binaryTy op left right offset' rightOffset') := by
  cases op with
  | and | or =>
      exact demands_alike _ (require_alike _ _ atLeft) (require_alike _ _ atRight)
  | less | greater | equals | notEquals =>
      exact (require_alike _ _ atLeft).bind fun _ _ _ =>
        demands_alike _ (require_alike _ _ atRight) (requireSame_alike _ _ atRight)
  | add =>
      unfold binaryTy
      dsimp only
      split
      · exact .ok rfl
      · exact demands_alike _ (requireNumeric_alike _ atLeft) (requireSame_alike _ _ atRight)
  | power =>
      exact demands_alike _ (require_alike _ _ atLeft) (require_alike _ _ atRight)
  | subtract | multiply | divide =>
      exact demands_alike _ (requireNumeric_alike _ atLeft) (requireSame_alike _ _ atRight)

end Types

/-! ### Expressions -/

def ExprRelocated (f : Nat → Nat) (checked checked' : Expr × Ty) : Prop :=
  checked' = (checked.1.relocated f, checked.2)

theorem checkArguments_no_types (scope : StaticScope) (es : List Expr) :
    checkArguments scope [] es = .ok es := by
  rw [checkArguments]
  · rfl
  · intro _ _ _ _ impossible
    cases impossible

theorem checkArguments_nil (scope : StaticScope) (types : List Ty) :
    checkArguments scope types [] = .ok [] := by
  rw [checkArguments]
  · rfl
  · intro _ _ _ _ _ impossible
    cases impossible

mutual

theorem checkExpr_relocated (scopes : Chain.Related Eq Eq scope scope') (context : Option Ty)
    (e : Expr) :
    RelocatedAs f (ExprRelocated f) (checkExpr scope context e)
      (checkExpr scope' context (e.relocated f)) := by
  cases e with
  | literal value span old =>
      rw [Expr.relocated, checkExpr, checkExpr]
      refine (literalTy_alike value span.relocates_start).bind ?_
      rintro ty _ rfl
      exact .ok rfl
  | group inner span old =>
      rw [Expr.relocated, checkExpr, checkExpr]
      refine (checkExpr_relocated scopes context inner).bind ?_
      rintro ⟨inner, ty⟩ _ rfl
      exact .ok rfl
  | binary op left right span old =>
      rw [Expr.relocated, checkExpr, checkExpr]
      refine (checkExpr_relocated scopes none left).bind ?_
      rintro ⟨left, leftTy⟩ _ rfl
      refine (checkExpr_relocated scopes none right).bind ?_
      rintro ⟨right, rightTy⟩ _ rfl
      refine (binaryTy_alike op leftTy rightTy left.relocates_start right.relocates_start).bind ?_
      rintro ty _ rfl
      exact .ok rfl
  | access name span old target =>
      rw [Expr.relocated, checkExpr, checkExpr]
      refine (scopes.lookupVariable name span.relocates_start).bind ?_
      rintro target _ rfl
      refine (wholeTy_alike target context span.relocates_start).bind ?_
      rintro ty _ rfl
      exact .ok rfl
  | element name index span old target =>
      rw [Expr.relocated, checkExpr, checkExpr]
      refine (checkExpr_relocated scopes none index).bind ?_
      rintro ⟨index, indexTy⟩ _ rfl
      refine (require_alike .integer indexTy index.relocates_start).bind fun _ _ _ => ?_
      refine (scopes.lookupVariable name span.relocates_start).bind ?_
      rintro target _ rfl
      refine (elementTy_alike target span.relocates_start).bind ?_
      rintro ty _ rfl
      exact .ok rfl
  | call name arguments span old callee =>
      rw [Expr.relocated, checkExpr, checkExpr, length_relocatedExprs]
      refine (scopes.lookupFunction (name, arguments.length) span.relocates_start).bind ?_
      rintro callee _ rfl
      refine (checkArguments_relocated scopes callee.signature.parameterTypes arguments).bind ?_
      rintro arguments _ rfl
      exact .ok rfl
  | list elements span old =>
      rw [Expr.relocated, checkExpr, checkExpr]
      refine (checkElements_relocated scopes (context.getD .any) elements).bind ?_
      rintro elements _ rfl
      exact .ok rfl

theorem checkArguments_relocated (scopes : Chain.Related Eq Eq scope scope') (types : List Ty)
    (es : List Expr) :
    RelocatedAs f (fun checked checked' => checked' = relocatedExprs f checked)
      (checkArguments scope types es) (checkArguments scope' types (relocatedExprs f es)) := by
  cases types with
  | nil =>
      rw [checkArguments_no_types, checkArguments_no_types]
      exact .ok rfl
  | cons expected types =>
      cases es with
      | nil =>
          rw [relocatedExprs, checkArguments_nil, checkArguments_nil]
          exact .ok rfl
      | cons first rest =>
          rw [relocatedExprs, checkArguments, checkArguments]
          refine (checkExpr_relocated scopes (some expected) first).bind ?_
          rintro ⟨first, received⟩ _ rfl
          dsimp only
          by_cases accepted : expected.accepts received = true
          · rw [if_pos accepted, if_pos accepted]
            refine (checkArguments_relocated scopes types rest).bind ?_
            rintro rest _ rfl
            exact .ok rfl
          · rw [if_neg accepted, if_neg accepted]
            exact .error ⟨rfl, first.relocates_start⟩

theorem checkElements_relocated (scopes : Chain.Related Eq Eq scope scope') (expected : Ty)
    (es : List Expr) :
    RelocatedAs f (fun checked checked' => checked' = relocatedExprs f checked)
      (checkElements scope expected es) (checkElements scope' expected (relocatedExprs f es)) := by
  cases es with
  | nil =>
      exact .ok rfl
  | cons first rest =>
      rw [relocatedExprs, checkElements, checkElements]
      refine (checkExpr_relocated scopes (some expected) first).bind ?_
      rintro ⟨first, received⟩ _ rfl
      refine (require_alike expected received first.relocates_start).bind fun _ _ _ => ?_
      refine (checkElements_relocated scopes expected rest).bind ?_
      rintro rest _ rfl
      exact .ok rfl

end

/-! ### Statements -/

theorem checkBinding_relocated (scopes : Chain.Related Eq Eq scope scope')
    (typeName : Option String) (value : Option Expr) {offset offset' : Nat}
    (here : Relocates f offset offset') :
    RelocatedAs f
      (fun checked checked' => checked' = (checked.1.map (Expr.relocated f), checked.2))
      (checkBinding scope typeName value offset)
      (checkBinding scope' typeName (value.map (Expr.relocated f)) offset') := by
  cases typeName with
  | none =>
      cases value with
      | none =>
          exact .error ⟨rfl, here⟩
      | some value =>
          refine (checkExpr_relocated scopes none value).bind ?_
          rintro ⟨value, ty⟩ _ rfl
          exact .ok rfl
  | some typeName =>
      cases value with
      | none =>
          refine (resolve_alike typeName here).bind ?_
          rintro declared _ rfl
          exact .ok rfl
      | some value =>
          refine (resolve_alike typeName here).bind ?_
          rintro declared _ rfl
          refine (checkExpr_relocated scopes (some declared) value).bind ?_
          rintro ⟨value, received⟩ _ rfl
          refine (require_alike declared received value.relocates_start).bind fun _ _ _ => ?_
          exact .ok rfl

theorem checkCondition_relocated (scopes : Chain.Related Eq Eq scope scope') (condition : Expr) :
    RelocatedAs f (fun checked checked' => checked' = checked.relocated f)
      (checkCondition scope condition) (checkCondition scope' (condition.relocated f)) := by
  refine (checkExpr_relocated scopes none condition).bind ?_
  rintro ⟨condition, ty⟩ _ rfl
  exact (require_alike .boolean ty condition.relocates_start).bind fun _ _ _ => .ok rfl

theorem checkAgainst_relocated (scopes : Chain.Related Eq Eq scope scope') (expected : Ty)
    (value : Expr) :
    RelocatedAs f (fun checked checked' => checked' = checked.relocated f)
      (checkAgainst scope expected value) (checkAgainst scope' expected (value.relocated f)) := by
  refine (checkExpr_relocated scopes (some expected) value).bind ?_
  rintro ⟨value, received⟩ _ rfl
  exact (require_alike expected received value.relocates_start).bind fun _ _ _ => .ok rfl

theorem requireMutable_alike {places : Nat → Nat → Prop} (target : Option Variable)
    {offset offset' : Nat} (here : places offset offset') :
    ResultsAlike (FaultsAlike places) Eq (requireMutable target offset)
      (requireMutable target offset') := by
  unfold requireMutable
  split
  · split
    · exact .ok rfl
    · exact .error ⟨rfl, here⟩
  · exact .ok rfl

theorem targetOf_relocated (e : Expr) : targetOf (e.relocated f) = targetOf e := by
  cases e <;> rfl

theorem isCall_relocated (e : Expr) : isCall (e.relocated f) = isCall e := by
  cases e <;> rfl

theorem requireDefault_relocated (cs : List Case) {offset offset' : Nat}
    (here : Relocates f offset offset') :
    RelocatedAs f Eq (requireDefault cs offset) (requireDefault (relocatedCases f cs) offset') := by
  unfold requireDefault
  rw [relocatedCases_eq_map, List.getLast?_map]
  cases cs.getLast? with
  | none =>
      exact .error ⟨rfl, here⟩
  | some last =>
      obtain ⟨value, body, span⟩ := last
      cases value with
      | none => exact .ok rfl
      | some value => exact .error ⟨rfl, span.relocates_start⟩

theorem isEmpty_relocatedBlock (b : List Stmt) : (relocatedBlock f b).isEmpty = b.isEmpty := by
  cases b <;> rfl

def StmtRelocated (f : Nat → Nat) (checked checked' : Stmt × StaticScope) : Prop :=
  checked'.1 = checked.1.relocated f ∧ ScopesAlike checked.2 checked'.2

mutual

theorem checkStmt_relocated {scope scope' : StaticScope} (scopes : ScopesAlike scope scope')
    (s : Stmt) :
    RelocatedAs f (StmtRelocated f) (checkStmt scope s) (checkStmt scope' (s.relocated f)) := by
  cases s with
  | expression value span =>
      rw [Stmt.relocated, checkStmt, checkStmt, isCall_relocated]
      split
      · refine (checkExpr_relocated scopes.lookUps none value).bind ?_
        rintro ⟨value, ty⟩ _ rfl
        exact .ok ⟨rfl, scopes⟩
      · exact .error ⟨rfl, span.relocates_start⟩
  | declaration name typeName value span old =>
      rw [Stmt.relocated, checkStmt, checkStmt]
      refine (checkBinding_relocated scopes.lookUps typeName value span.relocates_start).bind ?_
      rintro ⟨value, ty⟩ _ rfl
      refine (scopes.defineVariable name (.plain name ty true false) span.relocates_start).bind ?_
      intro wider wider' alike
      exact .ok ⟨rfl, alike⟩
  | assignment receiver value span =>
      rw [Stmt.relocated, checkStmt, checkStmt, isAccess_relocated]
      split
      · refine (checkExpr_relocated scopes.lookUps none receiver).bind ?_
        rintro ⟨receiver, expected⟩ _ rfl
        dsimp only
        rw [targetOf_relocated]
        refine (requireMutable_alike (targetOf receiver) span.relocates_start).bind ?_
        intro _ _ _
        refine (checkAgainst_relocated scopes.lookUps expected value).bind ?_
        rintro value _ rfl
        exact .ok ⟨rfl, scopes⟩
      · exact .error ⟨rfl, span.relocates_start⟩
  | conditional condition thenBlock elseBlock span =>
      rw [Stmt.relocated, checkStmt, checkStmt, isEmpty_relocatedBlock]
      split
      · exact .error ⟨rfl, span.relocates_start⟩
      · refine (checkCondition_relocated scopes.lookUps condition).bind ?_
        rintro condition _ rfl
        refine (checkBlock_relocated scopes.child thenBlock).bind ?_
        rintro thenBlock _ rfl
        refine (checkBlock_relocated scopes.child elseBlock).bind ?_
        rintro elseBlock _ rfl
        exact .ok ⟨rfl, scopes⟩
  | switch condition cs span =>
      rw [Stmt.relocated, checkStmt, checkStmt]
      refine (checkExpr_relocated scopes.lookUps none condition).bind ?_
      rintro ⟨condition, expected⟩ _ rfl
      refine (requireDefault_relocated cs span.relocates_start).bind fun _ _ _ => ?_
      refine (checkCases_relocated scopes expected cs).bind ?_
      rintro cs _ rfl
      exact .ok ⟨rfl, scopes⟩
  | loop condition body span =>
      rw [Stmt.relocated, checkStmt, checkStmt]
      refine (checkCondition_relocated scopes.lookUps condition).bind ?_
      rintro condition _ rfl
      refine (checkBlock_relocated scopes.child body).bind ?_
      rintro body _ rfl
      exact .ok ⟨rfl, scopes⟩
  | result value span =>
      rw [Stmt.relocated, checkStmt, checkStmt, ← scopes.returnType]
      cases scope.returnType? with
      | none =>
          exact .error ⟨rfl, span.relocates_start⟩
      | some expected =>
          refine (checkAgainst_relocated scopes.lookUps expected value).bind ?_
          rintro value _ rfl
          exact .ok ⟨rfl, scopes⟩

theorem checkBlock_relocated {scope scope' : StaticScope} (scopes : ScopesAlike scope scope')
    (b : List Stmt) :
    RelocatedAs f (fun checked checked' => checked' = relocatedBlock f checked)
      (checkBlock scope b) (checkBlock scope' (relocatedBlock f b)) := by
  cases b with
  | nil =>
      rw [relocatedBlock, checkBlock, checkBlock]
      exact .ok rfl
  | cons first rest =>
      rw [relocatedBlock, checkBlock, checkBlock]
      refine (checkStmt_relocated scopes first).bind ?_
      rintro ⟨first, behind⟩ ⟨first', behind'⟩ ⟨rfl, scopesBehind⟩
      refine (checkBlock_relocated scopesBehind rest).bind ?_
      rintro rest _ rfl
      exact .ok rfl

theorem checkCases_relocated {scope scope' : StaticScope} (scopes : ScopesAlike scope scope')
    (expected : Ty) (cs : List Case) :
    RelocatedAs f (fun checked checked' => checked' = relocatedCases f checked)
      (checkCases scope expected cs) (checkCases scope' expected (relocatedCases f cs)) := by
  rw [relocatedCases_eq_map]
  cases cs with
  | nil =>
      rw [List.map_nil, checkCases, checkCases]
      exact .ok rfl
  | cons first rest =>
      rw [List.map_cons, checkCases, checkCases]
      refine (checkCase_relocated scopes expected first).bind ?_
      rintro first _ rfl
      rw [← relocatedCases_eq_map]
      refine (checkCases_relocated scopes expected rest).bind ?_
      rintro rest _ rfl
      refine .ok ?_
      rw [relocatedCases_eq_map, relocatedCases_eq_map, List.map_cons]

theorem checkCase_relocated {scope scope' : StaticScope} (scopes : ScopesAlike scope scope')
    (expected : Ty) (c : Case) :
    RelocatedAs f (fun checked checked' => checked' = checked.relocated f)
      (checkCase scope expected c) (checkCase scope' expected (c.relocated f)) := by
  obtain ⟨value, body, span⟩ := c
  unfold Case.relocated
  cases value with
  | none =>
      rw [Case.value, Option.map_none, checkCase, checkCase]
      refine (checkBlock_relocated scopes.child body).bind ?_
      rintro body _ rfl
      exact .ok rfl
  | some value =>
      rw [Case.value, Option.map_some, checkCase, checkCase]
      refine (checkExpr_relocated scopes.lookUps none value).bind ?_
      rintro ⟨value, received⟩ _ rfl
      refine (require_alike expected received value.relocates_start).bind fun _ _ _ => ?_
      refine (checkBlock_relocated scopes.child body).bind ?_
      rintro body _ rfl
      exact .ok rfl

end

/-! ### Globals and functions -/

/-- A declaration relocated, with scopes behind it that answer look-ups alike. -/
def DeclarationRelocated {α : Type} (move : α → α) (checked checked' : α × StaticScope) :
    Prop :=
  checked'.1 = move checked.1 ∧ Chain.Related Eq Eq checked.2 checked'.2

theorem checkGlobal_relocated (scopes : Chain.Related Eq Eq scope scope') (global : GlobalDecl) :
    RelocatedAs f (DeclarationRelocated (GlobalDecl.relocated f)) (checkGlobal scope global)
      (checkGlobal scope' (global.relocated f)) := by
  refine (checkBinding_relocated scopes global.typeName global.value
    global.span.relocates_start).bind ?_
  rintro ⟨value, ty⟩ _ rfl
  refine (scopes.defineVariable global.name rfl global.span.relocates_start).bind ?_
  intro wider wider' related
  exact .ok ⟨rfl, related⟩

section Signatures

variable {places : Nat → Nat → Prop} {offset offset' : Nat}

theorem resolveAll_alike (names : List String) (here : places offset offset') :
    ResultsAlike (FaultsAlike places) Eq (resolveAll offset names) (resolveAll offset' names) := by
  induction names with
  | nil =>
      exact .ok rfl
  | cons name rest inductionHypothesis =>
      rw [resolveAll, resolveAll]
      refine (resolve_alike name here).bind ?_
      rintro ty _ rfl
      refine inductionHypothesis.bind ?_
      rintro types _ rfl
      exact .ok rfl

theorem resolveReturn_alike (typeName : Option String) (here : places offset offset') :
    ResultsAlike (FaultsAlike places) Eq (resolveReturn typeName offset)
      (resolveReturn typeName offset') := by
  cases typeName with
  | none => exact .ok rfl
  | some name => exact resolve_alike name here

theorem requireMain_alike (scopes : Chain.Related Eq Eq scope scope')
    (here : places offset offset') :
    ResultsAlike (FaultsAlike places) Eq (requireMain scope offset)
      (requireMain scope' offset') := by
  have found := scopes.findFunction? ("main", 0)
  unfold requireMain
  generalize scope.findFunction? ("main", 0) = main at found ⊢
  generalize scope'.findFunction? ("main", 0) = main' at found ⊢
  cases found with
  | none =>
      exact .error ⟨rfl, here⟩
  | @some main main' same =>
      subst same
      dsimp only
      split
      · exact .ok rfl
      · exact .error ⟨rfl, here⟩

theorem bindParameters_alike (parameters : List (Parameter × Ty)) (here : places offset offset')
    {scope scope' : StaticScope} (scopes : ScopesAlike scope scope') :
    ResultsAlike (FaultsAlike places) ScopesAlike (bindParameters offset scope parameters)
      (bindParameters offset' scope' parameters) := by
  induction parameters generalizing scope scope' with
  | nil =>
      exact .ok scopes
  | cons first rest inductionHypothesis =>
      obtain ⟨parameter, ty⟩ := first
      rw [bindParameters, bindParameters]
      refine (scopes.defineVariable _ _ here).bind fun _ _ widerScopes => ?_
      exact inductionHypothesis widerScopes

end Signatures

theorem declareFunction_relocated (scopes : Chain.Related Eq Eq scope scope')
    (function : FunctionDecl) :
    RelocatedAs f (DeclarationRelocated (FunctionDecl.relocated f)) (declareFunction scope function)
      (declareFunction scope' (function.relocated f)) := by
  have here : Relocates f function.span.start _ := function.span.relocates_start
  refine (resolveAll_alike _ here).bind ?_
  rintro types _ rfl
  refine (resolveReturn_alike _ here).bind ?_
  rintro returns _ rfl
  refine (scopes.defineFunction _ rfl here).bind ?_
  intro wider wider' related
  exact .ok ⟨rfl, related⟩

theorem calleeOf_relocated (scopes : Chain.Related Eq Eq scope scope') (function : FunctionDecl) :
    RelocatedAs f Eq (calleeOf scope function) (calleeOf scope' (function.relocated f)) := by
  unfold calleeOf FunctionDecl.relocated
  dsimp only
  split
  · exact .ok rfl
  · exact scopes.lookupFunction _ function.span.relocates_start

theorem checkFunction_relocated (scopes : Chain.Related Eq Eq scope scope')
    (function : FunctionDecl) :
    RelocatedAs f (fun checked checked' => checked' = checked.relocated f)
      (checkFunction scope function) (checkFunction scope' (function.relocated f)) := by
  refine (calleeOf_relocated scopes function).bind ?_
  rintro callee _ rfl
  refine (bindParameters_alike _ function.span.relocates_start
    (.body scopes callee.signature.returnType)).bind fun inner inner' innerScopes => ?_
  refine (checkBlock_relocated innerScopes function.body).bind ?_
  rintro body _ rfl
  exact .ok rfl

/-! ### Programs -/

/-- Both steps of checking a program succeed, with globals that answer look-ups alike, or both
fail. -/
inductive ChecksEnd {α β : Type} (places : Nat → Nat → Prop) (good : α → β → Prop) :
    EStateM.Result Fault StaticFrame α → EStateM.Result Fault StaticFrame β → Prop where
  | ok {value : α} {value' : β} {after after' : StaticFrame} (values : good value value')
      (frames : Frame.Related Eq Eq after after') :
      ChecksEnd places good (.ok value after) (.ok value' after')
  | error {fault fault' : Fault} {after after' : StaticFrame}
      (faults : FaultsAlike places fault fault') :
      ChecksEnd places good (.error fault after) (.error fault' after')

def ChecksAlike {α β : Type} (places : Nat → Nat → Prop) (good : α → β → Prop)
    (first : GlobalCheck α) (second : GlobalCheck β) : Prop :=
  ∀ globals globals' : StaticFrame, Frame.Related Eq Eq globals globals' →
    ChecksEnd places good (first globals) (second globals')

namespace ChecksAlike

variable {α β γ δ : Type} {places : Nat → Nat → Prop} {good : α → β → Prop} {better : γ → δ → Prop}

theorem pure {value : α} {value' : β} (values : good value value') :
    ChecksAlike places good (Pure.pure value) (Pure.pure value') :=
  fun _ _ frames => .ok values frames

theorem bind {first : GlobalCheck α} {second : GlobalCheck β} {next : α → GlobalCheck γ}
    {next' : β → GlobalCheck δ} (checks : ChecksAlike places good first second)
    (continues : ∀ value value', good value value' →
      ChecksAlike places better (next value) (next' value')) :
    ChecksAlike places better (first >>= next) (second >>= next') := by
  intro globals globals' frames
  have ends := checks globals globals' frames
  change ChecksEnd places better (EStateM.bind first next globals)
    (EStateM.bind second next' globals')
  unfold EStateM.bind
  generalize first globals = result at ends ⊢
  generalize second globals' = result' at ends ⊢
  cases ends with
  | ok values afterFrames => exact continues _ _ values _ _ afterFrames
  | error faults => exact .error faults

theorem imp {fine : α → β → Prop} {first : GlobalCheck α} {second : GlobalCheck β}
    (checks : ChecksAlike places good first second)
    (values : ∀ value value', good value value' → fine value value') :
    ChecksAlike places fine first second := by
  intro globals globals' frames
  have ends := checks globals globals' frames
  generalize first globals = result at ends ⊢
  generalize second globals' = result' at ends ⊢
  cases ends with
  | ok holds afterFrames => exact .ok (values _ _ holds) afterFrames
  | error faults => exact .error faults

theorem binding {first : StaticScope → Except Fault (α × StaticScope)}
    {second : StaticScope → Except Fault (β × StaticScope)}
    (alike : ∀ scope scope' : StaticScope, Chain.Related Eq Eq scope scope' →
      ResultsAlike (FaultsAlike places) (fun checked checked' => good checked.1 checked'.1 ∧
        Chain.Related Eq Eq checked.2 checked'.2) (first scope) (second scope')) :
    ChecksAlike places good (binding first) (binding second) := by
  intro globals globals' frames
  have results := alike (.ofGlobals globals) (.ofGlobals globals') ⟨.nil, frames⟩
  unfold Typing.binding
  generalize first (.ofGlobals globals) = result at results ⊢
  generalize second (.ofGlobals globals') = result' at results ⊢
  cases results with
  | ok holds => exact .ok holds.1 holds.2.globals
  | error faults => exact .error faults

theorem reading {first : StaticScope → Except Fault α} {second : StaticScope → Except Fault β}
    (alike : ∀ scope scope' : StaticScope, Chain.Related Eq Eq scope scope' →
      ResultsAlike (FaultsAlike places) good (first scope) (second scope')) :
    ChecksAlike places good (reading first) (reading second) := by
  intro globals globals' frames
  have results := alike (.ofGlobals globals) (.ofGlobals globals') ⟨.nil, frames⟩
  unfold Typing.reading
  generalize first (.ofGlobals globals) = result at results ⊢
  generalize second (.ofGlobals globals') = result' at results ⊢
  cases results with
  | ok holds => exact .ok holds frames
  | error faults => exact .error faults

theorem each {related better : α → α → Prop} {step : α → GlobalCheck α} {list list' : List α}
    (alike : ∀ value value', related value value' →
      ChecksAlike places better (step value) (step value'))
    (lists : List.Forall₂ related list list') :
    ChecksAlike places (List.Forall₂ better) (checkEach step list) (checkEach step list') := by
  induction lists with
  | nil =>
      exact .pure .nil
  | cons first rest inductionHypothesis =>
      rw [checkEach, checkEach]
      refine (alike _ _ first).bind fun checked checked' isFirst => ?_
      refine inductionHypothesis.bind fun others others' areRest => ?_
      exact .pure (.cons isFirst areRest)

theorem each_map {move : α → α} {step : α → GlobalCheck α}
    (alike : ∀ value, ChecksAlike places (fun checked checked' => checked' = move checked)
      (step value) (step (move value))) (list : List α) :
    ChecksAlike places (fun checked checked' => checked' = checked.map move) (checkEach step list)
      (checkEach step (list.map move)) := by
  have moved : List.Forall₂ (fun value value' => value' = move value) list (list.map move) :=
    List.forall₂_map_right_iff.mpr (List.forall₂_same.mpr fun _ _ => rfl)
  refine (each (fun value _ isMoved => isMoved ▸ alike value) moved).imp ?_
  intro checked checked' isMoved
  have mapped : List.Forall₂ Eq (checked.map move) checked' :=
    List.forall₂_map_left_iff.mpr (isMoved.imp fun _ _ => Eq.symm)
  rw [List.forall₂_eq_eq_eq] at mapped
  exact mapped.symm

end ChecksAlike

theorem checkSource_relocated (source : Source) :
    ChecksAlike (Relocates f) (fun checked checked' => checked' = checked.relocated f)
      (checkSource source) (checkSource (source.relocated f)) := by
  unfold checkSource
  refine (ChecksAlike.each_map (fun global => .binding fun _ _ scopes =>
    checkGlobal_relocated scopes global) source.globals).bind ?_
  rintro globals _ rfl
  refine (ChecksAlike.each_map (fun function => .binding fun _ _ scopes =>
    declareFunction_relocated scopes function) source.functions).bind ?_
  rintro declared _ rfl
  refine (ChecksAlike.each_map (fun function => .reading fun _ _ scopes =>
    checkFunction_relocated scopes function) declared).bind ?_
  rintro functions _ rfl
  have atEnd : Relocates f source.span.stop (source.relocated f).span.stop := rfl
  refine (ChecksAlike.reading fun _ _ scopes => requireMain_alike scopes atEnd).bind ?_
  intro _ _ _
  exact .pure rfl

end Typing

/-- Checking a relocated program gives what checking the program gives, relocated. -/
theorem Source.check_relocated (source : Source) :
    Typing.RelocatedAs f (fun checked checked' => checked' = checked.relocated f) source.check
      (source.relocated f).check := by
  have ends : Typing.ChecksEnd (Relocates f) _ (Typing.checkSource source Typing.builtinFrame) _ :=
    Typing.checkSource_relocated source _ _ (.refl (fun _ => rfl) (fun _ => rfl) _)
  unfold Source.check
  generalize Typing.checkSource source Typing.builtinFrame = result at ends ⊢
  generalize Typing.checkSource (source.relocated f) Typing.builtinFrame = result' at ends ⊢
  cases ends with
  | ok values _ => exact .ok values
  | error faults => exact .error faults

end ScriptLang
