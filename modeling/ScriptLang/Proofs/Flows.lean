import ScriptLang.Proofs.Typed

/-!
What is put where in a decorated tree.

A flow is a pair of types: the one that a place expects, and the one that was found for the
expression put there.  Initial values, assigned values, arguments, results and the elements of
lists are put somewhere; operands, conditions and indices are not.  A program that is typed
under one discipline is typed under every other that admits its flows and the sizes of its lists.
-/

namespace ScriptLang

/-! ### The flows of a tree -/

/-- The flow of an expression into a place of the given type. -/
def Expr.into (expected : Ty) (e : Expr) : List (Ty × Ty) :=
  e.ty?.toList.map fun received => (expected, received)

mutual

def Expr.flows : Expr → List (Ty × Ty)
  | .literal _ _ _ | .access _ _ _ _ => []
  | .group inner _ _ => inner.flows
  | .binary _ left right _ _ => left.flows ++ right.flows
  | .element _ index _ _ _ => index.flows
  | .call _ arguments _ _ callee =>
      match callee with
      | some callee => placedFlows callee.signature.parameterTypes arguments
      | none => []
  | .list elements _ ty => placedFlows (List.replicate elements.length (ty.getD .any)) elements

def placedFlows : List Ty → List Expr → List (Ty × Ty)
  | expected :: types, first :: rest =>
      first.into expected ++ (first.flows ++ placedFlows types rest)
  | _, _ => []

end

def bindingFlows : Option Variable → Option Expr → List (Ty × Ty)
  | some target, some value => value.into target.ty ++ value.flows
  | _, _ => []

mutual

def Stmt.flows (returns : Ty) : Stmt → List (Ty × Ty)
  | .expression value _ => value.flows
  | .declaration _ _ value _ target => bindingFlows target value
  | .assignment receiver value _ =>
      receiver.flows ++ (receiver.ty?.toList.flatMap value.into ++ value.flows)
  | .conditional condition thenBlock elseBlock _ =>
      condition.flows ++ (blockFlows returns thenBlock ++ blockFlows returns elseBlock)
  | .switch subject cases _ => subject.flows ++ casesFlows returns cases
  | .loop condition body _ => condition.flows ++ blockFlows returns body
  | .result value _ => value.into returns ++ value.flows

def blockFlows (returns : Ty) : List Stmt → List (Ty × Ty)
  | [] => []
  | first :: rest => first.flows returns ++ blockFlows returns rest

def casesFlows (returns : Ty) : List Case → List (Ty × Ty)
  | [] => []
  | .mk value body _ :: rest =>
      value.toList.flatMap Expr.flows ++ (blockFlows returns body ++ casesFlows returns rest)

end

def FunctionDecl.flows (function : FunctionDecl) : List (Ty × Ty) :=
  match function.callee with
  | some callee => blockFlows callee.signature.returnType function.body
  | none => []

def Source.flows (source : Source) : List (Ty × Ty) :=
  source.globals.flatMap (fun global => bindingFlows global.target global.value) ++
    source.functions.flatMap FunctionDecl.flows

/-! ### Another discipline -/

variable {D E : Discipline}

def Discipline.AdmitsAll (E : Discipline) (flows : List (Ty × Ty)) : Prop :=
  ∀ flow ∈ flows, E.admits flow.1 flow.2

/-- `E` lets every type be named, and left without a value, that `D` does. -/
structure Discipline.Wider (E D : Discipline) : Prop where
  names : ∀ ty, D.names ty → E.names ty
  blank : ∀ ty, D.blank ty → E.blank ty

/-- What the discipline `E` asks of a program that is typed under `D`. -/
structure Discipline.Takes (E D : Discipline) (source : Source) : Prop extends E.Wider D where
  flows : E.AdmitsAll source.flows
  sizes : ∀ global ∈ source.globals, global.isList = true → ∀ elements span ty,
    global.value = some (.list elements span ty) →
    ∀ elementTy, E.sizes (.plain global.name elementTy global.mutable true) elements.length

namespace Discipline.AdmitsAll

theorem append {before after : List (Ty × Ty)} (all : E.AdmitsAll (before ++ after)) :
    E.AdmitsAll before ∧ E.AdmitsAll after :=
  List.forall_mem_append.mp all

theorem of_mem {α : Type} {flows : α → List (Ty × Ty)} {list : List α} {item : α}
    (all : E.AdmitsAll (list.flatMap flows)) (member : item ∈ list) : E.AdmitsAll (flows item) :=
  fun flow inFlows => all flow (List.mem_flatMap_of_mem member inFlows)

end Discipline.AdmitsAll

theorem ExprTyped.ty?_eq {scope : StaticScope} {context : Option Ty} {e : Expr} {ty : Ty}
    (typed : ExprTyped D scope context e ty) : e.ty? = some ty := by
  cases typed with
  | _ => rfl

theorem ExprTyped.accepted_into {scope : StaticScope} {context : Option Ty} {e : Expr}
    {expected received : Ty} (typed : ExprTyped D scope context e received)
    (accepts : D.Accepts expected received) (admitted : E.AdmitsAll (e.into expected)) :
    E.Accepts expected received := by
  unfold Expr.into at admitted
  rw [typed.ty?_eq] at admitted
  exact ⟨accepts.accepted, admitted _ List.mem_cons_self⟩

mutual

theorem ExprTyped.transfer {scope : StaticScope} (e : Expr) {context : Option Ty} {ty : Ty}
    (admitted : E.AdmitsAll e.flows) (typed : ExprTyped D scope context e ty) :
    ExprTyped E scope context e ty := by
  cases e with
  | literal value span decoration =>
      cases typed with
      | literal inRange =>
          exact .literal inRange
  | group inner span decoration =>
      cases typed with
      | group innerTyped =>
          rw [Expr.flows] at admitted
          exact .group (innerTyped.transfer inner admitted)
  | binary op left right span decoration =>
      cases typed with
      | binary leftTyped rightTyped rule =>
          rw [Expr.flows] at admitted
          obtain ⟨leftAdmitted, rightAdmitted⟩ := admitted.append
          exact .binary (leftTyped.transfer left leftAdmitted)
            (rightTyped.transfer right rightAdmitted) rule
  | access name span decoration found =>
      cases typed with
      | access bound whole =>
          exact .access bound whole
  | element name index span decoration found =>
      cases typed with
      | element indexTyped bound isList =>
          rw [Expr.flows] at admitted
          exact .element (indexTyped.transfer index admitted) bound isList
  | call name arguments span decoration found =>
      cases typed with
      | call bound argumentsTyped =>
          rw [Expr.flows] at admitted
          exact .call bound (argumentsTyped.transfer arguments admitted)
  | list elements span decoration =>
      cases typed

theorem ExprsTyped.transfer {scope : StaticScope} (es : List Expr) {types : List Ty}
    (admitted : E.AdmitsAll (placedFlows types es)) (typed : ExprsTyped D scope types es) :
    ExprsTyped E scope types es := by
  cases es with
  | nil =>
      cases typed with
      | nil =>
          exact .nil
  | cons first rest =>
      cases typed with
      | cons firstTyped accepts restTyped =>
          rw [placedFlows] at admitted
          obtain ⟨into, inside⟩ := admitted.append
          obtain ⟨inFirst, inRest⟩ := inside.append
          exact .cons (firstTyped.transfer first inFirst) (firstTyped.accepted_into accepts into)
            (restTyped.transfer rest inRest)

end

theorem BindingTyped.transfer (wider : E.Wider D) {scope : StaticScope} {value : Option Expr}
    {target : Variable} (admitted : E.AdmitsAll (bindingFlows (some target) value))
    (typed : BindingTyped D scope value target.ty) : BindingTyped E scope value target.ty := by
  cases typed with
  | inferred typed =>
      exact .inferred (typed.transfer _ admitted.append.2)
  | given named typed accepts =>
      obtain ⟨into, inside⟩ := admitted.append
      exact .given (wider.names _ named) (typed.transfer _ inside)
        (typed.accepted_into accepts into)
  | blank named isBlank =>
      exact .blank (wider.names _ named) (wider.blank _ isBlank)

mutual

theorem StmtTyped.transfer (wider : E.Wider D) {returns : Ty} {outer : StaticScope} (s : Stmt)
    {frame next : StaticFrame} (admitted : E.AdmitsAll (s.flows returns))
    (typed : StmtTyped D returns outer frame s next) : StmtTyped E returns outer frame s next := by
  cases s with
  | expression value span =>
      cases typed with
      | expression typed =>
          rw [Stmt.flows] at admitted
          exact .expression (typed.transfer value admitted)
  | declaration name typeName value span target =>
      cases typed with
      | declaration typed unbound =>
          rw [Stmt.flows] at admitted
          exact .declaration (BindingTyped.transfer wider admitted typed) unbound
  | assignment receiver value span =>
      rw [Stmt.flows] at admitted
      obtain ⟨inReceiver, inside⟩ := admitted.append
      obtain ⟨into, inValue⟩ := inside.append
      cases typed with
      | assignWhole bound isSingle isMutable typed accepts =>
          have into := into.of_mem (Option.mem_toList.mpr rfl)
          exact .assignWhole bound isSingle isMutable (typed.transfer value inValue)
            (typed.accepted_into accepts into)
      | assignElement indexTyped bound isList isMutable typed accepts =>
          have into := into.of_mem (Option.mem_toList.mpr rfl)
          rw [Expr.flows] at inReceiver
          exact .assignElement (indexTyped.transfer _ inReceiver) bound isList isMutable
            (typed.transfer value inValue) (typed.accepted_into accepts into)
  | conditional condition thenBlock elseBlock span =>
      cases typed with
      | conditional conditionTyped thenTyped elseTyped =>
          rw [Stmt.flows] at admitted
          obtain ⟨inCondition, inside⟩ := admitted.append
          obtain ⟨inThen, inElse⟩ := inside.append
          exact .conditional (conditionTyped.transfer condition inCondition)
            (BlockTyped.transfer wider thenBlock inThen thenTyped)
            (BlockTyped.transfer wider elseBlock inElse elseTyped)
  | switch subject cases span =>
      cases typed with
      | switch subjectTyped casesTyped =>
          rw [Stmt.flows] at admitted
          obtain ⟨inSubject, inCases⟩ := admitted.append
          exact .switch (subjectTyped.transfer subject inSubject)
            (CasesTyped.transfer wider cases inCases casesTyped)
  | loop condition body span =>
      cases typed with
      | loop conditionTyped bodyTyped =>
          rw [Stmt.flows] at admitted
          obtain ⟨inCondition, inBody⟩ := admitted.append
          exact .loop (conditionTyped.transfer condition inCondition)
            (BlockTyped.transfer wider body inBody bodyTyped)
  | result value span =>
      cases typed with
      | result typed accepts =>
          rw [Stmt.flows] at admitted
          obtain ⟨into, inValue⟩ := admitted.append
          exact .result (typed.transfer value inValue) (typed.accepted_into accepts into)

theorem BlockTyped.transfer (wider : E.Wider D) {returns : Ty} {outer : StaticScope}
    (block : List Stmt) {frame : StaticFrame} (admitted : E.AdmitsAll (blockFlows returns block))
    (typed : BlockTyped D returns outer frame block) : BlockTyped E returns outer frame block := by
  cases block with
  | nil =>
      exact .nil
  | cons first rest =>
      cases typed with
      | cons firstTyped restTyped =>
          rw [blockFlows] at admitted
          obtain ⟨inFirst, inRest⟩ := admitted.append
          exact .cons (StmtTyped.transfer wider first inFirst firstTyped)
            (BlockTyped.transfer wider rest inRest restTyped)

theorem CasesTyped.transfer (wider : E.Wider D) {returns : Ty} {scope : StaticScope}
    (cs : List Case) (admitted : E.AdmitsAll (casesFlows returns cs))
    (typed : CasesTyped D returns scope cs) :
    CasesTyped E returns scope cs := by
  match cs with
  | [] =>
      exact .nil
  | .mk value body span :: rest =>
      rw [casesFlows] at admitted
      obtain ⟨inValue, inside⟩ := admitted.append
      obtain ⟨inBody, inRest⟩ := inside.append
      cases typed with
      | value valueTyped bodyTyped restTyped =>
          have inValue := inValue.of_mem (Option.mem_toList.mpr rfl)
          exact .value (valueTyped.transfer _ inValue)
            (BlockTyped.transfer wider body inBody bodyTyped)
            (CasesTyped.transfer wider rest inRest restTyped)
      | default bodyTyped restTyped =>
          exact .default (BlockTyped.transfer wider body inBody bodyTyped)
            (CasesTyped.transfer wider rest inRest restTyped)

end

theorem BodyTyped.transfer (wider : E.Wider D) {globals : StaticFrame} {function : FunctionDecl}
    {callee : Callee} (decorated : function.callee = some callee)
    (admitted : E.AdmitsAll function.flows)
    (typed : BodyTyped D globals callee.signature (.declared function)) :
    BodyTyped E globals callee.signature (.declared function) := by
  unfold FunctionDecl.flows at admitted
  rw [decorated] at admitted
  dsimp only at admitted
  generalize callee.signature = signature at typed admitted ⊢
  cases typed with
  | declared arity typesNamed returnsNamed bound typed ends =>
      have blockTyped := BlockTyped.transfer wider function.body admitted typed
      exact .declared arity (fun ty member => wider.names ty (typesNamed ty member))
        (wider.names _ returnsNamed) bound blockTyped (ends.imp_left (wider.blank _))

theorem GlobalTyped.transfer {source : Source} (takes : E.Takes D source) {globals : StaticFrame}
    {global : GlobalDecl} {target : Variable} (member : global ∈ source.globals)
    (decorated : global.target = some target) (typed : GlobalTyped D globals global target) :
    GlobalTyped E globals global target := by
  have admitted := takes.flows.append.1.of_mem member
  rw [decorated] at admitted
  cases typed with
  | list isList initial named sized typed =>
      rw [initial] at admitted
      have inside := admitted.append.2
      rw [Expr.flows] at inside
      exact .list isList initial (takes.names _ named)
        (takes.sizes global member isList _ _ _ initial _) (typed.transfer _ inside)
  | single isSingle typed =>
      exact .single isSingle (BindingTyped.transfer takes.toWider admitted typed)

theorem GlobalsTyped.transfer {source : Source} (takes : E.Takes D source)
    (globals : List GlobalDecl) {static last : StaticFrame}
    (members : ∀ global ∈ globals, global ∈ source.globals)
    (typed : GlobalsTyped D static globals last) : GlobalsTyped E static globals last := by
  induction globals generalizing static with
  | nil =>
      cases typed
      exact .nil
  | cons first rest inductionHypothesis =>
      obtain ⟨firstMember, restMembers⟩ := List.forall_mem_cons.mp members
      cases typed with
      | cons firstTyped decorated unbound restTyped =>
          exact .cons (firstTyped.transfer takes firstMember decorated) decorated unbound
            (inductionHypothesis restMembers restTyped)

/-- A program that is typed under one discipline is typed under another that takes it. -/
theorem SourceTyped.transfer {source : Source} {early globals : StaticFrame}
    (takes : E.Takes D source) (typed : SourceTyped D source early globals) :
    SourceTyped E source early globals where
  globalsTyped := typed.globalsTyped.transfer takes source.globals fun _ member => member
  declared := typed.declared
  bodies := by
    intro function member callee decorated
    have admitted := takes.flows.append.2.of_mem member
    exact BodyTyped.transfer takes.toWider decorated admitted
      (typed.bodies function member callee decorated)
  main := typed.main

end ScriptLang
