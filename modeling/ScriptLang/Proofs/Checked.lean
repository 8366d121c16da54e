import ScriptLang.Proofs.Names
import ScriptLang.Proofs.Plain
import ScriptLang.Proofs.Typed

/-!
Checking yields typed trees.

Every part of a plain tree that checking accepts is typed, and decorated as the rules say.
-/

namespace ScriptLang

open Typing

/-! ### The parts of checking that only compare -/

theorem elementTy_eq_ok {target : Variable} {offset : Nat} {ty : Ty} :
    elementTy target offset = .ok ty ↔ target.isList = true ∧ target.ty = ty := by
  unfold elementTy
  by_cases isList : target.isList = true
  · simp [isList]
  · simp [isList]

/-- Every function is found by its own name and number of parameters. -/
def Keyed (scope : StaticScope) : Prop :=
  ∀ key callee, scope.findFunction? key = some callee → callee.signature.key = key

theorem Keyed.arity {scope : StaticScope} (keyed : Keyed scope) {name : String} {count : Nat}
    {callee : Callee} (bound : scope.findFunction? (name, count) = some callee) :
    callee.signature.parameterTypes.length = count :=
  congrArg Prod.snd (keyed _ _ bound)

/-! ### Expressions -/

variable {D : Discipline}

theorem Discipline.Liberal.accepts (liberal : D.Liberal) {target source : Ty}
    (accepted : target.accepts source = true) : D.Accepts target source :=
  ⟨accepted, liberal.admits target source⟩

mutual

theorem exprTyped_of_check (liberal : D.Liberal) {scope : StaticScope} (keyed : Keyed scope)
    (e : Expr) {context : Option Ty} {decorated : Expr} {ty : Ty} (plain : e.Plain)
    (checked : checkExpr scope context e = .ok (decorated, ty)) :
    ExprTyped D scope context decorated ty := by
  cases e with
  | literal value span old =>
      rw [checkExpr] at checked
      obtain ⟨found, inRange, rest⟩ := bind_eq_ok.mp checked
      cases rest
      exact .literal inRange
  | group inner span old =>
      rw [checkExpr] at checked
      obtain ⟨⟨inner', innerTy⟩, innerChecked, rest⟩ := bind_eq_ok.mp checked
      cases rest
      exact .group (exprTyped_of_check liberal keyed inner plain innerChecked)
  | binary op left right span old =>
      rw [checkExpr] at checked
      obtain ⟨⟨left', leftTy⟩, leftChecked, checked⟩ := bind_eq_ok.mp checked
      obtain ⟨⟨right', rightTy⟩, rightChecked, checked⟩ := bind_eq_ok.mp checked
      obtain ⟨found, rule, rest⟩ := bind_eq_ok.mp checked
      cases rest
      have leftTyped := exprTyped_of_check liberal keyed left plain.1 leftChecked
      have rightTyped := exprTyped_of_check liberal keyed right plain.2 rightChecked
      exact .binary leftTyped rightTyped (operatorTyped_of_binaryTy rule)
  | access name span old oldTarget =>
      rw [checkExpr] at checked
      obtain ⟨target, bound, checked⟩ := bind_eq_ok.mp checked
      obtain ⟨found, whole, rest⟩ := bind_eq_ok.mp checked
      cases rest
      exact .access (Chain.lookupVariable_eq_ok.mp bound) whole
  | element name index span old oldTarget =>
      rw [checkExpr] at checked
      obtain ⟨⟨index', indexTy⟩, indexChecked, checked⟩ := bind_eq_ok.mp checked
      obtain ⟨_, required, checked⟩ := bind_eq_ok.mp checked
      obtain ⟨target, bound, checked⟩ := bind_eq_ok.mp checked
      obtain ⟨found, isElement, rest⟩ := bind_eq_ok.mp checked
      cases rest
      have isInteger := Ty.eq_of_accepts (by decide) (by decide) (Ty.require_eq_ok.mp required)
      obtain ⟨isList, rfl⟩ := elementTy_eq_ok.mp isElement
      subst isInteger
      exact .element (exprTyped_of_check liberal keyed index plain indexChecked)
        (Chain.lookupVariable_eq_ok.mp bound) isList
  | call name arguments span old oldCallee =>
      rw [checkExpr] at checked
      obtain ⟨callee, found, checked⟩ := bind_eq_ok.mp checked
      obtain ⟨arguments', argumentsChecked, rest⟩ := bind_eq_ok.mp checked
      cases rest
      have bound := Chain.lookupFunction_eq_ok.mp found
      obtain ⟨argumentsTyped, sameLength⟩ :=
        exprsTyped_of_check liberal keyed arguments plain (keyed.arity bound) argumentsChecked
      rw [← sameLength] at bound
      exact .call bound argumentsTyped
  | list elements span old =>
      exact plain.elim

theorem exprsTyped_of_check (liberal : D.Liberal) {scope : StaticScope} (keyed : Keyed scope)
    (es : List Expr) {types : List Ty} {decorated : List Expr} (plain : AllPlain es)
    (arity : types.length = es.length) (checked : checkArguments scope types es = .ok decorated) :
    ExprsTyped D scope types decorated ∧ decorated.length = es.length := by
  cases es with
  | nil =>
      rw [List.length_nil, List.length_eq_zero_iff] at arity
      subst arity
      rw [checkArguments] at checked
      · cases checked
        exact ⟨.nil, rfl⟩
      · simp
  | cons first rest =>
      cases types with
      | nil =>
          cases arity
      | cons expected types =>
          rw [checkArguments] at checked
          obtain ⟨⟨first', received⟩, firstChecked, checked⟩ := bind_eq_ok.mp checked
          dsimp only at checked
          split at checked
          · rename_i accepted
            obtain ⟨rest', restChecked, checked⟩ := bind_eq_ok.mp checked
            cases checked
            have firstTyped := exprTyped_of_check liberal keyed first plain.1 firstChecked
            obtain ⟨restTyped, sameLength⟩ :=
              exprsTyped_of_check liberal keyed rest plain.2 (Nat.succ.inj arity) restChecked
            exact ⟨.cons firstTyped (liberal.accepts accepted) restTyped,
              congrArg Nat.succ sameLength⟩
          · cases checked

end

theorem elementsTyped_of_check (liberal : D.Liberal) {scope : StaticScope} (keyed : Keyed scope)
    (es : List Expr) {expected : Ty} {decorated : List Expr} (plain : AllPlain es)
    (checked : checkElements scope expected es = .ok decorated) :
    ExprsTyped D scope (List.replicate decorated.length expected) decorated := by
  induction es generalizing decorated with
  | nil =>
      rw [checkElements] at checked
      cases checked
      exact .nil
  | cons first rest inductionHypothesis =>
      rw [checkElements] at checked
      obtain ⟨⟨first', received⟩, firstChecked, checked⟩ := bind_eq_ok.mp checked
      obtain ⟨_, required, checked⟩ := bind_eq_ok.mp checked
      obtain ⟨rest', restChecked, checked⟩ := bind_eq_ok.mp checked
      cases checked
      have firstTyped := exprTyped_of_check liberal keyed first plain.1 firstChecked
      have restTyped := inductionHypothesis plain.2 restChecked
      exact .cons firstTyped (liberal.accepts (Ty.require_eq_ok.mp required)) restTyped

/-! ### Statements -/

theorem wholeTy_none_eq_ok {target : Variable} {offset : Nat} {ty : Ty} :
    wholeTy target none offset = .ok ty ↔ target.isList = false ∧ target.ty = ty := by
  unfold wholeTy
  by_cases isList : target.isList = true
  · simp [isList]
  · simp [isList]

theorem bindingTyped_of_check (liberal : D.Liberal) {scope : StaticScope} (keyed : Keyed scope)
    {typeName : Option String} {value decorated : Option Expr} {offset : Nat} {ty : Ty}
    (plain : OptionPlain value) (suits : D.Suits (typeName, value))
    (checked : checkBinding scope typeName value offset = .ok (decorated, ty)) :
    BindingTyped D scope decorated ty := by
  unfold checkBinding at checked
  split at checked
  · rename_i name e
    obtain ⟨declared, resolved, checked⟩ := bind_eq_ok.mp checked
    obtain ⟨⟨e', received⟩, valueChecked, checked⟩ := bind_eq_ok.mp checked
    obtain ⟨_, required, checked⟩ := bind_eq_ok.mp checked
    cases checked
    have named := (suits name ty rfl (Ty.resolve_eq_ok.mp resolved)).1
    have typed := exprTyped_of_check liberal keyed e (plain e rfl) valueChecked
    exact .given named typed (liberal.accepts (Ty.require_eq_ok.mp required))
  · rename_i name
    obtain ⟨declared, resolved, checked⟩ := bind_eq_ok.mp checked
    cases checked
    obtain ⟨named, blank⟩ := suits name ty rfl (Ty.resolve_eq_ok.mp resolved)
    exact .blank named (blank rfl)
  · rename_i e
    obtain ⟨⟨e', found⟩, valueChecked, checked⟩ := bind_eq_ok.mp checked
    cases checked
    exact .inferred (exprTyped_of_check liberal keyed e (plain e rfl) valueChecked)
  · cases checked

theorem boolean_of_checkCondition (liberal : D.Liberal) {scope : StaticScope} (keyed : Keyed scope)
    {condition decorated : Expr} (plain : condition.Plain)
    (checked : checkCondition scope condition = .ok decorated) :
    ExprTyped D scope none decorated .boolean := by
  unfold checkCondition at checked
  obtain ⟨⟨condition', ty⟩, conditionChecked, checked⟩ := bind_eq_ok.mp checked
  obtain ⟨_, required, checked⟩ := bind_eq_ok.mp checked
  cases checked
  have isBoolean := Ty.eq_of_accepts (by decide) (by decide) (Ty.require_eq_ok.mp required)
  subst isBoolean
  exact exprTyped_of_check liberal keyed condition plain conditionChecked

theorem accepted_of_checkAgainst (liberal : D.Liberal) {scope : StaticScope} (keyed : Keyed scope)
    {expected : Ty} {value decorated : Expr} (plain : value.Plain)
    (checked : checkAgainst scope expected value = .ok decorated) :
    ∃ received, ExprTyped D scope (some expected) decorated received ∧
      D.Accepts expected received := by
  unfold checkAgainst at checked
  obtain ⟨⟨value', received⟩, valueChecked, checked⟩ := bind_eq_ok.mp checked
  obtain ⟨_, required, checked⟩ := bind_eq_ok.mp checked
  cases checked
  have typed := exprTyped_of_check liberal keyed value plain valueChecked
  exact ⟨received, typed, liberal.accepts (Ty.require_eq_ok.mp required)⟩

structure Inside (returns : Ty) (scope : StaticScope) : Prop where
  keyed : Keyed scope
  returnType : scope.returnType? = some returns

namespace Inside

variable {returns : Ty} {scope outer : StaticScope} {frame : StaticFrame}

theorem child (inside : Inside returns scope) : Inside returns (scope.push .empty) :=
  ⟨inside.keyed, inside.returnType⟩

theorem addVariable (inside : Inside returns (outer.push frame)) (name : String)
    (target : Variable) : Inside returns (outer.push (frame.addVariable name target)) :=
  ⟨inside.keyed, inside.returnType⟩

end Inside

theorem assignmentTyped_of_check (liberal : D.Liberal) {returns : Ty} {outer : StaticScope}
    {frame : StaticFrame} (keyed : Keyed (outer.push frame))
    {receiver receiver' value value' : Expr} {expected : Ty} {offset : Nat} {span : Span}
    (receiverPlain : receiver.Plain) (valuePlain : value.Plain)
    (isReceiver : isAccess receiver = true)
    (receiverChecked : checkExpr (outer.push frame) none receiver = .ok (receiver', expected))
    (mutable : requireMutable (targetOf receiver') offset = .ok ())
    (valueChecked : checkAgainst (outer.push frame) expected value = .ok value') :
    StmtTyped D returns outer frame (.assignment receiver' value' span) frame := by
  obtain ⟨received, valueTyped, accepted⟩ :=
    accepted_of_checkAgainst liberal keyed valuePlain valueChecked
  have isMutable {target : Variable} (found : targetOf receiver' = some target) :
      target.mutable = true := by
    rw [found] at mutable
    unfold requireMutable at mutable
    by_cases holds : target.mutable = true
    · exact holds
    · simp [holds] at mutable
  have receiverTyped := exprTyped_of_check liberal keyed receiver receiverPlain receiverChecked
  cases receiver with
  | access name place old oldTarget =>
      rw [checkExpr] at receiverChecked
      obtain ⟨target, bound, receiverChecked⟩ := bind_eq_ok.mp receiverChecked
      obtain ⟨found, whole, rest⟩ := bind_eq_ok.mp receiverChecked
      cases rest
      obtain ⟨isSingle, rfl⟩ := wholeTy_none_eq_ok.mp whole
      exact .assignWhole (Chain.lookupVariable_eq_ok.mp bound) isSingle (isMutable rfl)
        valueTyped accepted
  | element name index place old oldTarget =>
      rw [checkExpr] at receiverChecked
      obtain ⟨⟨index', indexTy⟩, _, receiverChecked⟩ := bind_eq_ok.mp receiverChecked
      obtain ⟨_, _, receiverChecked⟩ := bind_eq_ok.mp receiverChecked
      obtain ⟨target, _, receiverChecked⟩ := bind_eq_ok.mp receiverChecked
      obtain ⟨found, _, rest⟩ := bind_eq_ok.mp receiverChecked
      cases rest
      cases receiverTyped with
      | element indexTyped bound isList =>
          exact .assignElement indexTyped bound isList (isMutable rfl) valueTyped accepted
  | _ =>
      cases isReceiver

mutual

theorem stmtTyped_of_check (liberal : D.Liberal) {returns : Ty} {outer : StaticScope}
    {frame : StaticFrame} (inside : Inside returns (outer.push frame)) (s : Stmt) {decorated : Stmt}
    {scope : StaticScope} (plain : s.Plain)
    (suits : ∀ declaration ∈ s.declarations, D.Suits declaration)
    (checked : checkStmt (outer.push frame) s = .ok (decorated, scope)) :
    ∃ next, scope = outer.push next ∧ Inside returns (outer.push next) ∧
      StmtTyped D returns outer frame decorated next := by
  cases s with
  | expression value span =>
      rw [checkStmt] at checked
      split at checked
      · obtain ⟨⟨value', ty⟩, valueChecked, checked⟩ := bind_eq_ok.mp checked
        cases checked
        have typed := exprTyped_of_check liberal inside.keyed value plain valueChecked
        exact ⟨frame, rfl, inside, .expression typed⟩
      · cases checked
  | declaration name typeName value span old =>
      rw [checkStmt] at checked
      obtain ⟨⟨value', ty⟩, bindingChecked, checked⟩ := bind_eq_ok.mp checked
      obtain ⟨wider, defined, checked⟩ := bind_eq_ok.mp checked
      cases checked
      obtain ⟨unbound, rfl⟩ := Chain.defineVariable_push_eq_ok.mp defined
      have typed := bindingTyped_of_check liberal inside.keyed plain
        (suits _ (by simp [Stmt.declarations])) bindingChecked
      exact ⟨_, rfl, inside.addVariable _ _, .declaration typed unbound⟩
  | assignment receiver value span =>
      rw [checkStmt] at checked
      split at checked
      · rename_i isReceiver
        obtain ⟨⟨receiver', expected⟩, receiverChecked, checked⟩ := bind_eq_ok.mp checked
        obtain ⟨_, mutable, checked⟩ := bind_eq_ok.mp checked
        obtain ⟨value', valueChecked, checked⟩ := bind_eq_ok.mp checked
        cases checked
        exact ⟨frame, rfl, inside, assignmentTyped_of_check liberal inside.keyed plain.1 plain.2
          isReceiver receiverChecked mutable valueChecked⟩
      · cases checked
  | conditional condition thenBlock elseBlock span =>
      rw [checkStmt] at checked
      split at checked
      · cases checked
      · obtain ⟨condition', conditionChecked, checked⟩ := bind_eq_ok.mp checked
        obtain ⟨thenBlock', thenChecked, checked⟩ := bind_eq_ok.mp checked
        obtain ⟨elseBlock', elseChecked, checked⟩ := bind_eq_ok.mp checked
        cases checked
        have conditionTyped :=
          boolean_of_checkCondition liberal inside.keyed plain.1 conditionChecked
        have thenTyped := blockTyped_of_check liberal inside.child thenBlock plain.2.1
          (fun d member => suits d (List.mem_append_left _ member)) thenChecked
        have elseTyped := blockTyped_of_check liberal inside.child elseBlock plain.2.2
          (fun d member => suits d (List.mem_append_right _ member)) elseChecked
        exact ⟨frame, rfl, inside, .conditional conditionTyped thenTyped elseTyped⟩
  | switch subject cases span =>
      rw [checkStmt] at checked
      obtain ⟨⟨subject', ty⟩, subjectChecked, checked⟩ := bind_eq_ok.mp checked
      obtain ⟨_, _, checked⟩ := bind_eq_ok.mp checked
      obtain ⟨cases', casesChecked, checked⟩ := bind_eq_ok.mp checked
      cases checked
      have subjectTyped := exprTyped_of_check liberal inside.keyed subject plain.1 subjectChecked
      have casesTyped := casesTyped_of_check liberal inside cases plain.2 suits casesChecked
      exact ⟨frame, rfl, inside, .switch subjectTyped casesTyped⟩
  | loop condition body span =>
      rw [checkStmt] at checked
      obtain ⟨condition', conditionChecked, checked⟩ := bind_eq_ok.mp checked
      obtain ⟨body', bodyChecked, checked⟩ := bind_eq_ok.mp checked
      cases checked
      have conditionTyped := boolean_of_checkCondition liberal inside.keyed plain.1 conditionChecked
      have bodyTyped := blockTyped_of_check liberal inside.child body plain.2 suits bodyChecked
      exact ⟨frame, rfl, inside, .loop conditionTyped bodyTyped⟩
  | result value span =>
      rw [checkStmt, inside.returnType] at checked
      obtain ⟨value', valueChecked, checked⟩ := bind_eq_ok.mp checked
      cases checked
      obtain ⟨received, typed, accepted⟩ :=
        accepted_of_checkAgainst liberal inside.keyed plain valueChecked
      exact ⟨frame, rfl, inside, .result typed accepted⟩

theorem blockTyped_of_check (liberal : D.Liberal) {returns : Ty} {outer : StaticScope}
    {frame : StaticFrame} (inside : Inside returns (outer.push frame)) (block : List Stmt)
    {decorated : List Stmt} (plain : BlockPlain block)
    (suits : ∀ declaration ∈ blockDeclarations block, D.Suits declaration)
    (checked : checkBlock (outer.push frame) block = .ok decorated) :
    BlockTyped D returns outer frame decorated := by
  cases block with
  | nil =>
      rw [checkBlock] at checked
      cases checked
      exact .nil
  | cons first rest =>
      rw [checkBlock] at checked
      obtain ⟨⟨first', scope⟩, firstChecked, checked⟩ := bind_eq_ok.mp checked
      obtain ⟨rest', restChecked, checked⟩ := bind_eq_ok.mp checked
      cases checked
      obtain ⟨next, rfl, insideNext, firstTyped⟩ := stmtTyped_of_check liberal inside first plain.1
        (fun d member => suits d (List.mem_append_left _ member)) firstChecked
      have restTyped := blockTyped_of_check liberal insideNext rest plain.2
        (fun d member => suits d (List.mem_append_right _ member)) restChecked
      exact .cons firstTyped restTyped

theorem casesTyped_of_check (liberal : D.Liberal) {returns : Ty} {scope : StaticScope}
    (inside : Inside returns scope) (cases : List Case) {expected : Ty} {decorated : List Case}
    (plain : CasesPlain cases)
    (suits : ∀ declaration ∈ casesDeclarations cases, D.Suits declaration)
    (checked : checkCases scope expected cases = .ok decorated) :
    CasesTyped D returns scope decorated := by
  match cases with
  | [] =>
      rw [checkCases] at checked
      cases checked
      exact .nil
  | .mk value body span :: rest =>
      rw [checkCases] at checked
      obtain ⟨first', firstChecked, checked⟩ := bind_eq_ok.mp checked
      obtain ⟨rest', restChecked, checked⟩ := bind_eq_ok.mp checked
      cases checked
      have bodySuits := fun d member => suits d (List.mem_append_left _ member)
      have restTyped := casesTyped_of_check liberal inside rest plain.2.2
        (fun d member => suits d (List.mem_append_right _ member)) restChecked
      cases value with
      | none =>
          rw [checkCase] at firstChecked
          obtain ⟨body', bodyChecked, firstChecked⟩ := bind_eq_ok.mp firstChecked
          cases firstChecked
          have bodyTyped :=
            blockTyped_of_check liberal inside.child body plain.2.1 bodySuits bodyChecked
          exact .default bodyTyped restTyped
      | some value =>
          rw [checkCase] at firstChecked
          obtain ⟨⟨value', received⟩, valueChecked, firstChecked⟩ := bind_eq_ok.mp firstChecked
          obtain ⟨_, _, firstChecked⟩ := bind_eq_ok.mp firstChecked
          obtain ⟨body', bodyChecked, firstChecked⟩ := bind_eq_ok.mp firstChecked
          cases firstChecked
          have valueTyped :=
            exprTyped_of_check liberal inside.keyed value (plain.1 value rfl) valueChecked
          have bodyTyped :=
            blockTyped_of_check liberal inside.child body plain.2.1 bodySuits bodyChecked
          exact .value valueTyped bodyTyped restTyped

end

/-! ### Programs -/

theorem Keyed.addVariable {globals : StaticFrame} (keyed : Keyed (.ofGlobals globals))
    (name : String) (target : Variable) : Keyed (.ofGlobals (globals.addVariable name target)) :=
  keyed

theorem Keyed.addFunction {globals : StaticFrame} (keyed : Keyed (.ofGlobals globals))
    (callee : Callee) :
    Keyed (.ofGlobals (globals.addFunction callee.signature.key callee)) := by
  intro key found bound
  have inFrame : (globals.addFunction callee.signature.key callee).findFunction? key =
      some found := by
    simpa [Chain.findFunction?, Chain.frames, Chain.ofGlobals] using bound
  rw [Frame.findFunction?_addFunction] at inFrame
  by_cases same : key = callee.signature.key
  · rw [if_pos same] at inFrame
    cases inFrame
    exact same.symm
  · rw [if_neg same] at inFrame
    apply keyed key found
    simpa [Chain.findFunction?, Chain.frames, Chain.ofGlobals] using inFrame

theorem keyed_builtinFrame : Keyed (.ofGlobals builtinFrame) := by
  intro key callee bound
  have inFrame : builtinFrame.findFunction? key = some callee := by
    simpa [Chain.findFunction?, Chain.frames, Chain.ofGlobals] using bound
  obtain ⟨builtin, _, rfl, rfl⟩ := Frame.findFunction?_ofBuiltins.mp inFrame
  rfl

theorem globalTyped_of_check (liberal : D.Liberal) {globals : StaticFrame}
    (keyed : Keyed (.ofGlobals globals)) {global decorated : GlobalDecl} {scope : StaticScope}
    (shaped : global.Shaped) (suits : D.Suits (global.typeName, global.value))
    (checked : checkGlobal (.ofGlobals globals) global = .ok (decorated, scope)) :
    ∃ target, GlobalTyped D globals decorated target ∧ decorated.target = some target ∧
      globals.findVariable? decorated.name = none ∧
      scope = .ofGlobals (globals.addVariable decorated.name target) := by
  unfold checkGlobal at checked
  obtain ⟨⟨value', ty⟩, bindingChecked, checked⟩ := bind_eq_ok.mp checked
  obtain ⟨wider, defined, checked⟩ := bind_eq_ok.mp checked
  cases checked
  obtain ⟨unbound, rfl⟩ := Chain.defineVariable_ofGlobals_eq_ok.mp defined
  refine ⟨_, ?_, rfl, unbound, rfl⟩
  cases shaped with
  | list typeName elements span old isList named initial plain =>
      rw [named, initial] at suits
      rw [named, initial, checkBinding] at bindingChecked
      obtain ⟨declared, resolved, bindingChecked⟩ := bind_eq_ok.mp bindingChecked
      obtain ⟨⟨list', received⟩, listChecked, bindingChecked⟩ := bind_eq_ok.mp bindingChecked
      obtain ⟨_, _, bindingChecked⟩ := bind_eq_ok.mp bindingChecked
      cases bindingChecked
      rw [checkExpr] at listChecked
      obtain ⟨elements', elementsChecked, listChecked⟩ := bind_eq_ok.mp listChecked
      cases listChecked
      have elementsTyped := elementsTyped_of_check liberal keyed elements plain elementsChecked
      have tyNamed := (suits typeName ty rfl (Ty.resolve_eq_ok.mp resolved)).1
      rw [isList]
      exact .list rfl rfl tyNamed (liberal.sizes _ _) elementsTyped
  | single isSingle plain initialised =>
      have typed := bindingTyped_of_check liberal keyed plain suits bindingChecked
      rw [isSingle]
      exact .single rfl typed

theorem globalsTyped_of_check (liberal : D.Liberal) {globals after : StaticFrame}
    (keyed : Keyed (.ofGlobals globals)) (list : List GlobalDecl) {decorated : List GlobalDecl}
    (shaped : ∀ global ∈ list, global.Shaped)
    (suits : ∀ global ∈ list, D.Suits (global.typeName, global.value))
    (checked : checkEach (fun global => binding (checkGlobal · global)) list globals =
      .ok decorated after) :
    GlobalsTyped D globals decorated after ∧ Keyed (.ofGlobals after) := by
  induction list generalizing globals decorated with
  | nil =>
      cases checked
      exact ⟨.nil, keyed⟩
  | cons first rest inductionHypothesis =>
      rw [checkEach] at checked
      obtain ⟨first', middle, firstChecked, checked⟩ := step_bind_eq_ok.mp checked
      obtain ⟨rest', last, restChecked, checked⟩ := step_bind_eq_ok.mp checked
      cases checked
      obtain ⟨scope, globalChecked, rfl⟩ := binding_eq_ok firstChecked
      obtain ⟨firstShaped, restShaped⟩ := List.forall_mem_cons.mp shaped
      obtain ⟨firstSuits, restSuits⟩ := List.forall_mem_cons.mp suits
      obtain ⟨target, firstTyped, isDecorated, unbound, rfl⟩ :=
        globalTyped_of_check liberal keyed firstShaped firstSuits globalChecked
      obtain ⟨restTyped, keyedAfter⟩ := inductionHypothesis
        (keyed.addVariable first'.name target) restShaped restSuits restChecked
      exact ⟨.cons firstTyped isDecorated unbound restTyped, keyedAfter⟩

/-- A declared function is decorated with the signature that its annotations name. -/
structure Signed (function : FunctionDecl) (types : List Ty) (returns : Ty) : Prop where
  decorated : function.callee =
    some { signature := .plain function.name types returns, kind := .signature }
  parameters : resolveAll function.span.start (function.parameters.map Parameter.typeName) =
    .ok types
  result : resolveReturn function.returnTypeName function.span.start = .ok returns

theorem resolveAll_length {offset : Nat} {names : List String} {types : List Ty}
    (resolved : resolveAll offset names = .ok types) : types.length = names.length := by
  induction names generalizing types with
  | nil =>
      cases resolved
      rfl
  | cons name names inductionHypothesis =>
      rw [resolveAll] at resolved
      obtain ⟨ty, _, resolved⟩ := bind_eq_ok.mp resolved
      obtain ⟨rest, restResolved, resolved⟩ := bind_eq_ok.mp resolved
      cases resolved
      exact congrArg Nat.succ (inductionHypothesis restResolved)

theorem resolveAll_mem {offset : Nat} {names : List String} {types : List Ty}
    (resolved : resolveAll offset names = .ok types) {ty : Ty} (member : ty ∈ types) :
    ∃ name ∈ names, Ty.ofName? name = some ty := by
  induction names generalizing types with
  | nil =>
      cases resolved
      cases member
  | cons name names inductionHypothesis =>
      rw [resolveAll] at resolved
      obtain ⟨first, firstResolved, resolved⟩ := bind_eq_ok.mp resolved
      obtain ⟨rest, restResolved, resolved⟩ := bind_eq_ok.mp resolved
      cases resolved
      rcases List.mem_cons.mp member with rfl | later
      · exact ⟨name, List.mem_cons_self, Ty.resolve_eq_ok.mp firstResolved⟩
      · obtain ⟨found, foundMember, foundEq⟩ := inductionHypothesis restResolved later
        exact ⟨found, List.mem_cons_of_mem _ foundMember, foundEq⟩

/-- What checking a body relies on, whether or not the function is decorated. -/
structure Ready (D : Discipline) (function : FunctionDecl) : Prop where
  plain : BlockPlain function.body
  declarations : ∀ declaration ∈ blockDeclarations function.body, D.Suits declaration
  parameters : ∀ parameter ∈ function.parameters, ∀ ty,
    Ty.ofName? parameter.typeName = some ty → D.names ty
  results : ∀ returns,
    resolveReturn function.returnTypeName function.span.start = .ok returns →
    D.names returns ∧ (D.blank returns ∨ endsWithResult function.body = true)

theorem functionsDeclared_of_check {globals after : StaticFrame}
    (keyed : Keyed (.ofGlobals globals)) (list : List FunctionDecl)
    {declared : List FunctionDecl} (ready : ∀ function ∈ list, Ready D function)
    (checked : checkEach (fun function => binding (declareFunction · function)) list globals =
      .ok declared after) :
    FunctionsDeclared globals declared after ∧ Keyed (.ofGlobals after) ∧
      ∀ function ∈ declared, Ready D function ∧ ∃ types returns, Signed function types returns := by
  induction list generalizing globals declared with
  | nil =>
      cases checked
      refine ⟨.nil, keyed, ?_⟩
      intro function impossible
      cases impossible
  | cons first rest inductionHypothesis =>
      rw [checkEach] at checked
      obtain ⟨first', middle, firstChecked, checked⟩ := step_bind_eq_ok.mp checked
      obtain ⟨rest', last, restChecked, checked⟩ := step_bind_eq_ok.mp checked
      cases checked
      obtain ⟨firstReady, restReady⟩ := List.forall_mem_cons.mp ready
      obtain ⟨scope, isDeclared, rfl⟩ := binding_eq_ok firstChecked
      unfold declareFunction at isDeclared
      obtain ⟨types, parametersEq, isDeclared⟩ := bind_eq_ok.mp isDeclared
      obtain ⟨returns, resultEq, isDeclared⟩ := bind_eq_ok.mp isDeclared
      obtain ⟨wider, defined, isDeclared⟩ := bind_eq_ok.mp isDeclared
      cases isDeclared
      obtain ⟨unbound, rfl⟩ := Chain.defineFunction_ofGlobals_eq_ok.mp defined
      obtain ⟨restDeclared, keyedAfter, restSigned⟩ := inductionHypothesis
        (keyed.addFunction { signature := .plain first.name types returns, kind := .signature })
        restReady restChecked
      refine ⟨.cons rfl rfl rfl unbound restDeclared, keyedAfter, ?_⟩
      refine List.forall_mem_cons.mpr ⟨⟨?_, types, returns, ?_⟩, restSigned⟩
      · exact ⟨firstReady.plain, firstReady.declarations, firstReady.parameters,
          firstReady.results⟩
      · exact ⟨rfl, parametersEq, resultEq⟩

theorem bindParameters_eq_push {offset : Nat} {outer scope : StaticScope} {frame : StaticFrame}
    (parameters : List (Parameter × Ty)) {returns : Ty} (inside : Inside returns (outer.push frame))
    (bound : bindParameters offset (outer.push frame) parameters = .ok scope) :
    ∃ inner, scope = outer.push inner ∧ Inside returns (outer.push inner) := by
  induction parameters generalizing frame with
  | nil =>
      cases bound
      exact ⟨frame, rfl, inside⟩
  | cons first rest inductionHypothesis =>
      obtain ⟨parameter, ty⟩ := first
      rw [bindParameters] at bound
      obtain ⟨wider, defined, restBound⟩ := bind_eq_ok.mp bound
      obtain ⟨_, rfl⟩ := Chain.defineVariable_push_eq_ok.mp defined
      exact inductionHypothesis (inside.addVariable _ _) restBound

theorem isResult_of_check {scope after : StaticScope} {s decorated : Stmt}
    (isResult : s.isResult = true) (checked : checkStmt scope s = .ok (decorated, after)) :
    decorated.isResult = true := by
  cases s with
  | result value span =>
      rw [checkStmt] at checked
      split at checked
      · cases checked
      · obtain ⟨value', _, checked⟩ := bind_eq_ok.mp checked
        cases checked
        rfl
  | _ =>
      cases isResult

theorem endsWithResult_of_check {scope : StaticScope} {block decorated : List Stmt}
    (ends : endsWithResult block = true) (checked : checkBlock scope block = .ok decorated) :
    endsWithResult decorated = true := by
  induction block generalizing scope decorated with
  | nil =>
      cases ends
  | cons first rest inductionHypothesis =>
      rw [checkBlock] at checked
      obtain ⟨⟨first', next⟩, firstChecked, checked⟩ := bind_eq_ok.mp checked
      obtain ⟨rest', restChecked, checked⟩ := bind_eq_ok.mp checked
      cases checked
      cases rest with
      | nil =>
          cases restChecked
          exact isResult_of_check (s := first) ends firstChecked
      | cons second others =>
          have restEnds := inductionHypothesis ends restChecked
          cases rest' with
          | nil =>
              cases restEnds
          | cons second' others' =>
              exact restEnds

theorem bodyTyped_of_check (liberal : D.Liberal) {globals : StaticFrame}
    (keyed : Keyed (.ofGlobals globals)) {function decorated : FunctionDecl} {types : List Ty}
    {returns : Ty} (ready : Ready D function) (signed : Signed function types returns)
    (checked : checkFunction (.ofGlobals globals) function = .ok decorated) :
    decorated.name = function.name ∧ decorated.callee = function.callee ∧
      BodyTyped D globals (.plain function.name types returns) (.declared decorated) := by
  unfold checkFunction at checked
  obtain ⟨callee, calleeEq, checked⟩ := bind_eq_ok.mp checked
  unfold calleeOf at calleeEq
  rw [signed.decorated] at calleeEq
  cases calleeEq
  obtain ⟨inner, bound, checked⟩ := bind_eq_ok.mp checked
  obtain ⟨body', bodyChecked, checked⟩ := bind_eq_ok.mp checked
  cases checked
  have inside : Inside returns ((Chain.ofGlobals globals).body returns) := ⟨keyed, rfl⟩
  obtain ⟨frame, rfl, insideFrame⟩ := bindParameters_eq_push _ inside bound
  have typed := blockTyped_of_check liberal insideFrame function.body ready.plain ready.declarations
    bodyChecked
  obtain ⟨returnsNamed, ends⟩ := ready.results returns signed.result
  refine ⟨rfl, rfl, ?_⟩
  change BodyTyped D globals
    (.plain ({ function with body := body' } : FunctionDecl).name types returns) _
  refine .declared ?_ ?_ returnsNamed bound typed ?_
  · rw [resolveAll_length signed.parameters, List.length_map]
  · intro ty member
    obtain ⟨name, nameMember, resolved⟩ := resolveAll_mem signed.parameters member
    obtain ⟨parameter, parameterMember, rfl⟩ := List.mem_map.mp nameMember
    exact ready.parameters parameter parameterMember ty resolved
  · rcases ends with blank | ends
    · exact .inl blank
    · exact .inr (endsWithResult_of_check ends bodyChecked)

theorem bodiesTyped_of_check (liberal : D.Liberal) {globals after : StaticFrame}
    (keyed : Keyed (.ofGlobals globals)) {early last : StaticFrame} (list : List FunctionDecl)
    {decorated : List FunctionDecl} (declared : FunctionsDeclared early list last)
    (ready : ∀ function ∈ list, Ready D function ∧ ∃ types returns, Signed function types returns)
    (checked : checkEach (fun function => reading (checkFunction · function)) list globals =
      .ok decorated after) :
    FunctionsDeclared early decorated last ∧ globals = after ∧
      ∀ function ∈ decorated, ∀ callee, function.callee = some callee →
        BodyTyped D globals callee.signature (.declared function) := by
  induction list generalizing early decorated with
  | nil =>
      cases checked
      refine ⟨declared, rfl, ?_⟩
      intro function impossible
      cases impossible
  | cons first rest inductionHypothesis =>
      rw [checkEach] at checked
      obtain ⟨first', middle, firstChecked, checked⟩ := step_bind_eq_ok.mp checked
      obtain ⟨rest', final, restChecked, checked⟩ := step_bind_eq_ok.mp checked
      cases checked
      obtain ⟨functionChecked, rfl⟩ := reading_eq_ok firstChecked
      obtain ⟨⟨firstReady, types, returns, signed⟩, restReady⟩ := List.forall_mem_cons.mp ready
      obtain ⟨nameEq, calleeEq, typed⟩ :=
        bodyTyped_of_check liberal keyed firstReady signed functionChecked
      cases declared with
      | cons isDecorated named plain unbound restDeclared =>
          obtain ⟨restDeclared', sameGlobals, restTyped⟩ :=
            inductionHypothesis restDeclared restReady restChecked
          refine ⟨.cons (calleeEq.trans isDecorated) (named.trans nameEq.symm)
            (plain.trans nameEq.symm) unbound restDeclared', sameGlobals, ?_⟩
          refine List.forall_mem_cons.mpr ⟨?_, restTyped⟩
          intro callee found
          rw [calleeEq, signed.decorated] at found
          cases found
          exact typed

theorem main_of_require {globals : StaticFrame} (keyed : Keyed (.ofGlobals globals))
    {offset : Nat} {done : Unit} (required : requireMain (.ofGlobals globals) offset = .ok done) :
    ∃ callee, (Chain.ofGlobals globals).findFunction? ("main", 0) = some callee ∧
      callee.signature.parameterTypes = [] ∧ callee.signature.returnType = .integer := by
  unfold requireMain at required
  cases found : (Chain.ofGlobals globals).findFunction? ("main", 0) with
  | none =>
      rw [found] at required
      cases required
  | some callee =>
      rw [found] at required
      dsimp only at required
      by_cases isInteger : callee.signature.returnType = .integer
      · exact ⟨callee, rfl, List.eq_nil_of_length_eq_zero (keyed.arity found), isInteger⟩
      · rw [if_neg isInteger] at required
        cases required

/-- A program that checking accepts is typed, if its lists stand where they may and its
annotations suit the discipline. -/
theorem Source.typed_of_check (liberal : D.Liberal) {source decorated : Source}
    (shaped : source.Shaped) (suits : D.SuitsSource source) (checked : source.check = .ok decorated)
    :
    ∃ early globals, SourceTyped D decorated early globals := by
  unfold Source.check at checked
  cases result : checkSource source builtinFrame with
  | error fault after =>
      rw [result] at checked
      cases checked
  | ok found after =>
      rw [result] at checked
      cases checked
      unfold checkSource at result
      obtain ⟨globals', early, globalsChecked, result⟩ := step_bind_eq_ok.mp result
      obtain ⟨declared, last, functionsChecked, result⟩ := step_bind_eq_ok.mp result
      obtain ⟨functions', final, bodiesChecked, result⟩ := step_bind_eq_ok.mp result
      obtain ⟨_, end', mainRequired, result⟩ := step_bind_eq_ok.mp result
      cases result
      obtain ⟨globalsTyped, keyedEarly⟩ := globalsTyped_of_check liberal keyed_builtinFrame
        source.globals shaped.globals suits.globals globalsChecked
      have ready : ∀ function ∈ source.functions, Ready D function := by
        intro function member
        exact ⟨shaped.functions function member, suits.declarations function member,
          suits.parameters function member, suits.results function member⟩
      obtain ⟨functionsDeclared, keyedLast, signed⟩ :=
        functionsDeclared_of_check keyedEarly source.functions ready functionsChecked
      obtain ⟨functionsDeclared', rfl, bodies⟩ :=
        bodiesTyped_of_check liberal keyedLast declared functionsDeclared signed bodiesChecked
      obtain ⟨hasMain, rfl⟩ := reading_eq_ok mainRequired
      have main := main_of_require keyedLast hasMain
      exact ⟨early, last, globalsTyped, functionsDeclared', bodies, main⟩

end ScriptLang
