import Mathlib.Data.List.Forall2
import ScriptLang.Proofs.Step
import ScriptLang.Typing.Source

/-!
Trees without their decorations.

Erasing empties every slot that checking fills.  Checking fills slots and changes nothing else, so
a checked tree has the erasure of the tree that it was made from.
-/

namespace ScriptLang

/-! ### Erasing -/

mutual

def Expr.erased : Expr → Expr
  | .literal value span _ => .literal value span none
  | .group inner span _ => .group inner.erased span none
  | .binary op left right span _ => .binary op left.erased right.erased span none
  | .access name span _ _ => .access name span none none
  | .element name index span _ _ => .element name index.erased span none none
  | .call name arguments span _ _ => .call name (erasedExprs arguments) span none none
  | .list elements span _ => .list (erasedExprs elements) span none

def erasedExprs : List Expr → List Expr
  | [] => []
  | first :: rest => first.erased :: erasedExprs rest

end

mutual

def Stmt.erased : Stmt → Stmt
  | .expression value span => .expression value.erased span
  | .declaration name typeName value span _ =>
      .declaration name typeName (value.map Expr.erased) span none
  | .assignment receiver value span => .assignment receiver.erased value.erased span
  | .conditional condition thenBlock elseBlock span =>
      .conditional condition.erased (erasedBlock thenBlock) (erasedBlock elseBlock) span
  | .switch condition cases span => .switch condition.erased (erasedCases cases) span
  | .loop condition body span => .loop condition.erased (erasedBlock body) span
  | .result value span => .result value.erased span

def erasedBlock : List Stmt → List Stmt
  | [] => []
  | first :: rest => first.erased :: erasedBlock rest

def erasedCases : List Case → List Case
  | [] => []
  | .mk value body span :: rest =>
      .mk (value.map Expr.erased) (erasedBlock body) span :: erasedCases rest

end

def GlobalDecl.erased (global : GlobalDecl) : GlobalDecl :=
  { global with value := global.value.map Expr.erased, target := none }

def FunctionDecl.erased (function : FunctionDecl) : FunctionDecl :=
  { function with body := erasedBlock function.body, callee := none }

/-- The tree without decorations. -/
def Source.erased (source : Source) : Source :=
  { source with
    globals := source.globals.map GlobalDecl.erased
    functions := source.functions.map FunctionDecl.erased }

namespace Typing

theorem isCall_erased (e : Expr) : isCall e.erased = isCall e := by
  cases e with
  | _ => rfl

theorem isAccess_erased (e : Expr) : isAccess e.erased = isAccess e := by
  cases e with
  | _ => rfl

/-! ### Checking keeps the erasure -/

mutual

theorem checkExpr_erased {scope : StaticScope} {context : Option Ty} (e : Expr) {decorated : Expr}
    {ty : Ty} (checked : checkExpr scope context e = .ok (decorated, ty)) :
    decorated.erased = e.erased := by
  cases e with
  | literal value span old =>
      rw [checkExpr] at checked
      obtain ⟨found, _, checked⟩ := bind_eq_ok.mp checked
      cases checked
      rfl
  | group inner span old =>
      rw [checkExpr] at checked
      obtain ⟨⟨inner', found⟩, innerChecked, checked⟩ := bind_eq_ok.mp checked
      cases checked
      rw [Expr.erased, Expr.erased, checkExpr_erased inner innerChecked]
  | binary op left right span old =>
      rw [checkExpr] at checked
      obtain ⟨⟨left', leftTy⟩, leftChecked, checked⟩ := bind_eq_ok.mp checked
      obtain ⟨⟨right', rightTy⟩, rightChecked, checked⟩ := bind_eq_ok.mp checked
      obtain ⟨found, _, checked⟩ := bind_eq_ok.mp checked
      cases checked
      rw [Expr.erased, Expr.erased, checkExpr_erased left leftChecked,
        checkExpr_erased right rightChecked]
  | access name span old target =>
      rw [checkExpr] at checked
      obtain ⟨bound, _, checked⟩ := bind_eq_ok.mp checked
      obtain ⟨found, _, checked⟩ := bind_eq_ok.mp checked
      cases checked
      rfl
  | element name index span old target =>
      rw [checkExpr] at checked
      obtain ⟨⟨index', indexTy⟩, indexChecked, checked⟩ := bind_eq_ok.mp checked
      obtain ⟨_, _, checked⟩ := bind_eq_ok.mp checked
      obtain ⟨bound, _, checked⟩ := bind_eq_ok.mp checked
      obtain ⟨found, _, checked⟩ := bind_eq_ok.mp checked
      cases checked
      rw [Expr.erased, Expr.erased, checkExpr_erased index indexChecked]
  | call name arguments span old callee =>
      rw [checkExpr] at checked
      obtain ⟨bound, _, checked⟩ := bind_eq_ok.mp checked
      obtain ⟨arguments', argumentsChecked, checked⟩ := bind_eq_ok.mp checked
      cases checked
      rw [Expr.erased, Expr.erased, checkArguments_erased arguments argumentsChecked]
  | list elements span old =>
      rw [checkExpr] at checked
      obtain ⟨elements', elementsChecked, checked⟩ := bind_eq_ok.mp checked
      cases checked
      rw [Expr.erased, Expr.erased, checkElements_erased elements elementsChecked]

theorem checkArguments_erased {scope : StaticScope} {types : List Ty} (es : List Expr)
    {decorated : List Expr} (checked : checkArguments scope types es = .ok decorated) :
    erasedExprs decorated = erasedExprs es := by
  cases types with
  | nil =>
      rw [checkArguments] at checked
      · cases checked
        rfl
      · intro _ _ _ _ impossible
        cases impossible
  | cons expected types =>
      cases es with
      | nil =>
          rw [checkArguments] at checked
          · cases checked
            rfl
          · intro _ _ _ _ _ impossible
            cases impossible
      | cons first rest =>
          rw [checkArguments] at checked
          obtain ⟨⟨first', received⟩, firstChecked, checked⟩ := bind_eq_ok.mp checked
          dsimp only at checked
          by_cases accepts : expected.accepts received
          · rw [if_pos accepts] at checked
            obtain ⟨rest', restChecked, checked⟩ := bind_eq_ok.mp checked
            cases checked
            rw [erasedExprs, erasedExprs, checkExpr_erased first firstChecked,
              checkArguments_erased rest restChecked]
          · rw [if_neg accepts] at checked
            cases checked

theorem checkElements_erased {scope : StaticScope} {expected : Ty} (es : List Expr)
    {decorated : List Expr} (checked : checkElements scope expected es = .ok decorated) :
    erasedExprs decorated = erasedExprs es := by
  cases es with
  | nil =>
      cases checked
      rfl
  | cons first rest =>
      rw [checkElements] at checked
      obtain ⟨⟨first', received⟩, firstChecked, checked⟩ := bind_eq_ok.mp checked
      obtain ⟨_, _, checked⟩ := bind_eq_ok.mp checked
      obtain ⟨rest', restChecked, checked⟩ := bind_eq_ok.mp checked
      cases checked
      rw [erasedExprs, erasedExprs, checkExpr_erased first firstChecked,
        checkElements_erased rest restChecked]

end

theorem checkBinding_erased {scope : StaticScope} {typeName : Option String}
    {value decorated : Option Expr} {offset : Nat} {ty : Ty}
    (checked : checkBinding scope typeName value offset = .ok (decorated, ty)) :
    decorated.map Expr.erased = value.map Expr.erased := by
  cases typeName with
  | some typeName =>
      cases value with
      | some value =>
          obtain ⟨declared, _, checked⟩ := bind_eq_ok.mp checked
          obtain ⟨⟨value', received⟩, valueChecked, checked⟩ := bind_eq_ok.mp checked
          obtain ⟨_, _, checked⟩ := bind_eq_ok.mp checked
          cases checked
          exact congrArg some (checkExpr_erased value valueChecked)
      | none =>
          obtain ⟨declared, _, checked⟩ := bind_eq_ok.mp checked
          cases checked
          rfl
  | none =>
      cases value with
      | some value =>
          obtain ⟨⟨value', found⟩, valueChecked, checked⟩ := bind_eq_ok.mp checked
          cases checked
          exact congrArg some (checkExpr_erased value valueChecked)
      | none =>
          cases checked

theorem checkCondition_erased {scope : StaticScope} {condition decorated : Expr}
    (checked : checkCondition scope condition = .ok decorated) :
    decorated.erased = condition.erased := by
  obtain ⟨⟨condition', found⟩, conditionChecked, checked⟩ := bind_eq_ok.mp checked
  obtain ⟨_, _, checked⟩ := bind_eq_ok.mp checked
  cases checked
  exact checkExpr_erased condition conditionChecked

theorem checkAgainst_erased {scope : StaticScope} {expected : Ty} {value decorated : Expr}
    (checked : checkAgainst scope expected value = .ok decorated) :
    decorated.erased = value.erased := by
  obtain ⟨⟨value', found⟩, valueChecked, checked⟩ := bind_eq_ok.mp checked
  obtain ⟨_, _, checked⟩ := bind_eq_ok.mp checked
  cases checked
  exact checkExpr_erased value valueChecked

mutual

theorem checkStmt_erased {scope after : StaticScope} (s : Stmt) {decorated : Stmt}
    (checked : checkStmt scope s = .ok (decorated, after)) : decorated.erased = s.erased := by
  cases s with
  | expression value span =>
      rw [checkStmt] at checked
      split at checked
      · obtain ⟨⟨value', found⟩, valueChecked, checked⟩ := bind_eq_ok.mp checked
        cases checked
        rw [Stmt.erased, Stmt.erased, checkExpr_erased value valueChecked]
      · cases checked
  | declaration name typeName value span target =>
      rw [checkStmt] at checked
      obtain ⟨⟨value', ty⟩, valueChecked, checked⟩ := bind_eq_ok.mp checked
      obtain ⟨wider, _, checked⟩ := bind_eq_ok.mp checked
      cases checked
      rw [Stmt.erased, Stmt.erased, checkBinding_erased valueChecked]
  | assignment receiver value span =>
      rw [checkStmt] at checked
      split at checked
      · obtain ⟨⟨receiver', expected⟩, receiverChecked, checked⟩ := bind_eq_ok.mp checked
        obtain ⟨_, _, checked⟩ := bind_eq_ok.mp checked
        obtain ⟨value', valueChecked, checked⟩ := bind_eq_ok.mp checked
        cases checked
        rw [Stmt.erased, Stmt.erased, checkExpr_erased receiver receiverChecked,
          checkAgainst_erased valueChecked]
      · cases checked
  | conditional condition thenBlock elseBlock span =>
      rw [checkStmt] at checked
      split at checked
      · cases checked
      · obtain ⟨condition', conditionChecked, checked⟩ := bind_eq_ok.mp checked
        obtain ⟨thenBlock', thenChecked, checked⟩ := bind_eq_ok.mp checked
        obtain ⟨elseBlock', elseChecked, checked⟩ := bind_eq_ok.mp checked
        cases checked
        rw [Stmt.erased, Stmt.erased, checkCondition_erased conditionChecked,
          checkBlock_erased thenBlock thenChecked, checkBlock_erased elseBlock elseChecked]
  | switch condition cs span =>
      rw [checkStmt] at checked
      obtain ⟨⟨condition', expected⟩, conditionChecked, checked⟩ := bind_eq_ok.mp checked
      obtain ⟨_, _, checked⟩ := bind_eq_ok.mp checked
      obtain ⟨cs', casesChecked, checked⟩ := bind_eq_ok.mp checked
      cases checked
      rw [Stmt.erased, Stmt.erased, checkExpr_erased condition conditionChecked,
        checkCases_erased cs casesChecked]
  | loop condition body span =>
      rw [checkStmt] at checked
      obtain ⟨condition', conditionChecked, checked⟩ := bind_eq_ok.mp checked
      obtain ⟨body', bodyChecked, checked⟩ := bind_eq_ok.mp checked
      cases checked
      rw [Stmt.erased, Stmt.erased, checkCondition_erased conditionChecked,
        checkBlock_erased body bodyChecked]
  | result value span =>
      rw [checkStmt] at checked
      split at checked
      · cases checked
      · obtain ⟨value', valueChecked, checked⟩ := bind_eq_ok.mp checked
        cases checked
        rw [Stmt.erased, Stmt.erased, checkAgainst_erased valueChecked]

theorem checkBlock_erased {scope : StaticScope} (b : List Stmt) {decorated : List Stmt}
    (checked : checkBlock scope b = .ok decorated) : erasedBlock decorated = erasedBlock b := by
  cases b with
  | nil =>
      cases checked
      rfl
  | cons first rest =>
      rw [checkBlock] at checked
      obtain ⟨⟨first', next⟩, firstChecked, checked⟩ := bind_eq_ok.mp checked
      obtain ⟨rest', restChecked, checked⟩ := bind_eq_ok.mp checked
      cases checked
      rw [erasedBlock, erasedBlock, checkStmt_erased first firstChecked,
        checkBlock_erased rest restChecked]

theorem checkCases_erased {scope : StaticScope} {expected : Ty} (cs : List Case)
    {decorated : List Case} (checked : checkCases scope expected cs = .ok decorated) :
    erasedCases decorated = erasedCases cs := by
  cases cs with
  | nil =>
      cases checked
      rfl
  | cons first rest =>
      obtain ⟨value, body, span⟩ := first
      rw [checkCases] at checked
      obtain ⟨first', firstChecked, checked⟩ := bind_eq_ok.mp checked
      obtain ⟨rest', restChecked, checked⟩ := bind_eq_ok.mp checked
      cases checked
      cases value with
      | none =>
          rw [checkCase] at firstChecked
          obtain ⟨body', bodyChecked, firstChecked⟩ := bind_eq_ok.mp firstChecked
          cases firstChecked
          rw [erasedCases, erasedCases, checkBlock_erased body bodyChecked,
            checkCases_erased rest restChecked]
      | some value =>
          rw [checkCase] at firstChecked
          obtain ⟨⟨value', received⟩, valueChecked, firstChecked⟩ := bind_eq_ok.mp firstChecked
          obtain ⟨_, _, firstChecked⟩ := bind_eq_ok.mp firstChecked
          obtain ⟨body', bodyChecked, firstChecked⟩ := bind_eq_ok.mp firstChecked
          cases firstChecked
          rw [erasedCases, erasedCases, Option.map_some, Option.map_some,
            checkExpr_erased value valueChecked, checkBlock_erased body bodyChecked,
            checkCases_erased rest restChecked]

end

/-! ### Programs -/

theorem checkGlobal_erased {scope after : StaticScope} {global decorated : GlobalDecl}
    (checked : checkGlobal scope global = .ok (decorated, after)) :
    decorated.erased = global.erased := by
  obtain ⟨⟨value', ty⟩, valueChecked, checked⟩ := bind_eq_ok.mp checked
  obtain ⟨wider, _, checked⟩ := bind_eq_ok.mp checked
  cases checked
  unfold GlobalDecl.erased
  dsimp only
  rw [checkBinding_erased valueChecked]

theorem declareFunction_erased {scope after : StaticScope} {function decorated : FunctionDecl}
    (declared : declareFunction scope function = .ok (decorated, after)) :
    decorated.erased = function.erased := by
  obtain ⟨types, _, declared⟩ := bind_eq_ok.mp declared
  obtain ⟨returns, _, declared⟩ := bind_eq_ok.mp declared
  obtain ⟨wider, _, declared⟩ := bind_eq_ok.mp declared
  cases declared
  rfl

theorem checkFunction_erased {scope : StaticScope} {function decorated : FunctionDecl}
    (checked : checkFunction scope function = .ok decorated) :
    decorated.erased = function.erased := by
  obtain ⟨callee, _, checked⟩ := bind_eq_ok.mp checked
  obtain ⟨inner, _, checked⟩ := bind_eq_ok.mp checked
  obtain ⟨body', bodyChecked, checked⟩ := bind_eq_ok.mp checked
  cases checked
  unfold FunctionDecl.erased
  dsimp only
  rw [checkBlock_erased function.body bodyChecked]

theorem checkEach_forall₂ {α : Type} {step : α → GlobalCheck α} {list decorated : List α}
    {globals after : StaticFrame} (checked : checkEach step list globals = .ok decorated after) :
    List.Forall₂ (fun first first' => ∃ before behind, step first before = .ok first' behind)
      list decorated := by
  induction list generalizing globals decorated with
  | nil =>
      cases checked
      exact .nil
  | cons first rest inductionHypothesis =>
      rw [checkEach] at checked
      obtain ⟨first', middle, firstChecked, checked⟩ := step_bind_eq_ok.mp checked
      obtain ⟨rest', last, restChecked, checked⟩ := step_bind_eq_ok.mp checked
      cases checked
      exact .cons ⟨globals, middle, firstChecked⟩ (inductionHypothesis restChecked)

end Typing

open Typing

/-- A checked program: every global has been checked, and every function declared and then
checked, each in some scope. -/
theorem Source.parts_of_check {source decorated : Source}
    (checked : source.check = .ok decorated) :
    ∃ declared,
      List.Forall₂ (fun global global' => ∃ scope after,
        checkGlobal scope global = .ok (global', after)) source.globals decorated.globals ∧
      List.Forall₂ (fun function function' => ∃ scope after,
        declareFunction scope function = .ok (function', after)) source.functions declared ∧
      List.Forall₂ (fun function function' => ∃ scope,
        checkFunction scope function = .ok function') declared decorated.functions ∧
      decorated.span = source.span := by
  unfold Source.check at checked
  cases result : checkSource source builtinFrame with
  | error fault after =>
      rw [result] at checked
      cases checked
  | ok found after =>
      rw [result] at checked
      cases checked
      obtain ⟨globals, early, globalsChecked, result⟩ := step_bind_eq_ok.mp result
      obtain ⟨declared, last, functionsDeclared, result⟩ := step_bind_eq_ok.mp result
      obtain ⟨functions, final, functionsChecked, result⟩ := step_bind_eq_ok.mp result
      obtain ⟨_, _, _, result⟩ := step_bind_eq_ok.mp result
      cases result
      refine ⟨declared, (checkEach_forall₂ globalsChecked).imp ?_,
        (checkEach_forall₂ functionsDeclared).imp ?_,
        (checkEach_forall₂ functionsChecked).imp ?_, rfl⟩
      · rintro global global' ⟨before, behind, step⟩
        obtain ⟨scope, isChecked, _⟩ := binding_eq_ok step
        exact ⟨_, scope, isChecked⟩
      · rintro function function' ⟨before, behind, step⟩
        obtain ⟨scope, isDeclared, _⟩ := binding_eq_ok step
        exact ⟨_, scope, isDeclared⟩
      · rintro function function' ⟨before, behind, step⟩
        exact ⟨_, (reading_eq_ok step).1⟩

theorem map_eq_of_forall₂ {α β : Type} {f : α → β} {list others : List α}
    (same : List.Forall₂ (fun first other => f other = f first) list others) :
    others.map f = list.map f := by
  induction same with
  | nil => rfl
  | cons headSame _ inductionHypothesis =>
      rw [List.map_cons, List.map_cons, headSame, inductionHypothesis]

theorem forall_mem_of_forall₂ {α β : Type} {before : α → Prop} {after : β → Prop}
    {list : List α} {others : List β}
    (each : List.Forall₂ (fun first other => before first → after other) list others)
    (holds : ∀ first ∈ list, before first) : ∀ other ∈ others, after other := by
  induction each with
  | nil =>
      exact List.forall_mem_nil _
  | cons head _ inductionHypothesis =>
      obtain ⟨firstHolds, restHold⟩ := List.forall_mem_cons.mp holds
      exact List.forall_mem_cons.mpr ⟨head firstHolds, inductionHypothesis restHold⟩

/-- The checked tree without its decorations is the tree that was checked, without its own. -/
theorem Source.erased_of_check {source decorated : Source}
    (checked : source.check = .ok decorated) : decorated.erased = source.erased := by
  obtain ⟨declared, globals, declares, checks, sameSpan⟩ := Source.parts_of_check checked
  have globalsSame : decorated.globals.map GlobalDecl.erased =
      source.globals.map GlobalDecl.erased := by
    refine map_eq_of_forall₂ (globals.imp ?_)
    rintro global global' ⟨scope, after, isChecked⟩
    exact checkGlobal_erased isChecked
  have declaredSame : declared.map FunctionDecl.erased =
      source.functions.map FunctionDecl.erased := by
    refine map_eq_of_forall₂ (declares.imp ?_)
    rintro function function' ⟨scope, after, isDeclared⟩
    exact declareFunction_erased isDeclared
  have functionsSame : decorated.functions.map FunctionDecl.erased =
      declared.map FunctionDecl.erased := by
    refine map_eq_of_forall₂ (checks.imp ?_)
    rintro function function' ⟨scope, isChecked⟩
    exact checkFunction_erased isChecked
  unfold Source.erased
  rw [globalsSame, functionsSame, declaredSame, sameSpan]

end ScriptLang
