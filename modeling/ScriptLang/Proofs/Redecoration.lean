import ScriptLang.Proofs.Checked
import ScriptLang.Proofs.Erasure
import ScriptLang.Proofs.StatementScopes

/-!
Checking trees that carry decorations.

Checking fills every slot before it reads it, so the decorations that a tree brings along do not
matter: it is checked like its erasure.  Hence a tree that checking has yielded is checked again
into itself.  The one thing to know of the scopes is that they bind functions under their own
numbers of parameters: arguments without a parameter would be left unchecked, with whatever they
carry.
-/

namespace ScriptLang

open Typing

/-! ### Scopes that find functions by their numbers of parameters -/

theorem Keyed.child {scope : StaticScope} (keyed : Keyed scope) : Keyed scope.child :=
  keyed

theorem Keyed.body {scope : StaticScope} (keyed : Keyed scope) (returnType : Ty) :
    Keyed (scope.body returnType) :=
  keyed

theorem Keyed.of_defineVariable {scope after : StaticScope} {name : String} {target : Variable}
    {offset : Nat} (keyed : Keyed scope)
    (defined : scope.defineVariable name target offset = .ok after) : Keyed after := by
  intro key callee found
  obtain ⟨frame, outer, framesEq, _, afterEq⟩ := Chain.frames_of_defineVariable defined
  refine keyed key callee ?_
  unfold Chain.findFunction? at found ⊢
  rw [afterEq] at found
  rw [framesEq]
  exact found

theorem Keyed.of_checkStmt {scope after : StaticScope} {s decorated : Stmt} (keyed : Keyed scope)
    (checked : checkStmt scope s = .ok (decorated, after)) : Keyed after := by
  rcases scope_of_checkStmt checked with ⟨_, rfl⟩ | ⟨target, offset, _, defined⟩
  · exact keyed
  · exact keyed.of_defineVariable defined

theorem Keyed.of_bindParameters {offset : Nat} {parameters : List (Parameter × Ty)}
    {scope inner : StaticScope} (keyed : Keyed scope)
    (bound : bindParameters offset scope parameters = .ok inner) : Keyed inner := by
  induction parameters generalizing scope with
  | nil =>
      cases bound
      exact keyed
  | cons first rest inductionHypothesis =>
      obtain ⟨parameter, ty⟩ := first
      rw [bindParameters] at bound
      obtain ⟨wider, defined, bound⟩ := bind_eq_ok.mp bound
      exact inductionHypothesis (keyed.of_defineVariable defined) bound

def Case.heading (c : Case) : Bool × Span :=
  (c.value.isNone, c.span)

namespace Typing

/-! ### Expressions -/

theorem length_erasedExprs (es : List Expr) : (erasedExprs es).length = es.length := by
  induction es with
  | nil => rfl
  | cons first rest inductionHypothesis =>
      rw [erasedExprs, List.length_cons, List.length_cons, inductionHypothesis]

mutual

theorem checkExpr_undecorated {scope : StaticScope} (keyed : Keyed scope) (context : Option Ty)
    (e : Expr) : checkExpr scope context e.erased = checkExpr scope context e := by
  cases e with
  | literal value span old =>
      rfl
  | group inner span old =>
      rw [Expr.erased, checkExpr, checkExpr, checkExpr_undecorated keyed context inner]
  | binary op left right span old =>
      rw [Expr.erased, checkExpr, checkExpr, checkExpr_undecorated keyed none left,
        checkExpr_undecorated keyed none right]
  | access name span old target =>
      rfl
  | element name index span old target =>
      rw [Expr.erased, checkExpr, checkExpr, checkExpr_undecorated keyed none index]
  | call name arguments span old callee =>
      rw [Expr.erased, checkExpr, checkExpr, length_erasedExprs]
      refine bind_congr_of_ok fun found bound => ?_
      have arity := keyed.arity (Chain.lookupFunction_eq_ok.mp bound)
      rw [checkArguments_undecorated keyed arguments arity]
  | list elements span old =>
      rw [Expr.erased, checkExpr, checkExpr, checkElements_undecorated keyed _ elements]

theorem checkArguments_undecorated {scope : StaticScope} (keyed : Keyed scope) (es : List Expr)
    {types : List Ty} (arity : types.length = es.length) :
    checkArguments scope types (erasedExprs es) = checkArguments scope types es := by
  cases es with
  | nil =>
      rfl
  | cons first rest =>
      cases types with
      | nil =>
          cases arity
      | cons expected types =>
          rw [erasedExprs, checkArguments, checkArguments,
            checkExpr_undecorated keyed (some expected) first,
            checkArguments_undecorated keyed rest (Nat.succ.inj arity)]

theorem checkElements_undecorated {scope : StaticScope} (keyed : Keyed scope) (expected : Ty)
    (es : List Expr) :
    checkElements scope expected (erasedExprs es) = checkElements scope expected es := by
  cases es with
  | nil =>
      rfl
  | cons first rest =>
      rw [erasedExprs, checkElements, checkElements,
        checkExpr_undecorated keyed (some expected) first,
        checkElements_undecorated keyed expected rest]

end

/-! ### Statements -/

theorem checkBinding_undecorated {scope : StaticScope} (keyed : Keyed scope)
    (typeName : Option String) (value : Option Expr) (offset : Nat) :
    checkBinding scope typeName (value.map Expr.erased) offset =
      checkBinding scope typeName value offset := by
  cases value with
  | none =>
      rfl
  | some e =>
      cases typeName with
      | none =>
          rw [Option.map_some, checkBinding, checkBinding, checkExpr_undecorated keyed none e]
      | some name =>
          rw [Option.map_some, checkBinding, checkBinding]
          refine bind_congr_of_ok fun declared _ => ?_
          rw [checkExpr_undecorated keyed (some declared) e]

theorem checkCondition_undecorated {scope : StaticScope} (keyed : Keyed scope) (condition : Expr) :
    checkCondition scope condition.erased = checkCondition scope condition := by
  unfold checkCondition
  rw [checkExpr_undecorated keyed none condition]

theorem checkAgainst_undecorated {scope : StaticScope} (keyed : Keyed scope) (expected : Ty)
    (value : Expr) :
    checkAgainst scope expected value.erased = checkAgainst scope expected value := by
  unfold checkAgainst
  rw [checkExpr_undecorated keyed (some expected) value]

theorem isEmpty_erasedBlock (b : List Stmt) : (erasedBlock b).isEmpty = b.isEmpty := by
  cases b with
  | nil => rfl
  | cons first rest => rfl

theorem requireDefault_congr {cs cs' : List Case}
    (headings : cs'.map Case.heading = cs.map Case.heading) (offset : Nat) :
    requireDefault cs' offset = requireDefault cs offset := by
  have last := congrArg List.getLast? headings
  rw [List.getLast?_map, List.getLast?_map] at last
  unfold requireDefault
  cases found : cs.getLast? with
  | none =>
      rw [found, Option.map_none, Option.map_eq_none_iff] at last
      rw [last]
  | some c =>
      rw [found, Option.map_some, Option.map_eq_some_iff] at last
      obtain ⟨c', found', sameHeading⟩ := last
      obtain ⟨sameValue, sameSpan⟩ := Prod.mk.inj sameHeading
      rw [found']
      dsimp only
      rw [sameValue, sameSpan]

theorem headings_erasedCases (cs : List Case) :
    (erasedCases cs).map Case.heading = cs.map Case.heading := by
  induction cs with
  | nil =>
      rfl
  | cons first rest inductionHypothesis =>
      obtain ⟨value, body, span⟩ := first
      rw [erasedCases, List.map_cons, List.map_cons, inductionHypothesis]
      cases value with
      | none => rfl
      | some e => rfl

mutual

theorem checkStmt_undecorated {scope : StaticScope} (keyed : Keyed scope) (s : Stmt) :
    checkStmt scope s.erased = checkStmt scope s := by
  cases s with
  | expression value span =>
      rw [Stmt.erased, checkStmt, checkStmt, isCall_erased, checkExpr_undecorated keyed none value]
  | declaration name typeName value span target =>
      rw [Stmt.erased, checkStmt, checkStmt, checkBinding_undecorated keyed typeName value]
  | assignment receiver value span =>
      rw [Stmt.erased, checkStmt, checkStmt, isAccess_erased,
        checkExpr_undecorated keyed none receiver]
      split
      · refine bind_congr_of_ok fun found _ => ?_
        obtain ⟨receiver', expected⟩ := found
        dsimp only
        rw [checkAgainst_undecorated keyed expected value]
      · rfl
  | conditional condition thenBlock elseBlock span =>
      rw [Stmt.erased, checkStmt, checkStmt, isEmpty_erasedBlock,
        checkCondition_undecorated keyed condition, checkBlock_undecorated keyed.child thenBlock,
        checkBlock_undecorated keyed.child elseBlock]
  | switch condition cs span =>
      rw [Stmt.erased, checkStmt, checkStmt, requireDefault_congr (headings_erasedCases cs),
        checkExpr_undecorated keyed none condition]
      refine bind_congr_of_ok fun found _ => ?_
      obtain ⟨condition', expected⟩ := found
      dsimp only
      rw [checkCases_undecorated keyed expected cs]
  | loop condition body span =>
      rw [Stmt.erased, checkStmt, checkStmt, checkCondition_undecorated keyed condition,
        checkBlock_undecorated keyed.child body]
  | result value span =>
      rw [Stmt.erased, checkStmt, checkStmt]
      split
      · rfl
      · rw [checkAgainst_undecorated keyed _ value]

theorem checkBlock_undecorated {scope : StaticScope} (keyed : Keyed scope) (b : List Stmt) :
    checkBlock scope (erasedBlock b) = checkBlock scope b := by
  cases b with
  | nil =>
      rfl
  | cons first rest =>
      rw [erasedBlock, checkBlock, checkBlock, checkStmt_undecorated keyed first]
      refine bind_congr_of_ok fun found checked => ?_
      obtain ⟨first', behind⟩ := found
      dsimp only
      rw [checkBlock_undecorated (keyed.of_checkStmt checked) rest]

theorem checkCases_undecorated {scope : StaticScope} (keyed : Keyed scope) (expected : Ty)
    (cs : List Case) :
    checkCases scope expected (erasedCases cs) = checkCases scope expected cs := by
  cases cs with
  | nil =>
      rfl
  | cons first rest =>
      obtain ⟨value, body, span⟩ := first
      rw [erasedCases, checkCases, checkCases, checkCases_undecorated keyed expected rest]
      cases value with
      | none =>
          rw [Option.map_none, checkCase, checkCase, checkBlock_undecorated keyed.child body]
      | some e =>
          rw [Option.map_some, checkCase, checkCase, checkExpr_undecorated keyed none e,
            checkBlock_undecorated keyed.child body]

end

/-! ### Globals and functions -/

theorem checkGlobal_undecorated {scope : StaticScope} (keyed : Keyed scope) (global : GlobalDecl) :
    checkGlobal scope global.erased = checkGlobal scope global := by
  unfold checkGlobal GlobalDecl.erased
  dsimp only
  rw [checkBinding_undecorated keyed global.typeName global.value]

end Typing

def FunctionDecl.bodyErased (function : FunctionDecl) : FunctionDecl :=
  { function with body := erasedBlock function.body }

namespace Typing

theorem declareFunction_undecorated (scope : StaticScope) (function : FunctionDecl) :
    declareFunction scope function.erased =
      (fun declared => (declared.1.bodyErased, declared.2)) <$> declareFunction scope function := by
  unfold declareFunction
  simp only [map_bind, map_pure]
  rfl

theorem checkFunction_undecorated {scope : StaticScope} (keyed : Keyed scope)
    (function : FunctionDecl) :
    checkFunction scope function.bodyErased = checkFunction scope function := by
  unfold checkFunction
  refine bind_congr_of_ok fun callee _ => bind_congr_of_ok fun inner bound => ?_
  have keyedInner : Keyed inner := (keyed.body _).of_bindParameters bound
  exact congrArg (· >>= _) (checkBlock_undecorated keyedInner function.body)

/-! ### Programs -/

section Each

variable {α : Type} {step : α → GlobalCheck α} {list : List α}

theorem checkEach_keeps {holds : StaticFrame → Prop}
    (keeps : ∀ value before value' after, holds before → step value before = .ok value' after →
      holds after)
    {globals after : StaticFrame} {checked : List α} (before : holds globals)
    (ended : checkEach step list globals = .ok checked after) : holds after := by
  induction list generalizing globals checked with
  | nil =>
      cases ended
      exact before
  | cons first rest inductionHypothesis =>
      rw [checkEach] at ended
      obtain ⟨first', middle, firstEnded, ended⟩ := step_bind_eq_ok.mp ended
      obtain ⟨rest', last, restEnded, ended⟩ := step_bind_eq_ok.mp ended
      cases ended
      exact inductionHypothesis (keeps first globals first' middle before firstEnded) restEnded

theorem checkEach_congr (holds : StaticFrame → Prop) {erase : α → α}
    (keeps : ∀ value before value' after, holds before → step value before = .ok value' after →
      holds after)
    (same : ∀ value globals, holds globals → step (erase value) globals = step value globals)
    (list : List α) {globals : StaticFrame} (before : holds globals) :
    checkEach step (list.map erase) globals = checkEach step list globals := by
  induction list generalizing globals with
  | nil =>
      rfl
  | cons first rest inductionHypothesis =>
      rw [List.map_cons, checkEach, checkEach]
      refine step_bind_congr_of_ok (same first globals before) fun first' middle ended => ?_
      exact step_bind_congr_of_ok
        (inductionHypothesis (keeps first globals first' middle before ended)) fun _ _ _ => rfl

theorem checkEach_map {erase erase' : α → α}
    (mapped : ∀ value, step (erase value) = erase' <$> step value) (list : List α) :
    checkEach step (list.map erase) = List.map erase' <$> checkEach step list := by
  induction list with
  | nil =>
      rw [List.map_nil, checkEach, map_pure, List.map_nil]
  | cons first rest inductionHypothesis =>
      rw [List.map_cons, checkEach, checkEach, mapped, inductionHypothesis]
      simp only [bind_map_left, map_bind, map_pure, List.map_cons]

end Each

theorem Keyed.of_checkGlobal {globals after : StaticFrame} {global decorated : GlobalDecl}
    (keyed : Keyed (.ofGlobals globals))
    (ended : binding (checkGlobal · global) globals = .ok decorated after) :
    Keyed (.ofGlobals after) := by
  obtain ⟨scope, checked, rfl⟩ := binding_eq_ok ended
  obtain ⟨⟨value, ty⟩, _, checked⟩ := bind_eq_ok.mp checked
  obtain ⟨wider, defined, checked⟩ := bind_eq_ok.mp checked
  cases checked
  obtain ⟨_, rfl⟩ := Chain.defineVariable_ofGlobals_eq_ok.mp defined
  exact keyed.addVariable _ _

theorem Keyed.of_declareFunction {globals after : StaticFrame} {function decorated : FunctionDecl}
    (keyed : Keyed (.ofGlobals globals))
    (ended : binding (declareFunction · function) globals = .ok decorated after) :
    Keyed (.ofGlobals after) := by
  obtain ⟨scope, declared, rfl⟩ := binding_eq_ok ended
  obtain ⟨types, _, declared⟩ := bind_eq_ok.mp declared
  obtain ⟨returns, _, declared⟩ := bind_eq_ok.mp declared
  obtain ⟨wider, defined, declared⟩ := bind_eq_ok.mp declared
  cases declared
  obtain ⟨_, rfl⟩ := Chain.defineFunction_ofGlobals_eq_ok.mp defined
  exact keyed.addFunction { signature := .plain function.name types returns, kind := .signature }

theorem binding_declareFunction_undecorated (function : FunctionDecl) :
    binding (declareFunction · function.erased) =
      FunctionDecl.bodyErased <$> binding (declareFunction · function) := by
  funext globals
  change _ = EStateM.map FunctionDecl.bodyErased (binding (declareFunction · function)) globals
  unfold EStateM.map binding
  dsimp only
  rw [declareFunction_undecorated]
  cases declareFunction (.ofGlobals globals) function with
  | ok declared => rfl
  | error fault => rfl

theorem checkGlobals_undecorated (list : List GlobalDecl) {globals : StaticFrame}
    (keyed : Keyed (.ofGlobals globals)) :
    checkEach (fun global => binding (checkGlobal · global)) (list.map GlobalDecl.erased) globals =
      checkEach (fun global => binding (checkGlobal · global)) list globals := by
  refine checkEach_congr (fun globals => Keyed (.ofGlobals globals))
    (fun _ _ _ _ => Keyed.of_checkGlobal) (fun global globals keyed => ?_) list keyed
  unfold binding
  dsimp only
  rw [checkGlobal_undecorated keyed]

theorem checkFunctions_undecorated (list : List FunctionDecl) {globals : StaticFrame}
    (keyed : Keyed (.ofGlobals globals)) :
    checkEach (fun function => reading (checkFunction · function))
        (list.map FunctionDecl.bodyErased) globals =
      checkEach (fun function => reading (checkFunction · function)) list globals := by
  refine checkEach_congr (fun globals => Keyed (.ofGlobals globals)) ?_
    (fun function globals keyed => ?_) list keyed
  · rintro function before function' after keyed ended
    obtain ⟨_, rfl⟩ := reading_eq_ok ended
    exact keyed
  · unfold reading
    dsimp only
    rw [checkFunction_undecorated keyed]

theorem checkSource_undecorated (source : Source) {globals : StaticFrame}
    (keyed : Keyed (.ofGlobals globals)) :
    checkSource source.erased globals = checkSource source globals := by
  unfold checkSource Source.erased
  dsimp only
  refine step_bind_congr_of_ok (checkGlobals_undecorated source.globals keyed) ?_
  intro decorated early checked
  have keyedEarly : Keyed (.ofGlobals early) :=
    checkEach_keeps (fun _ _ _ _ => Keyed.of_checkGlobal) keyed checked
  rw [checkEach_map binding_declareFunction_undecorated, bind_map_left]
  refine step_bind_congr_of_ok rfl fun declared late ended => ?_
  have keyedLate : Keyed (.ofGlobals late) :=
    checkEach_keeps (fun _ _ _ _ => Keyed.of_declareFunction) keyedEarly ended
  exact step_bind_congr_of_ok (checkFunctions_undecorated declared keyedLate) fun _ _ _ => rfl

end Typing

/-- Checking does not read the decorations that a program brings along. -/
theorem Source.check_erased (source : Source) : source.erased.check = source.check := by
  unfold Source.check
  rw [checkSource_undecorated source keyed_builtinFrame]

theorem Source.check_of_check {source checked : Source} (accepted : source.check = .ok checked) :
    checked.check = .ok checked := by
  rw [← accepted, ← source.check_erased, ← checked.check_erased, source.erased_of_check accepted]

/-- Checking depends on a program without its decorations alone.  Programs that differ in nothing
else are both rejected, with the same fault, or both accepted, with the same result; and this result
is accepted again and does not change. -/
theorem Source.check_ignores_decorations {source other : Source}
    (alike : other.erased = source.erased) :
    other.check = source.check ∧
      ∀ checked, source.check = .ok checked →
        checked.erased = source.erased ∧ checked.check = .ok checked := by
  constructor
  · rw [← other.check_erased, alike, source.check_erased]
  · intro checked accepted
    exact ⟨source.erased_of_check accepted, Source.check_of_check accepted⟩

/-- A program that assigns to a variable.  The receiver of the assignment and the function bring
along the given decorations. -/
def assigningSource (target : Option Variable) (callee : Option Callee) : Source :=
  let here : Span := { start := 0, stop := 0 }
  { globals := []
    functions :=
      [{ name := "main", parameters := [], returnTypeName := some "Integer"
         body :=
          [.declaration "n" none (some (.literal (.integer 1) here none)) here none,
            .assignment (.access "n" here none target) (.literal (.integer 2) here none) here,
            .result (.access "n" here none none) here]
         span := here, callee := callee }]
    span := here }

/-- Neither a constant of another type at the receiver nor another result of the function matters,
although checking looks into both slots. -/
theorem Source.check_ignores_decorations_stale :
    let stale := assigningSource (some (.plain "n" .string false true))
      (some { signature := .plain "main" [] .boolean, kind := .native })
    stale.erased = (assigningSource none none).erased ∧
      stale.check = (assigningSource none none).check ∧
      ∃ checked, stale.check = .ok checked ∧ checked.check = .ok checked := by
  intro stale
  have alike : stale.erased = (assigningSource none none).erased := rfl
  obtain ⟨checked, accepted⟩ : ∃ checked, (assigningSource none none).check = .ok checked :=
    ⟨_, rfl⟩
  obtain ⟨same, again⟩ := Source.check_ignores_decorations alike
  exact ⟨alike, same, checked, same.trans accepted, (again checked accepted).2⟩

end ScriptLang
