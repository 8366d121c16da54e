import ScriptLang.Proofs.Names
import ScriptLang.Proofs.Redecoration
import ScriptLang.Proofs.Relocation
import ScriptLang.Proofs.UndecoratedRuns

/-!
Writing out the types of declarations.

A declaration without an annotation takes the type of its initial value, and checking records that
type with the variable.  Writing it down as an annotation changes nothing: an expression that is
accepted without a context is accepted with the same type in the context of that type, so the
annotated program is checked into the same decorations, and runs do not read annotations.
-/

namespace ScriptLang

open Typing

/-! ### Adding annotations -/

mutual

/-- The second statement is the first, a checked one, with annotations added to some of the
declarations that have an initial value and no annotation: the names of their variables' types. -/
inductive StmtAnnotates : Stmt → Stmt → Prop where
  | kept (s : Stmt) : StmtAnnotates s s
  | declaration (name : String) (value : Expr) (span : Span) (target : Variable) :
      StmtAnnotates (.declaration name none (some value) span (some target))
        (.declaration name (some target.ty.name) (some value) span (some target))
  | conditional (condition : Expr) {thenBlock thenBlock' elseBlock elseBlock' : List Stmt}
      (span : Span) (thenAnnotates : BlockAnnotates thenBlock thenBlock')
      (elseAnnotates : BlockAnnotates elseBlock elseBlock') :
      StmtAnnotates (.conditional condition thenBlock elseBlock span)
        (.conditional condition thenBlock' elseBlock' span)
  | switch (condition : Expr) {cases cases' : List Case} (span : Span)
      (casesAnnotate : CasesAnnotate cases cases') :
      StmtAnnotates (.switch condition cases span) (.switch condition cases' span)
  | loop (condition : Expr) {body body' : List Stmt} (span : Span)
      (bodyAnnotates : BlockAnnotates body body') :
      StmtAnnotates (.loop condition body span) (.loop condition body' span)

inductive BlockAnnotates : List Stmt → List Stmt → Prop where
  | nil : BlockAnnotates [] []
  | cons {first first' : Stmt} {rest rest' : List Stmt}
      (firstAnnotates : StmtAnnotates first first')
      (restAnnotates : BlockAnnotates rest rest') : BlockAnnotates (first :: rest) (first' :: rest')

inductive CasesAnnotate : List Case → List Case → Prop where
  | nil : CasesAnnotate [] []
  | cons (value : Option Expr) {body body' : List Stmt} (span : Span) {rest rest' : List Case}
      (bodyAnnotates : BlockAnnotates body body') (restAnnotate : CasesAnnotate rest rest') :
      CasesAnnotate (.mk value body span :: rest) (.mk value body' span :: rest')

end

inductive GlobalDecl.Annotates : GlobalDecl → GlobalDecl → Prop where
  | kept (global : GlobalDecl) : GlobalDecl.Annotates global global
  | declaration {global : GlobalDecl} {value : Expr} {target : Variable}
      (unannotated : global.typeName = none) (initial : global.value = some value)
      (bound : global.target = some target) :
      GlobalDecl.Annotates global { global with typeName := some target.ty.name }

inductive FunctionDecl.Annotates (function : FunctionDecl) : FunctionDecl → Prop where
  | body {body' : List Stmt} (bodyAnnotates : BlockAnnotates function.body body') :
      FunctionDecl.Annotates function { function with body := body' }

/-- The second program is the first, a checked one, with the types of some declarations written
out.  Nothing else differs, and no decoration does. -/
structure Source.Annotates (checked annotated : Source) : Prop where
  globals : List.Forall₂ GlobalDecl.Annotates checked.globals annotated.globals
  functions : List.Forall₂ FunctionDecl.Annotates checked.functions annotated.functions
  span : checked.span = annotated.span

/-! ### Checking in the context of the type that is found -/

namespace Typing

theorem wholeTy_own {target : Variable} {offset : Nat} {ty : Ty}
    (found : wholeTy target none offset = .ok ty) (context : Option Ty) :
    wholeTy target context offset = .ok ty := by
  unfold wholeTy at found ⊢
  by_cases isList : target.isList = true
  · rw [if_pos isList] at found
    cases found
  · rw [if_neg isList] at found ⊢
    exact found

theorem checkExpr_own {scope : StaticScope} (e : Expr) {decorated : Expr} {ty : Ty}
    (checked : checkExpr scope none e = .ok (decorated, ty)) :
    checkExpr scope (some ty) e = .ok (decorated, ty) := by
  cases e with
  | literal value span old | binary op left right span old | element name index span old target
  | call name arguments span old callee =>
      rw [checkExpr] at checked ⊢
      exact checked
  | group inner span old =>
      rw [checkExpr] at checked ⊢
      obtain ⟨⟨inner', found⟩, innerChecked, checked⟩ := bind_eq_ok.mp checked
      cases checked
      exact bind_eq_ok.mpr ⟨_, checkExpr_own inner innerChecked, rfl⟩
  | access name span old target =>
      rw [checkExpr] at checked ⊢
      obtain ⟨bound, isBound, checked⟩ := bind_eq_ok.mp checked
      obtain ⟨found, isFound, checked⟩ := bind_eq_ok.mp checked
      cases checked
      exact bind_eq_ok.mpr ⟨_, isBound, bind_eq_ok.mpr ⟨_, wholeTy_own isFound _, rfl⟩⟩
  | list elements span old =>
      -- Without a context, a list has elements of type `Any`.
      rw [checkExpr] at checked ⊢
      obtain ⟨elements', elementsChecked, checked⟩ := bind_eq_ok.mp checked
      cases checked
      exact bind_eq_ok.mpr ⟨_, elementsChecked, rfl⟩

theorem checkBinding_own {scope : StaticScope} {value : Expr} {decorated : Option Expr}
    {offset : Nat} {ty : Ty}
    (checked : checkBinding scope none (some value) offset = .ok (decorated, ty)) :
    checkBinding scope (some ty.name) (some value) offset = .ok (decorated, ty) := by
  obtain ⟨⟨value', found⟩, valueChecked, checked⟩ := bind_eq_ok.mp checked
  cases checked
  have resolved : Ty.resolve ty.name offset = .ok ty :=
    Ty.resolve_eq_ok.mpr (Ty.ofName?_eq_some.mpr rfl)
  have admitted : ty.require ty value'.start = .ok () := Ty.require_eq_ok.mpr ty.accepts_self
  exact bind_eq_ok.mpr ⟨_, resolved, bind_eq_ok.mpr ⟨_, checkExpr_own value valueChecked,
    bind_eq_ok.mpr ⟨_, admitted, rfl⟩⟩⟩

/-! ### Checked statements with annotations -/

theorem isEmpty_annotated {b b' : List Stmt} (annotates : BlockAnnotates b b') :
    b'.isEmpty = b.isEmpty := by
  cases annotates with
  | nil => rfl
  | cons _ _ => rfl

theorem headings_annotated {cs cs' : List Case} (annotate : CasesAnnotate cs cs') :
    cs'.map Case.heading = cs.map Case.heading := by
  induction cs generalizing cs' with
  | nil =>
      cases annotate
      rfl
  | cons first rest inductionHypothesis =>
      cases annotate with
      | cons value span _ restAnnotate =>
          rw [List.map_cons, List.map_cons, inductionHypothesis restAnnotate]
          rfl

mutual

theorem checkStmt_annotated {scope after : StaticScope} {s s' : Stmt}
    (annotates : StmtAnnotates s s') (checked : checkStmt scope s = .ok (s, after)) :
    checkStmt scope s' = .ok (s', after) := by
  cases annotates with
  | kept =>
      exact checked
  | declaration name value span target =>
      rw [checkStmt] at checked ⊢
      obtain ⟨⟨value', ty⟩, valueChecked, checked⟩ := bind_eq_ok.mp checked
      obtain ⟨wider, defined, checked⟩ := bind_eq_ok.mp checked
      cases checked
      exact bind_eq_ok.mpr ⟨_, checkBinding_own valueChecked, bind_eq_ok.mpr ⟨_, defined, rfl⟩⟩
  | conditional condition span thenAnnotates elseAnnotates =>
      rw [checkStmt] at checked ⊢
      rw [isEmpty_annotated thenAnnotates]
      split at checked
      · cases checked
      next nonempty =>
        rw [if_neg nonempty]
        obtain ⟨condition', conditionChecked, checked⟩ := bind_eq_ok.mp checked
        obtain ⟨thenBlock, thenChecked, checked⟩ := bind_eq_ok.mp checked
        obtain ⟨elseBlock, elseChecked, checked⟩ := bind_eq_ok.mp checked
        cases checked
        exact bind_eq_ok.mpr ⟨_, conditionChecked,
          bind_eq_ok.mpr ⟨_, checkBlock_annotated thenAnnotates thenChecked,
            bind_eq_ok.mpr ⟨_, checkBlock_annotated elseAnnotates elseChecked, rfl⟩⟩⟩
  | switch condition span casesAnnotate =>
      rw [checkStmt] at checked ⊢
      rw [requireDefault_congr (headings_annotated casesAnnotate)]
      obtain ⟨⟨condition', expected⟩, conditionChecked, checked⟩ := bind_eq_ok.mp checked
      obtain ⟨_, hasDefault, checked⟩ := bind_eq_ok.mp checked
      obtain ⟨cases', casesChecked, checked⟩ := bind_eq_ok.mp checked
      cases checked
      exact bind_eq_ok.mpr ⟨_, conditionChecked, bind_eq_ok.mpr ⟨_, hasDefault,
        bind_eq_ok.mpr ⟨_, checkCases_annotated casesAnnotate casesChecked, rfl⟩⟩⟩
  | loop condition span bodyAnnotates =>
      rw [checkStmt] at checked ⊢
      obtain ⟨condition', conditionChecked, checked⟩ := bind_eq_ok.mp checked
      obtain ⟨body', bodyChecked, checked⟩ := bind_eq_ok.mp checked
      cases checked
      exact bind_eq_ok.mpr ⟨_, conditionChecked,
        bind_eq_ok.mpr ⟨_, checkBlock_annotated bodyAnnotates bodyChecked, rfl⟩⟩

theorem checkBlock_annotated {scope : StaticScope} {b b' : List Stmt}
    (annotates : BlockAnnotates b b') (checked : checkBlock scope b = .ok b) :
    checkBlock scope b' = .ok b' := by
  cases annotates with
  | nil =>
      exact checked
  | cons firstAnnotates restAnnotates =>
      rw [checkBlock] at checked ⊢
      obtain ⟨⟨first, next⟩, firstChecked, checked⟩ := bind_eq_ok.mp checked
      obtain ⟨rest, restChecked, checked⟩ := bind_eq_ok.mp checked
      cases checked
      exact bind_eq_ok.mpr ⟨_, checkStmt_annotated firstAnnotates firstChecked,
        bind_eq_ok.mpr ⟨_, checkBlock_annotated restAnnotates restChecked, rfl⟩⟩

theorem checkCases_annotated {scope : StaticScope} {expected : Ty} {cs cs' : List Case}
    (annotate : CasesAnnotate cs cs') (checked : checkCases scope expected cs = .ok cs) :
    checkCases scope expected cs' = .ok cs' := by
  cases annotate with
  | nil =>
      exact checked
  | cons value span bodyAnnotates restAnnotate =>
      rw [checkCases] at checked ⊢
      obtain ⟨first, firstChecked, checked⟩ := bind_eq_ok.mp checked
      obtain ⟨rest, restChecked, checked⟩ := bind_eq_ok.mp checked
      cases checked
      refine bind_eq_ok.mpr ⟨_, ?_,
        bind_eq_ok.mpr ⟨_, checkCases_annotated restAnnotate restChecked, rfl⟩⟩
      cases value with
      | none =>
          rw [checkCase] at firstChecked ⊢
          obtain ⟨body', bodyChecked, firstChecked⟩ := bind_eq_ok.mp firstChecked
          cases firstChecked
          exact bind_eq_ok.mpr ⟨_, checkBlock_annotated bodyAnnotates bodyChecked, rfl⟩
      | some e =>
          rw [checkCase] at firstChecked ⊢
          obtain ⟨⟨value', received⟩, valueChecked, firstChecked⟩ := bind_eq_ok.mp firstChecked
          obtain ⟨_, admitted, firstChecked⟩ := bind_eq_ok.mp firstChecked
          obtain ⟨body', bodyChecked, firstChecked⟩ := bind_eq_ok.mp firstChecked
          cases firstChecked
          exact bind_eq_ok.mpr ⟨_, valueChecked, bind_eq_ok.mpr ⟨_, admitted,
            bind_eq_ok.mpr ⟨_, checkBlock_annotated bodyAnnotates bodyChecked, rfl⟩⟩⟩

end

/-! ### Checked programs with annotations -/

theorem checkGlobal_annotated {scope after : StaticScope} {global global' : GlobalDecl}
    (annotates : global.Annotates global')
    (checked : checkGlobal scope global = .ok (global, after)) :
    checkGlobal scope global' = .ok (global', after) := by
  cases annotates with
  | kept =>
      exact checked
  | declaration unannotated initial bound =>
      obtain ⟨name, isMutable, isList, typeName, value, span, target⟩ := global
      obtain rfl : typeName = none := unannotated
      obtain rfl : value = some _ := initial
      obtain ⟨⟨value', ty⟩, valueChecked, checked⟩ := bind_eq_ok.mp checked
      obtain ⟨wider, defined, checked⟩ := bind_eq_ok.mp checked
      dsimp only at checked defined
      cases checked
      cases bound
      exact bind_eq_ok.mpr ⟨_, checkBinding_own valueChecked, bind_eq_ok.mpr ⟨_, defined, rfl⟩⟩

theorem declareFunction_annotated {scope after : StaticScope} {function function' : FunctionDecl}
    (annotates : function.Annotates function')
    (declared : declareFunction scope function = .ok (function, after)) :
    declareFunction scope function' = .ok (function', after) := by
  obtain ⟨name, parameters, returnTypeName, body, span, callee⟩ := function
  obtain ⟨bodyAnnotates⟩ := annotates
  obtain ⟨types, parametersEq, declared⟩ := bind_eq_ok.mp declared
  obtain ⟨returns, resultEq, declared⟩ := bind_eq_ok.mp declared
  obtain ⟨wider, defined, declared⟩ := bind_eq_ok.mp declared
  dsimp only at declared
  cases declared
  exact bind_eq_ok.mpr ⟨_, parametersEq, bind_eq_ok.mpr ⟨_, resultEq,
    bind_eq_ok.mpr ⟨_, defined, rfl⟩⟩⟩

theorem checkFunction_annotated {scope : StaticScope} {function function' : FunctionDecl}
    (annotates : function.Annotates function')
    (checked : checkFunction scope function = .ok function) :
    checkFunction scope function' = .ok function' := by
  obtain ⟨name, parameters, returnTypeName, body, span, decorated⟩ := function
  obtain ⟨bodyAnnotates⟩ := annotates
  obtain ⟨callee, isCallee, checked⟩ := bind_eq_ok.mp checked
  obtain ⟨inner, bound, checked⟩ := bind_eq_ok.mp checked
  obtain ⟨body, bodyChecked, checked⟩ := bind_eq_ok.mp checked
  cases checked
  exact bind_eq_ok.mpr ⟨_, isCallee, bind_eq_ok.mpr ⟨_, bound,
    bind_eq_ok.mpr ⟨_, checkBlock_annotated bodyAnnotates bodyChecked, rfl⟩⟩⟩

theorem checkEach_fixed {α : Type} {related : α → α → Prop} {step : α → GlobalCheck α}
    (fixes : ∀ value value' before after, related value value' →
      step value before = .ok value after → step value' before = .ok value' after)
    {list list' : List α} (each : List.Forall₂ related list list') {globals after : StaticFrame}
    (checked : checkEach step list globals = .ok list after) :
    checkEach step list' globals = .ok list' after := by
  induction each generalizing globals with
  | nil =>
      exact checked
  | @cons first first' rest rest' firstRelated restRelated inductionHypothesis =>
      rw [checkEach] at checked ⊢
      obtain ⟨_, middle, firstChecked, checked⟩ := step_bind_eq_ok.mp checked
      obtain ⟨_, last, restChecked, checked⟩ := step_bind_eq_ok.mp checked
      cases checked
      exact step_bind_eq_ok.mpr ⟨first', middle, fixes _ _ _ _ firstRelated firstChecked,
        step_bind_eq_ok.mpr ⟨rest', after, inductionHypothesis restChecked, rfl⟩⟩

theorem eq_of_declared_checked {scope scope' after : StaticScope}
    {function declared : FunctionDecl}
    (isDeclared : declareFunction scope function = .ok (declared, after))
    (checked : checkFunction scope' declared = .ok function) : declared = function := by
  obtain ⟨types, _, isDeclared⟩ := bind_eq_ok.mp isDeclared
  obtain ⟨returns, _, isDeclared⟩ := bind_eq_ok.mp isDeclared
  obtain ⟨wider, _, isDeclared⟩ := bind_eq_ok.mp isDeclared
  obtain ⟨callee, _, checked⟩ := bind_eq_ok.mp checked
  obtain ⟨inner, _, checked⟩ := bind_eq_ok.mp checked
  obtain ⟨body, _, checked⟩ := bind_eq_ok.mp checked
  cases isDeclared
  obtain ⟨name, parameters, returnTypeName, body, span, decorated⟩ := function
  dsimp only at checked
  cases checked
  rfl

theorem functions_eq_of_checked {functions declared : List FunctionDecl}
    {before middle before' after : StaticFrame}
    (isDeclared : checkEach (fun function => binding (declareFunction · function)) functions
      before = .ok declared middle)
    (checked : checkEach (fun function => reading (checkFunction · function)) declared before' =
      .ok functions after) : declared = functions := by
  have declares := checkEach_forall₂ isDeclared
  have checks := checkEach_forall₂ checked
  clear isDeclared checked
  induction declares with
  | nil =>
      rfl
  | cons firstDeclared _ inductionHypothesis =>
      obtain ⟨_, _, firstDeclared⟩ := firstDeclared
      obtain ⟨scope, isDeclared, _⟩ := binding_eq_ok firstDeclared
      cases checks with
      | cons firstChecked restChecked =>
          obtain ⟨_, _, firstChecked⟩ := firstChecked
          rw [eq_of_declared_checked isDeclared (reading_eq_ok firstChecked).1,
            inductionHypothesis restChecked]

theorem checkGlobals_annotated {list list' : List GlobalDecl} {globals after : StaticFrame}
    (annotate : List.Forall₂ GlobalDecl.Annotates list list')
    (checked : checkEach (fun global => binding (checkGlobal · global)) list globals =
      .ok list after) :
    checkEach (fun global => binding (checkGlobal · global)) list' globals = .ok list' after := by
  refine checkEach_fixed (fun global global' before behind annotates ended => ?_) annotate checked
  obtain ⟨scope, isChecked, rfl⟩ := binding_eq_ok ended
  exact binding_of_ok (checkGlobal · global') (checkGlobal_annotated annotates isChecked)

theorem declareFunctions_annotated {list list' : List FunctionDecl} {globals after : StaticFrame}
    (annotate : List.Forall₂ FunctionDecl.Annotates list list')
    (declared : checkEach (fun function => binding (declareFunction · function)) list globals =
      .ok list after) :
    checkEach (fun function => binding (declareFunction · function)) list' globals =
      .ok list' after := by
  refine checkEach_fixed (fun function function' before behind annotates ended => ?_) annotate
    declared
  obtain ⟨scope, isDeclared, rfl⟩ := binding_eq_ok ended
  exact binding_of_ok (declareFunction · function') (declareFunction_annotated annotates isDeclared)

theorem checkFunctions_annotated {list list' : List FunctionDecl} {globals after : StaticFrame}
    (annotate : List.Forall₂ FunctionDecl.Annotates list list')
    (checked : checkEach (fun function => reading (checkFunction · function)) list globals =
      .ok list after) :
    checkEach (fun function => reading (checkFunction · function)) list' globals =
      .ok list' after := by
  refine checkEach_fixed (fun function function' before behind annotates ended => ?_) annotate
    checked
  obtain ⟨isChecked, rfl⟩ := reading_eq_ok ended
  exact reading_of_ok (checkFunction · function') (checkFunction_annotated annotates isChecked)

theorem checkSource_annotated {checked annotated : Source} {globals after : StaticFrame}
    (annotates : checked.Annotates annotated)
    (fixed : checkSource checked globals = .ok checked after) :
    checkSource annotated globals = .ok annotated after := by
  obtain ⟨list, functions, span⟩ := checked
  obtain ⟨list', functions', span'⟩ := annotated
  obtain ⟨globalsAnnotate, functionsAnnotate, sameSpan⟩ := annotates
  obtain rfl : span = span' := sameSpan
  obtain ⟨_, early, globalsChecked, fixed⟩ := step_bind_eq_ok.mp fixed
  obtain ⟨declared, late, functionsDeclared, fixed⟩ := step_bind_eq_ok.mp fixed
  obtain ⟨_, last, functionsChecked, fixed⟩ := step_bind_eq_ok.mp fixed
  obtain ⟨_, final, hasMain, fixed⟩ := step_bind_eq_ok.mp fixed
  dsimp only at fixed functionsDeclared
  cases fixed
  obtain rfl := functions_eq_of_checked functionsDeclared functionsChecked
  refine step_bind_eq_ok.mpr
    ⟨list', early, checkGlobals_annotated globalsAnnotate globalsChecked, ?_⟩
  refine step_bind_eq_ok.mpr
    ⟨functions', late, declareFunctions_annotated functionsAnnotate functionsDeclared, ?_⟩
  refine step_bind_eq_ok.mpr
    ⟨functions', last, checkFunctions_annotated functionsAnnotate functionsChecked, ?_⟩
  exact step_bind_eq_ok.mpr ⟨_, _, hasMain, rfl⟩

end Typing

/-! ### Annotated programs run alike -/

mutual

theorem StmtAnnotates.alike {s s' : Stmt} (annotates : StmtAnnotates s s') :
    StmtAlike Eq s s' := by
  cases annotates with
  | kept =>
      exact s.alike_refl
  | declaration name value span target =>
      exact .declaration name rfl (option_alike_refl _)
  | conditional condition span thenAnnotates elseAnnotates =>
      exact .conditional condition.alike_refl thenAnnotates.alike elseAnnotates.alike
  | switch condition span casesAnnotate =>
      exact .switch condition.alike_refl casesAnnotate.alike
  | loop condition span bodyAnnotates =>
      exact .loop condition.alike_refl bodyAnnotates.alike

theorem BlockAnnotates.alike {b b' : List Stmt} (annotates : BlockAnnotates b b') :
    BlockAlike Eq b b' := by
  cases annotates with
  | nil => exact .nil
  | cons firstAnnotates restAnnotates => exact .cons firstAnnotates.alike restAnnotates.alike

theorem CasesAnnotate.alike {cs cs' : List Case} (annotate : CasesAnnotate cs cs') :
    CasesAlike Eq cs cs' := by
  cases annotate with
  | nil =>
      exact .nil
  | cons value span bodyAnnotates restAnnotate =>
      exact .cons (option_alike_refl value) bodyAnnotates.alike restAnnotate.alike

end

theorem GlobalDecl.Annotates.alike {global global' : GlobalDecl}
    (annotates : global.Annotates global') : global.Alike Eq global' := by
  cases annotates with
  | kept => exact ⟨rfl, rfl, rfl, option_alike_refl _⟩
  | declaration _ _ _ => exact ⟨rfl, rfl, rfl, option_alike_refl _⟩

theorem FunctionDecl.Annotates.alike {function function' : FunctionDecl}
    (annotates : function.Annotates function') : function.Alike Eq function' := by
  obtain ⟨bodyAnnotates⟩ := annotates
  exact ⟨rfl, rfl, rfl, bodyAnnotates.alike⟩

theorem Source.Annotates.alike {checked annotated : Source}
    (annotates : checked.Annotates annotated) : checked.Alike Eq annotated :=
  ⟨annotates.globals.imp fun _ _ => GlobalDecl.Annotates.alike,
    annotates.functions.imp fun _ _ => FunctionDecl.Annotates.alike,
    congrArg Span.start annotates.span, congrArg Span.stop annotates.span⟩

/-! ### Writing out the types that were found -/

theorem Source.check_annotated {source checked annotated : Source}
    (accepted : source.check = .ok checked) (annotates : checked.Annotates annotated) :
    annotated.check = .ok annotated := by
  have fixed := Source.check_of_check accepted
  unfold Source.check at fixed ⊢
  cases result : checkSource checked builtinFrame with
  | error fault after =>
      rw [result] at fixed
      cases fixed
  | ok found after =>
      rw [result] at fixed
      cases fixed
      rw [checkSource_annotated annotates result]

/-- Writing out the types that checking has found changes nothing.  Whatever types of declarations
with an initial value are written out, the program is accepted again, all nodes and variables get
the types that they had, and every run prints and ends as it did. -/
theorem Source.check_run_annotated {source checked annotated written : Source}
    (accepted : source.check = .ok checked) (annotates : checked.Annotates annotated)
    (isWritten : written.erased = annotated.erased) :
    written.check = .ok annotated ∧
      ∀ fuel sink, annotated.run fuel sink = checked.run fuel sink := by
  have acceptedAgain : annotated.check = .ok annotated := Source.check_annotated accepted annotates
  constructor
  · rw [← written.check_erased, isWritten, annotated.check_erased, acceptedAgain]
  · intro fuel sink
    exact (annotates.alike.run (Source.fit_of_check accepted) (Source.fit_of_check acceptedAgain)
      fuel sink).eq.symm

def inferringSource (decorated : Bool) (numberType listType : Option String) : Source :=
  let here : Span := { start := 0, stop := 0 }
  let typed (ty : Ty) : Option Ty := if decorated then some ty else none
  let bound (name : String) (ty : Ty) (isMutable : Bool) : Option Variable :=
    if decorated then some (.plain name ty isMutable false) else none
  let number : Expr := .access "number" here (typed .integer) (bound "number" .integer false)
  let main : Callee := { signature := .plain "main" [] .integer, kind := .signature }
  { globals :=
      [{ name := "number", mutable := false, isList := false, typeName := numberType
         value := some (.literal (.integer 4) here (typed .integer)), span := here
         target := bound "number" .integer false }]
    functions :=
      [{ name := "main", parameters := [], returnTypeName := some "Integer"
         body :=
          [.declaration "pair" listType
            (some (.list [number, .literal (.boolean true) here (typed .boolean)] here
              (typed .any))) here (bound "pair" .any true),
            .result number here]
         span := here, callee := if decorated then some main else none }]
    span := here }

theorem Source.check_run_annotated_inferring :
    (inferringSource false none none).check = .ok (inferringSource true none none) ∧
      (inferringSource false (some "Integer") (some "Any")).check =
        .ok (inferringSource true (some "Integer") (some "Any")) ∧
      (inferringSource true (some "Integer") (some "Any")).run 3 .unlimited =
        (inferringSource true none none).run 3 .unlimited ∧
      ((inferringSource true none none).run 3 .unlimited).result = .ok (.integer 4) := by
  have accepted :
      (inferringSource false none none).check = .ok (inferringSource true none none) := by
    rfl
  have annotates : (inferringSource true none none).Annotates
      (inferringSource true (some "Integer") (some "Any")) :=
    ⟨.cons (@GlobalDecl.Annotates.declaration _ _ (.plain "number" .integer false false)
        rfl rfl rfl) .nil,
      .cons (.body (.cons (.declaration _ _ _ (.plain "pair" .any true false))
        (.cons (.kept _) .nil))) .nil, rfl⟩
  have isWritten : (inferringSource false (some "Integer") (some "Any")).erased =
      (inferringSource true (some "Integer") (some "Any")).erased := by
    rfl
  obtain ⟨acceptedAgain, sameRun⟩ := Source.check_run_annotated accepted annotates isWritten
  exact ⟨accepted, acceptedAgain, sameRun 3 .unlimited, rfl⟩

end ScriptLang
