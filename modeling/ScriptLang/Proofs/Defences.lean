import ScriptLang.Program
import ScriptLang.Proofs.ReadTrees
import ScriptLang.Proofs.StatementScopes

/-!
Causes that no text is rejected for.

Checking guards against trees that no text is read as: switches without a default case, results
outside of functions, numerals that are no numbers.  Scanned tokens are well formed, read trees have
the shape that checking asks for, and what is left are the causes of runs.
-/

namespace ScriptLang

/-- The causes that only trees without a text, or runs, are rejected for. -/
def Cause.isDefensive : Cause → Bool
  | .numberParseError _ | .missingDefaultCase | .returnOutsideFunction => true
  | .divisionByZero | .invalidOperand _ _ | .indexOutOfRange _ _ | .invalidArgument _ _ => true
  | .notInvocable _ | .outputError _ => true
  | _ => false

class Undefended {α : Type} (step : Except Fault α) : Prop where
  cause : ∀ fault, step = .error fault → fault.cause.isDefensive = false

namespace Undefended

variable {α β : Type}

instance ok (value : α) : Undefended (.ok value : Except Fault α) :=
  ⟨fun _ impossible => nomatch impossible⟩

instance pure (value : α) : Undefended (Pure.pure value : Except Fault α) :=
  ⟨fun _ impossible => nomatch impossible⟩

theorem error {fault : Fault} (ordinary : fault.cause.isDefensive = false) :
    Undefended (.error fault : Except Fault α) := by
  refine ⟨?_⟩
  rintro _ ⟨⟩
  exact ordinary

theorem bind_of_ok {step : Except Fault α} {next : α → Except Fault β} (first : Undefended step)
    (second : ∀ value, step = .ok value → Undefended (next value)) :
    Undefended (step >>= next) := by
  cases step with
  | ok value => exact second value rfl
  | error fault => exact .error (first.cause fault rfl)

instance bind {step : Except Fault α} {next : α → Except Fault β} [first : Undefended step]
    [second : ∀ value, Undefended (next value)] : Undefended (step >>= next) :=
  first.bind_of_ok fun value _ => second value

instance map {step : Except Fault α} {change : α → β} [undefended : Undefended step] :
    Undefended (step.map change) := by
  cases step with
  | ok value => exact .ok (change value)
  | error fault => exact .error (undefended.cause fault rfl)

end Undefended

/-! ### Scanning -/

theorem Lexeme.read_undefended {c : Char} {rest : List Char} {cause : Cause}
    (failed : read c rest = .error cause) : cause.isDefensive = false := by
  unfold read at failed
  split at failed
  · cases failed
  split at failed
  · cases failed
  split at failed
  · cases failed
  split at failed
  · cases failed
  split at failed
  · split at failed
    · cases failed
    · cases failed
      rfl
  split at failed
  · split at failed
    · cases failed
    · cases failed
      rfl
  · split at failed
    · cases failed
    · cases failed
      rfl

theorem Token.scanFrom_undefended (offset : Nat) (text : List Char) :
    Undefended (scanFrom offset text) := by
  cases text with
  | nil =>
      rw [scanFrom]
      infer_instance
  | cons c rest =>
      rw [scanFrom]
      cases found : Lexeme.read c rest with
      | error cause => exact .error (Lexeme.read_undefended found)
      | ok lexeme =>
          have others := scanFrom_undefended
            (offset + Text.byteSize (c :: rest.take lexeme.more)) (rest.drop lexeme.more)
          dsimp only
          split
          · exact .error (others.cause _ ‹_›)
          · exact .ok _
termination_by text.length
decreasing_by
  simp only [List.length_drop, List.length_cons]
  omega

/-! ### Reading -/

namespace Parse

theorem literalOf_undefended {token : Token} (wellFormed : token.WellFormed) :
    Undefended (literalOf token) := by
  by_cases isLiteral : isConstant token.kind = true
  · obtain ⟨value, reads⟩ := literalOf_of_wellFormed isLiteral wellFormed
    rw [reads]
    exact .ok value
  · unfold literalOf
    split
    case h_8 => exact .error rfl
    all_goals
      rename_i kindEq
      rw [kindEq] at isLiteral
      exact absurd rfl isLiteral

theorem Composed.undefended {α : Type} {reader : Parse α} (composed : Composed reader) (c : Cursor)
    (wellFormed : ∀ token ∈ c.rest, token.WellFormed) :
    Leads reader c (fun _ _ => True) fun fault _ => fault.cause.isDefensive = false := by
  induction composed generalizing c with
  | pure | get | advance => trivial
  | unexpected | detailed => exact rfl
  | primary =>
      have literal := literalOf_undefended (wellFormed c.current List.mem_cons_self)
      unfold Parse.primary
      refine Leads.bind (show Leads currentToken c (fun token _ => token = c.current) _ from rfl) ?_
      rintro _ d rfl
      split
      · exact literal.cause _ ‹_›
      · trivial
  | @bind _ _ reader next first second firstHolds secondHolds =>
      cases result : reader c with
      | error fault d =>
          have ordinary := (firstHolds c wellFormed).of_error result
          unfold Leads
          rw [step_bind_of_error result]
          exact ordinary
      | ok value d =>
          obtain ⟨ts, moves⟩ := ((inferInstance : Travels reader).moves c).of_ok result
          refine (leads_bind_of_ok result).mpr (secondHolds value d fun token member => ?_)
          apply wellFormed
          rw [moves.rest]
          exact List.mem_append_right ts member

instance : Composed source := by unfold source fuelled; infer_instance

end Parse

theorem Source.parse_undefended {text : String} (short : text.utf8ByteSize < Numeral.textLimit) :
    Undefended (Source.parse text) := by
  unfold Source.parse
  refine (Token.scanFrom_undefended 0 text.toList).bind_of_ok fun tokens scanned => ?_
  have wellFormed := Token.wellFormed_of_scan short scanned
  obtain ⟨body, rfl, _⟩ := Token.tiles_of_scan scanned
  rw [← Cursor.rest_ofTokens body rfl] at wellFormed
  have leads := Parse.Composed.undefended (inferInstance : Parse.Composed Parse.source) _ wellFormed
  unfold Parse.ofTokens
  split
  · exact .ok _
  · exact .error (leads.of_error ‹_›)

/-! ### Checking -/

section

variable {β φ : Type} (chain : Chain β φ) (frame : Frame β φ) (offset : Nat)

theorem Undefended.demand {α : Type} {condition : Prop} [Decidable condition] {value : α}
    {fault : Fault} (ordinary : fault.cause.isDefensive = false) :
    Undefended (if condition then .ok value else .error fault : Except Fault α) := by
  split
  · exact .ok value
  · exact .error ordinary

instance (target source : Ty) : Undefended (target.require source offset) :=
  .demand rfl

instance (name : String) : Undefended (Ty.resolve name offset) := by
  unfold Ty.resolve
  split
  · exact .ok _
  · exact .error rfl

instance (name : String) : Undefended (chain.lookupVariable name offset) := by
  unfold Chain.lookupVariable
  split
  · exact .ok _
  · exact .error rfl

instance (key : String × Nat) : Undefended (chain.lookupFunction key offset) := by
  unfold Chain.lookupFunction
  split
  · exact .ok _
  · exact .error rfl

instance (name : String) (entry : β) : Undefended (frame.defineVariable name entry offset) := by
  unfold Frame.defineVariable
  split
  · exact .ok _
  · exact .error rfl

instance (name : String) (entry : β) : Undefended (chain.defineVariable name entry offset) := by
  unfold Chain.defineVariable
  infer_instance

instance (key : String × Nat) (entry : φ) :
    Undefended (frame.defineFunction key entry offset) := by
  unfold Frame.defineFunction
  split
  · exact .ok _
  · exact .error rfl

instance (key : String × Nat) (entry : φ) :
    Undefended (chain.defineFunction key entry offset) := by
  unfold Chain.defineFunction
  infer_instance

end

namespace Typing

section

variable (scope : StaticScope) (context : Option Ty) (offset : Nat)

instance (value : Literal) : Undefended (literalTy value offset) := by
  unfold literalTy
  cases value with
  | integer | decimal => exact .demand rfl
  | _ => exact .ok _

instance (left right : Ty) : Undefended (requireSame left right offset) :=
  .demand rfl

instance (ty : Ty) : Undefended (requireNumeric ty offset) :=
  .demand rfl

instance (op : BinaryOp) (left right : Ty) (rightOffset : Nat) :
    Undefended (binaryTy op left right offset rightOffset) := by
  unfold binaryTy
  cases op with
  | add =>
      dsimp only
      split
      · infer_instance
      · infer_instance
  | _ => infer_instance

instance (target : Variable) : Undefended (wholeTy target context offset) := by
  unfold wholeTy
  split
  · exact .demand rfl
  · exact .ok _

instance (target : Variable) : Undefended (elementTy target offset) :=
  .demand rfl

mutual

theorem checkExpr_undefended (scope : StaticScope) (context : Option Ty) (e : Expr) :
    Undefended (checkExpr scope context e) := by
  cases e with
  | literal value span ty =>
      rw [checkExpr]
      infer_instance
  | group inner span ty =>
      have inside := checkExpr_undefended scope context inner
      rw [checkExpr]
      infer_instance
  | binary op left right span ty =>
      have leftSide := checkExpr_undefended scope none left
      have rightSide := checkExpr_undefended scope none right
      rw [checkExpr]
      infer_instance
  | access name span ty target =>
      rw [checkExpr]
      infer_instance
  | element name index span ty target =>
      have inside := checkExpr_undefended scope none index
      rw [checkExpr]
      infer_instance
  | call name arguments span ty callee =>
      have inside := fun types => checkArguments_undefended scope types arguments
      rw [checkExpr]
      infer_instance
  | list elements span ty =>
      have inside := checkElements_undefended scope (context.getD .any) elements
      rw [checkExpr]
      infer_instance

theorem checkArguments_undefended (scope : StaticScope) (types : List Ty) (es : List Expr) :
    Undefended (checkArguments scope types es) := by
  cases es with
  | nil =>
      cases types with
      | nil => exact .ok _
      | cons expected types => exact .ok _
  | cons first rest =>
      cases types with
      | nil => exact .ok _
      | cons expected types =>
          have head := checkExpr_undefended scope (some expected) first
          have others := checkArguments_undefended scope types rest
          rw [checkArguments]
          refine head.bind_of_ok fun value _ => ?_
          dsimp only
          split
          · infer_instance
          · exact .error rfl

theorem checkElements_undefended (scope : StaticScope) (expected : Ty) (es : List Expr) :
    Undefended (checkElements scope expected es) := by
  cases es with
  | nil => exact .ok _
  | cons first rest =>
      have head := checkExpr_undefended scope (some expected) first
      have others := checkElements_undefended scope expected rest
      rw [checkElements]
      infer_instance

end

instance (e : Expr) : Undefended (checkExpr scope context e) :=
  checkExpr_undefended scope context e

instance (typeName : Option String) (value : Option Expr) :
    Undefended (checkBinding scope typeName value offset) := by
  unfold checkBinding
  split
  · infer_instance
  · infer_instance
  · infer_instance
  · exact .error rfl

instance (condition : Expr) : Undefended (checkCondition scope condition) := by
  unfold checkCondition
  infer_instance

instance (expected : Ty) (value : Expr) : Undefended (checkAgainst scope expected value) := by
  unfold checkAgainst
  infer_instance

instance (target : Option Variable) : Undefended (requireMutable target offset) := by
  unfold requireMutable
  split
  · exact .demand rfl
  · exact .ok _

theorem requireDefault_undefended {cases : List Case} (ends : EndsInDefault cases) :
    Undefended (requireDefault cases offset) := by
  obtain ⟨last, lastEq, isDefault⟩ := ends
  unfold requireDefault
  rw [lastEq]
  dsimp only
  rw [isDefault]
  exact .ok ()

end

theorem returnType?_of_defineVariable {scope after : StaticScope} {name : String}
    {target : Variable} {offset : Nat}
    (defined : scope.defineVariable name target offset = .ok after) :
    after.returnType? = scope.returnType? := by
  unfold Chain.defineVariable Frame.defineVariable at defined
  split at defined
  · cases defined
    exact Chain.returnType?_withInnermost rfl
  · cases defined

theorem returnType?_of_checkStmt {scope after : StaticScope} {s decorated : Stmt}
    (checked : checkStmt scope s = .ok (decorated, after)) :
    after.returnType? = scope.returnType? := by
  rcases scope_of_checkStmt checked with ⟨_, rfl⟩ | ⟨target, offset, _, defined⟩
  · rfl
  · exact returnType?_of_defineVariable defined

mutual

/-- In the body of a function, a statement whose switches end in default cases is not rejected for
a missing one, nor for a result outside of functions. -/
theorem checkStmt_undefended {scope : StaticScope} (inFunction : scope.returnType? ≠ none)
    (s : Stmt) (defaulted : s.Defaulted) : Undefended (checkStmt scope s) := by
  cases s with
  | expression value span =>
      rw [checkStmt]
      split
      · infer_instance
      · exact .error rfl
  | declaration name typeName value span target =>
      rw [checkStmt]
      infer_instance
  | assignment receiver value span =>
      rw [checkStmt]
      split
      · infer_instance
      · exact .error rfl
  | conditional condition thenBlock elseBlock span =>
      have inChild : scope.child.returnType? ≠ none := inFunction
      have inThen := checkBlock_undefended inChild thenBlock defaulted.1
      have inElse := checkBlock_undefended inChild elseBlock defaulted.2
      rw [checkStmt]
      split
      · exact .error rfl
      · infer_instance
  | switch condition cases span =>
      obtain ⟨endsInDefault, casesDefaulted⟩ := defaulted
      have last := requireDefault_undefended span.start endsInDefault
      have inCases := fun expected =>
        checkCases_undefended inFunction cases expected casesDefaulted
      rw [checkStmt]
      infer_instance
  | loop condition body span =>
      have inChild : scope.child.returnType? ≠ none := inFunction
      have inBody := checkBlock_undefended inChild body defaulted
      rw [checkStmt]
      infer_instance
  | result value span =>
      rw [checkStmt]
      split
      · exact absurd ‹_› inFunction
      · infer_instance

theorem checkBlock_undefended {scope : StaticScope} (inFunction : scope.returnType? ≠ none)
    (b : List Stmt) (defaulted : BlockDefaulted b) : Undefended (checkBlock scope b) := by
  cases b with
  | nil => exact .ok []
  | cons first rest =>
      rw [checkBlock]
      refine (checkStmt_undefended inFunction first defaulted.1).bind_of_ok ?_
      rintro ⟨first', after⟩ checked
      rw [← returnType?_of_checkStmt checked] at inFunction
      have others := checkBlock_undefended inFunction rest defaulted.2
      infer_instance

theorem checkCases_undefended {scope : StaticScope} (inFunction : scope.returnType? ≠ none)
    (cs : List Case) (expected : Ty) (defaulted : CasesDefaulted cs) :
    Undefended (checkCases scope expected cs) := by
  cases cs with
  | nil => exact .ok []
  | cons first rest =>
      obtain ⟨value, body, span⟩ := first
      have inChild : scope.child.returnType? ≠ none := inFunction
      have inBody := checkBlock_undefended inChild body defaulted.1
      have others := checkCases_undefended inFunction rest expected defaulted.2
      have head : Undefended (checkCase scope expected (.mk value body span)) := by
        cases value with
        | none =>
            rw [checkCase]
            infer_instance
        | some value =>
            rw [checkCase]
            infer_instance
      rw [checkCases]
      infer_instance

end

/-! ### Checking programs -/

instance (scope : StaticScope) (global : GlobalDecl) :
    Undefended (checkGlobal scope global) := by
  unfold checkGlobal
  infer_instance

instance (offset : Nat) (names : List String) : Undefended (resolveAll offset names) := by
  induction names with
  | nil => exact .ok []
  | cons name names inductionHypothesis =>
      rw [resolveAll]
      infer_instance

instance (typeName : Option String) (offset : Nat) :
    Undefended (resolveReturn typeName offset) := by
  unfold resolveReturn
  split
  · infer_instance
  · exact .ok _

instance (scope : StaticScope) (function : FunctionDecl) :
    Undefended (declareFunction scope function) := by
  unfold declareFunction
  infer_instance

theorem body_of_declareFunction {scope after : StaticScope} {function declared : FunctionDecl}
    (isDeclared : declareFunction scope function = .ok (declared, after)) :
    declared.body = function.body := by
  obtain ⟨types, _, isDeclared⟩ := bind_eq_ok.mp isDeclared
  obtain ⟨returns, _, isDeclared⟩ := bind_eq_ok.mp isDeclared
  obtain ⟨wider, _, isDeclared⟩ := bind_eq_ok.mp isDeclared
  cases isDeclared
  rfl

instance (scope : StaticScope) (function : FunctionDecl) :
    Undefended (calleeOf scope function) := by
  unfold calleeOf
  split
  · exact .ok _
  · infer_instance

instance (scope : StaticScope) (offset : Nat) : Undefended (requireMain scope offset) := by
  unfold requireMain
  split
  · exact .demand rfl
  · exact .error rfl

theorem bindParameters_undefended (offset : Nat) (scope : StaticScope)
    (parameters : List (Parameter × Ty)) :
    Undefended (bindParameters offset scope parameters) := by
  induction parameters generalizing scope with
  | nil => exact .ok scope
  | cons first rest inductionHypothesis =>
      rw [bindParameters]
      infer_instance

theorem returnType?_of_bindParameters {offset : Nat} {scope inner : StaticScope}
    {parameters : List (Parameter × Ty)}
    (bound : bindParameters offset scope parameters = .ok inner) :
    inner.returnType? = scope.returnType? := by
  induction parameters generalizing scope with
  | nil =>
      cases bound
      rfl
  | cons first rest inductionHypothesis =>
      rw [bindParameters] at bound
      obtain ⟨wider, defined, bound⟩ := bind_eq_ok.mp bound
      exact (inductionHypothesis bound).trans (returnType?_of_defineVariable defined)

theorem checkFunction_undefended (scope : StaticScope) {function : FunctionDecl}
    (defaulted : BlockDefaulted function.body) : Undefended (checkFunction scope function) := by
  unfold checkFunction
  refine Undefended.bind_of_ok inferInstance fun callee _ => ?_
  refine (bindParameters_undefended _ _ _).bind_of_ok fun inner bound => ?_
  have inFunction : inner.returnType? ≠ none := by
    rw [returnType?_of_bindParameters bound, Chain.returnType?_body]
    exact Option.some_ne_none _
  have inBody := checkBlock_undefended inFunction function.body defaulted
  infer_instance

def Undefends {α : Type} (step : GlobalCheck α) : Prop :=
  ∀ globals, Leads step globals (fun _ _ => True) fun fault _ => fault.cause.isDefensive = false

theorem binding_undefends {α : Type} {step : StaticScope → Except Fault (α × StaticScope)}
    (undefended : ∀ scope, Undefended (step scope)) : Undefends (binding step) := by
  intro globals
  unfold Leads binding
  cases result : step (.ofGlobals globals) with
  | ok value => trivial
  | error fault => exact (undefended _).cause fault result

theorem reading_undefends {α : Type} {step : StaticScope → Except Fault α}
    (undefended : ∀ scope, Undefended (step scope)) : Undefends (reading step) := by
  intro globals
  unfold Leads reading
  cases result : step (.ofGlobals globals) with
  | ok value => trivial
  | error fault => exact (undefended _).cause fault result

theorem checkEach_undefends {α : Type} {step : α → GlobalCheck α} {list : List α}
    (each : ∀ first ∈ list, Undefends (step first)) : Undefends (checkEach step list) := by
  induction list with
  | nil => exact fun globals => trivial
  | cons first rest inductionHypothesis =>
      obtain ⟨head, others⟩ := List.forall_mem_cons.mp each
      intro globals
      rw [checkEach]
      refine (head globals).bind fun first' middle _ => ?_
      exact (inductionHypothesis others middle).bind fun rest' last _ => trivial

end Typing

open Typing

theorem Source.check_undefended {source : Source}
    (defaulted : ∀ function ∈ source.functions, BlockDefaulted function.body) :
    Undefended source.check := by
  have leads : Leads (checkSource source) builtinFrame (fun _ _ => True)
      fun fault _ => fault.cause.isDefensive = false := by
    unfold checkSource
    refine (checkEach_undefends (fun global _ => binding_undefends inferInstance) _).bind ?_
    intro globals early _
    cases declares : checkEach (fun function => binding (declareFunction · function))
        source.functions early with
    | error fault last =>
        have ordinary := (checkEach_undefends
          (fun function _ => binding_undefends inferInstance) early).of_error declares
        unfold Leads
        rw [step_bind_of_error declares]
        exact ordinary
    | ok declared last =>
        refine (leads_bind_of_ok declares).mpr ?_
        have declaredDefaulted : ∀ function ∈ declared, BlockDefaulted function.body := by
          refine forall_mem_of_forall₂ ((checkEach_forall₂ declares).imp ?_) defaulted
          rintro function function' ⟨before, behind, isDeclared⟩ functionDefaulted
          obtain ⟨scope, isDeclared, _⟩ := binding_eq_ok isDeclared
          rwa [body_of_declareFunction isDeclared]
        refine (checkEach_undefends (fun function member => reading_undefends fun scope =>
          checkFunction_undefended scope (declaredDefaulted function member)) _).bind ?_
        intro functions final _
        exact (reading_undefends inferInstance _).bind fun _ _ _ => trivial
  unfold Source.check
  cases result : checkSource source builtinFrame with
  | ok checked after => exact .ok checked
  | error fault after => exact .error (leads.of_error result)

/-! ### Texts -/

theorem Parse.primary_of_character {c : Cursor} (wellFormed : c.current.WellFormed)
    (isCharacter : c.current.kind = .character) :
    ∃ value, primary c = .ok (.literal (.character value) c.current.span none) c.next := by
  unfold Token.WellFormed at wellFormed
  rw [isCharacter] at wellFormed
  obtain ⟨value, textEq⟩ := wellFormed
  have reads : literalOf c.current = .ok (.character value) := by
    unfold literalOf
    rw [isCharacter]
    dsimp only
    rw [textEq]
  refine ⟨value, ?_⟩
  unfold primary
  rw [step_bind_of_ok (show currentToken c = .ok c.current c from rfl), reads]
  rfl

namespace Program

/-- A text is not rejected with a defensive cause, and wherever a reader stands among its tokens, a
character is read. -/
theorem check_not_defensive {text : String} (file : String)
    (short : text.utf8ByteSize < Numeral.textLimit) :
    (∀ error, check text file = .error error → error.cause.isDefensive = false) ∧
      ∀ tokens, Token.scan text = .ok tokens → ∀ c : Cursor, c.tokens = tokens →
        c.current.kind = .character →
          ∃ value,
            Parse.primary c = .ok (.literal (.character value) c.current.span none) c.next := by
  constructor
  · intro error failed
    have undefended : Undefended (Source.parse text >>= Source.check) :=
      (Source.parse_undefended short).bind_of_ok fun tree parsed =>
        Source.check_undefended (Source.defaulted_of_parse parsed)
    unfold check at failed
    split at failed
    · cases failed
    · rename_i fault faultEq
      cases failed
      exact undefended.cause fault faultEq
  · intro tokens scanned c tokensEq isCharacter
    refine Parse.primary_of_character (Token.wellFormed_of_scan short scanned _ ?_) isCharacter
    rw [← tokensEq]
    exact List.mem_append_right _ List.mem_cons_self

/-- A character where a program should begin. -/
def loneCharacter : String :=
  "'é'"

theorem check_not_defensive_lone :
    loneCharacter.utf8ByteSize < Numeral.textLimit ∧
      (∃ error, check loneCharacter "lone" = .error error ∧ error.cause.isDefensive = false) ∧
      ∃ tokens c value, Token.scan loneCharacter = .ok tokens ∧ Cursor.tokens c = tokens ∧
        c.current.kind = .character ∧
          Parse.primary c = .ok (.literal (.character value) c.current.span none) c.next := by
  have short : loneCharacter.utf8ByteSize < Numeral.textLimit := by decide +kernel
  have rejected : (check loneCharacter "lone").isOk = false := by decide +kernel
  obtain ⟨ordinary, characters⟩ := check_not_defensive "lone" short
  refine ⟨short, ?_, ?_⟩
  · cases checked : check loneCharacter "lone" with
    | error error => exact ⟨error, rfl, ordinary error checked⟩
    | ok source =>
        rw [checked] at rejected
        cases rejected
  · let token : Token := { kind := .character, value := "é", span := { start := 0, stop := 4 } }
    let cursor : Cursor := { passed := [], current := token, ahead := [Token.endOfSource 4] }
    have scanned : Token.scan loneCharacter = .ok cursor.tokens := by decide +kernel
    obtain ⟨value, reads⟩ := characters _ scanned cursor rfl rfl
    exact ⟨cursor.tokens, cursor, value, scanned, rfl, rfl, reads⟩

end Program
end ScriptLang
