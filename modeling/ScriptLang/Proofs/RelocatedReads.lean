import ScriptLang.Parse.Source
import ScriptLang.Proofs.Relocation

/-!
Reading relocated tokens.

A reader looks at the kinds and texts of tokens, and writes down where they stand.  So from
relocated tokens it reads the relocated tree, or fails for the same reason, at the place where that
has gone.  Zero has to stay where it is, as a program starts there whatever its first token is.
-/

namespace ScriptLang

def Token.relocated (f : Nat → Nat) (token : Token) : Token :=
  { token with span := token.span.relocated f }

namespace Cursor

def relocated (f : Nat → Nat) (c : Cursor) : Cursor :=
  { passed := c.passed.map (Token.relocated f)
    current := c.current.relocated f
    ahead := c.ahead.map (Token.relocated f) }

variable {f : Nat → Nat}

theorem next_relocated (c : Cursor) : (c.relocated f).next = c.next.relocated f := by
  obtain ⟨passed, current, ahead⟩ := c
  cases ahead with
  | nil => rfl
  | cons token ahead => rfl

theorem remaining_relocated (c : Cursor) : (c.relocated f).remaining = c.remaining := by
  unfold remaining relocated
  rw [List.length_map]

theorem previousEnd_relocated (fixed : f 0 = 0) (c : Cursor) :
    (c.relocated f).previousEnd = f c.previousEnd := by
  obtain ⟨passed, current, ahead⟩ := c
  cases passed with
  | nil => exact fixed.symm
  | cons token passed => rfl

/-- The end of source that is added has gone where the last token ends. -/
theorem ofTokens_relocated (fixed : f 0 = 0) (tokens : List Token) :
    ofTokens (tokens.map (Token.relocated f)) = (ofTokens tokens).relocated f := by
  cases tokens with
  | nil =>
      have atZero : Token.endOfSource 0 = (Token.endOfSource 0).relocated f := by
        simp [Token.endOfSource, Token.relocated, Span.relocated, fixed]
      change (⟨[], Token.endOfSource 0, []⟩ : Cursor) =
        ⟨[], (Token.endOfSource 0).relocated f, []⟩
      rw [← atZero]
  | cons first rest =>
      unfold ofTokens
      rw [List.getLast?_map, List.getLast?_cons]
      by_cases ends : (rest.getLast?.getD first).kind = .eof
      · simp [Token.relocated, ends, relocated]
      · simp [Token.relocated, ends, relocated, Token.endOfSource, Span.relocated]

end Cursor

namespace Parse

variable {α β γ δ : Type}

def endRelocated (f : Nat → Nat) (move : α → β) :
    EStateM.Result Fault Cursor α → EStateM.Result Fault Cursor β
  | .ok value c => .ok (move value) (c.relocated f)
  | .error fault c => .error (fault.relocated f) (c.relocated f)

/-- From a relocated cursor, the second reader ends as the first one does from the cursor. -/
def ReadsRelocated (f : Nat → Nat) (move : α → β) (first : Parse α) (second : Parse β) :
    Prop :=
  ∀ c : Cursor, second (c.relocated f) = endRelocated f move (first c)

variable {f : Nat → Nat}

namespace ReadsRelocated

variable {move : α → β} {moveOn : γ → δ} {first : Parse α} {second : Parse β}

theorem pure {value : α} {value' : β} (moved : value' = move value) :
    ReadsRelocated f move (Pure.pure value) (Pure.pure value') := by
  intro c
  rw [moved]
  rfl

theorem throw {fault fault' : Fault} (moved : fault' = fault.relocated f) :
    ReadsRelocated f move (MonadExcept.throw fault : Parse α)
      (MonadExcept.throw fault' : Parse β) := by
  intro c
  rw [moved]
  rfl

theorem bind {next : α → Parse γ} {next' : β → Parse δ}
    (reads : ReadsRelocated f move first second)
    (continues : ∀ value, ReadsRelocated f moveOn (next value) (next' (move value))) :
    ReadsRelocated f moveOn (first >>= next) (second >>= next') := by
  intro c
  change EStateM.bind second next' (c.relocated f) =
    endRelocated f moveOn (EStateM.bind first next c)
  unfold EStateM.bind
  rw [reads c]
  cases first c with
  | ok value after => exact continues value after
  | error fault after => rfl

theorem bind_same {next : α → Parse γ} {next' : α → Parse δ} {first second : Parse α}
    (reads : ReadsRelocated f id first second)
    (continues : ∀ value, ReadsRelocated f moveOn (next value) (next' value)) :
    ReadsRelocated f moveOn (first >>= next) (second >>= next') :=
  reads.bind continues

theorem view {see : Cursor → α} {see' : Cursor → β}
    (moved : ∀ c : Cursor, see' (c.relocated f) = move (see c)) :
    ReadsRelocated f move (do return see (← get)) (do return see' (← get)) := by
  intro c
  change EStateM.Result.ok (see' (c.relocated f)) (c.relocated f) = _
  rw [moved c]
  rfl

theorem currentToken : ReadsRelocated f (Token.relocated f) currentToken currentToken :=
  view fun _ => rfl

theorem currentKind : ReadsRelocated f id currentKind currentKind :=
  view fun _ => rfl

theorem offset : ReadsRelocated f f offset offset :=
  view fun _ => rfl

theorem previousEnd (fixed : f 0 = 0) : ReadsRelocated f f previousEnd previousEnd :=
  view fun c => c.previousEnd_relocated fixed

theorem hasTokens : ReadsRelocated f id hasTokens hasTokens :=
  currentKind.bind fun _ => .pure rfl

theorem advance : ReadsRelocated f (Token.relocated f) advance advance := by
  intro c
  change EStateM.Result.ok _ (c.relocated f).next = EStateM.Result.ok _ (c.next.relocated f)
  rw [c.next_relocated]
  rfl

theorem unexpected : ReadsRelocated f move Parse.unexpected Parse.unexpected :=
  currentToken.bind fun _ => .throw rfl

theorem complain (detail : String) :
    ReadsRelocated f move (Parse.complain detail) (Parse.complain detail) :=
  currentToken.bind fun _ => .throw rfl

theorem expectOr (kind : Kind) (detail : String) :
    ReadsRelocated f (Token.relocated f) (expectOr kind detail) (expectOr kind detail) := by
  unfold Parse.expectOr
  refine currentKind.bind_same fun current => ?_
  split
  · exact advance
  · exact complain detail

theorem expect (kind : Kind) : ReadsRelocated f (Token.relocated f) (expect kind) (expect kind) :=
  expectOr kind _

theorem identifier (context : String) :
    ReadsRelocated f id (identifier context) (identifier context) :=
  (expectOr .identifier _).bind fun _ => .pure rfl

theorem spanFrom (fixed : f 0 = 0) (start : Nat) :
    ReadsRelocated f (Span.relocated f) (spanFrom start) (spanFrom (f start)) :=
  (previousEnd fixed).bind fun _ => .pure rfl

theorem fuelled {reader : Nat → Parse α} {reader' : Nat → Parse β}
    (reads : ∀ fuel, ReadsRelocated f move (reader fuel) (reader' fuel)) :
    ReadsRelocated f move (fuelled reader) (fuelled reader') := by
  intro c
  change reader' (8 * ((c.relocated f).remaining + 1)) (c.relocated f) = _
  rw [c.remaining_relocated]
  exact reads _ c

end ReadsRelocated

/-! ### Expressions -/

theorem literalOf_relocated (token : Token) :
    ResultsAlike (FaultsAlike (Relocates f)) Eq (literalOf token)
      (literalOf (token.relocated f)) := by
  obtain ⟨kind, text, span⟩ := token
  unfold literalOf Token.relocated
  cases kind with
  | integer =>
      dsimp only
      split
      · exact .ok rfl
      · exact .error ⟨rfl, rfl⟩
  | decimal =>
      dsimp only
      split
      · exact .ok rfl
      · exact .error ⟨rfl, rfl⟩
  | character =>
      dsimp only
      split
      · exact .ok rfl
      · exact .error ⟨rfl, rfl⟩
  | string | trueWord | falseWord | nilWord =>
      exact .ok rfl
  | _ =>
      exact .error ⟨rfl, rfl⟩

theorem primary_relocated : ReadsRelocated f (Expr.relocated f) primary primary := by
  unfold primary
  refine ReadsRelocated.currentToken.bind fun token => ?_
  have literals := literalOf_relocated (f := f) token
  generalize literalOf token = literal at literals ⊢
  generalize literalOf (token.relocated f) = literal' at literals ⊢
  cases literals with
  | ok same =>
      subst same
      exact ReadsRelocated.advance.bind fun _ => .pure rfl
  | error faults =>
      exact .throw (FaultsAlike.relocates_iff.mp faults)

structure ExpressionsRelocated (f : Nat → Nat) (fuel : Nat) : Prop where
  expression : ∀ power, ReadsRelocated f (Expr.relocated f) (expressionWithin fuel power)
    (expressionWithin fuel power)
  operators : ∀ power left, ReadsRelocated f (Expr.relocated f) (operatorsWithin fuel power left)
    (operatorsWithin fuel power (left.relocated f))
  binary : ∀ left power, ReadsRelocated f (Expr.relocated f) (binaryWithin fuel left power)
    (binaryWithin fuel (left.relocated f) power)
  operand : ReadsRelocated f (Expr.relocated f) (operandWithin fuel) (operandWithin fuel)
  symbol : ReadsRelocated f (Expr.relocated f) (symbolWithin fuel) (symbolWithin fuel)
  group : ReadsRelocated f (Expr.relocated f) (groupWithin fuel) (groupWithin fuel)
  items : ∀ closing, ReadsRelocated f (relocatedExprs f) (itemsWithin fuel closing)
    (itemsWithin fuel closing)
  moreItems : ReadsRelocated f (relocatedExprs f) (moreItemsWithin fuel) (moreItemsWithin fuel)

theorem expressionsRelocated (fixed : f 0 = 0) (fuel : Nat) : ExpressionsRelocated f fuel := by
  induction fuel with
  | zero =>
      exact {
        expression := fun _ => .unexpected
        operators := fun _ _ => .unexpected
        binary := fun _ _ => .unexpected
        operand := .unexpected
        symbol := .unexpected
        group := .unexpected
        items := fun _ => .unexpected
        moreItems := .unexpected }
  | succ fuel inductionHypothesis =>
      refine {
        expression := ?_, operators := ?_, binary := ?_, operand := ?_, symbol := ?_,
        group := ?_, items := ?_, moreItems := ?_ }
      · intro power
        rw [expressionWithin]
        exact inductionHypothesis.operand.bind fun left =>
          inductionHypothesis.operators power left
      · intro power left
        rw [operatorsWithin, operatorsWithin]
        refine ReadsRelocated.currentKind.bind_same fun kind => ?_
        dsimp only
        split
        · exact .pure rfl
        · exact (inductionHypothesis.binary left _).bind fun extended =>
            inductionHypothesis.operators power extended
      · intro left power
        rw [binaryWithin, binaryWithin]
        refine ReadsRelocated.advance.bind fun token => ?_
        have sameKind : (token.relocated f).kind = token.kind := rfl
        dsimp only
        rw [sameKind]
        cases BinaryOp.ofKind? token.kind with
        | none =>
            exact .throw rfl
        | some op =>
            refine (inductionHypothesis.expression power).bind fun right => .pure ?_
            rw [left.span_relocated, right.span_relocated]
            rfl
      · rw [operandWithin]
        refine ReadsRelocated.currentKind.bind_same fun kind => ?_
        split
        any_goals exact primary_relocated
        · exact inductionHypothesis.symbol
        · exact inductionHypothesis.group
        · exact .unexpected
      · rw [symbolWithin]
        refine (ReadsRelocated.expect _).bind fun name => ?_
        refine ReadsRelocated.currentKind.bind_same fun kind => ?_
        split
        · refine ReadsRelocated.advance.bind fun _ => ?_
          refine (inductionHypothesis.items _).bind fun arguments => ?_
          refine (ReadsRelocated.expect _).bind fun _ => ?_
          exact (ReadsRelocated.spanFrom fixed _).bind fun _ => .pure rfl
        · refine ReadsRelocated.advance.bind fun _ => ?_
          refine (inductionHypothesis.expression _).bind fun index => ?_
          refine (ReadsRelocated.expect _).bind fun _ => ?_
          exact (ReadsRelocated.spanFrom fixed _).bind fun _ => .pure rfl
        · exact .pure rfl
      · rw [groupWithin]
        refine (ReadsRelocated.expect _).bind fun opening => ?_
        refine (inductionHypothesis.expression _).bind fun inner => ?_
        refine (ReadsRelocated.expect _).bind fun _ => ?_
        exact (ReadsRelocated.spanFrom fixed _).bind fun _ => .pure rfl
      · intro closing
        rw [itemsWithin]
        refine ReadsRelocated.currentKind.bind_same fun kind => ?_
        split
        · exact .pure rfl
        · refine (inductionHypothesis.expression _).bind fun first => ?_
          exact inductionHypothesis.moreItems.bind fun others => .pure rfl
      · rw [moreItemsWithin]
        refine ReadsRelocated.currentKind.bind_same fun kind => ?_
        split
        · refine ReadsRelocated.advance.bind fun _ => ?_
          refine (inductionHypothesis.expression _).bind fun first => ?_
          exact inductionHypothesis.moreItems.bind fun others => .pure rfl
        · exact .pure rfl

theorem listWithin_relocated (fixed : f 0 = 0) (fuel : Nat) :
    ReadsRelocated f (Expr.relocated f) (listWithin fuel) (listWithin fuel) := by
  unfold listWithin
  refine (ReadsRelocated.expect _).bind fun opening => ?_
  refine ((expressionsRelocated fixed fuel).items _).bind fun elements => ?_
  refine (ReadsRelocated.expect _).bind fun _ => ?_
  exact (ReadsRelocated.spanFrom fixed _).bind fun _ => .pure rfl

/-! ### Statements -/

theorem typeAnnotation_relocated : ReadsRelocated f id typeAnnotation typeAnnotation := by
  unfold typeAnnotation
  refine ReadsRelocated.currentKind.bind_same fun kind => ?_
  split
  · refine ReadsRelocated.advance.bind fun _ => ?_
    exact (ReadsRelocated.identifier _).bind_same fun _ => .pure rfl
  · exact .pure rfl

theorem initializerWithin_relocated (fixed : f 0 = 0) (fuel : Nat) :
    ReadsRelocated f (Option.map (Expr.relocated f)) (initializerWithin fuel)
      (initializerWithin fuel) := by
  unfold initializerWithin
  refine ReadsRelocated.currentKind.bind_same fun kind => ?_
  split
  · refine ReadsRelocated.advance.bind fun _ => ?_
    exact ((expressionsRelocated fixed fuel).expression _).bind fun value => .pure rfl
  · exact .pure rfl

theorem declarationWithin_relocated (fixed : f 0 = 0) (fuel : Nat) :
    ReadsRelocated f (Stmt.relocated f) (declarationWithin fuel) (declarationWithin fuel) := by
  unfold declarationWithin
  refine (ReadsRelocated.expect _).bind fun opening => ?_
  refine (ReadsRelocated.identifier _).bind_same fun name => ?_
  refine typeAnnotation_relocated.bind_same fun typeName => ?_
  refine (initializerWithin_relocated fixed fuel).bind fun value => ?_
  refine (ReadsRelocated.expect _).bind fun _ => ?_
  exact (ReadsRelocated.spanFrom fixed _).bind fun _ => .pure rfl

theorem resultWithin_relocated (fixed : f 0 = 0) (fuel : Nat) :
    ReadsRelocated f (Stmt.relocated f) (resultWithin fuel) (resultWithin fuel) := by
  unfold resultWithin
  refine (ReadsRelocated.expect _).bind fun opening => ?_
  refine ((expressionsRelocated fixed fuel).expression _).bind fun value => ?_
  refine (ReadsRelocated.expect _).bind fun _ => ?_
  exact (ReadsRelocated.spanFrom fixed _).bind fun _ => .pure rfl

theorem simpleStatementWithin_relocated (fixed : f 0 = 0) (fuel : Nat) :
    ReadsRelocated f (Stmt.relocated f) (simpleStatementWithin fuel)
      (simpleStatementWithin fuel) := by
  have expression := (expressionsRelocated fixed fuel).expression .default
  unfold simpleStatementWithin
  refine ReadsRelocated.offset.bind fun start => ?_
  refine expression.bind fun first => ?_
  refine ReadsRelocated.currentKind.bind_same fun kind => ?_
  split
  · refine ReadsRelocated.advance.bind fun _ => ?_
    refine expression.bind fun value => ?_
    refine (ReadsRelocated.expect _).bind fun _ => ?_
    exact (ReadsRelocated.spanFrom fixed start).bind fun _ => .pure rfl
  · refine (ReadsRelocated.expect _).bind fun _ => ?_
    exact (ReadsRelocated.spanFrom fixed start).bind fun _ => .pure rfl

structure StatementsRelocated (f : Nat → Nat) (fuel : Nat) : Prop where
  statement : ReadsRelocated f (Stmt.relocated f) (statementWithin fuel) (statementWithin fuel)
  block : ∀ closing, ReadsRelocated f (relocatedBlock f) (blockWithin fuel closing)
    (blockWithin fuel closing)
  switch : ReadsRelocated f (Stmt.relocated f) (switchWithin fuel) (switchWithin fuel)
  cases : ReadsRelocated f (relocatedCases f) (casesWithin fuel) (casesWithin fuel)
  conditional : ReadsRelocated f (Stmt.relocated f) (conditionalWithin fuel)
    (conditionalWithin fuel)
  alternative : ReadsRelocated f (relocatedBlock f) (alternativeWithin fuel)
    (alternativeWithin fuel)
  loop : ReadsRelocated f (Stmt.relocated f) (loopWithin fuel) (loopWithin fuel)

theorem statementsRelocated (fixed : f 0 = 0) (fuel : Nat) : StatementsRelocated f fuel := by
  induction fuel with
  | zero =>
      exact {
        statement := .unexpected
        block := fun _ => .unexpected
        switch := .unexpected
        cases := .unexpected
        conditional := .unexpected
        alternative := .unexpected
        loop := .unexpected }
  | succ fuel inductionHypothesis =>
      have expression := (expressionsRelocated fixed fuel).expression .default
      refine {
        statement := ?_, block := ?_, switch := ?_, cases := ?_, conditional := ?_,
        alternative := ?_, loop := ?_ }
      · rw [statementWithin]
        refine ReadsRelocated.currentKind.bind_same fun kind => ?_
        split
        · exact declarationWithin_relocated fixed fuel
        · exact inductionHypothesis.switch
        · exact inductionHypothesis.conditional
        · exact inductionHypothesis.loop
        · exact resultWithin_relocated fixed fuel
        · exact simpleStatementWithin_relocated fixed fuel
      · intro closing
        rw [blockWithin]
        refine ReadsRelocated.currentKind.bind_same fun kind => ?_
        split
        · exact .pure rfl
        · refine ReadsRelocated.hasTokens.bind_same fun left => ?_
          split
          · refine inductionHypothesis.statement.bind fun first => ?_
            exact (inductionHypothesis.block closing).bind fun others => .pure rfl
          · exact .complain _
      · rw [switchWithin]
        refine (ReadsRelocated.expect _).bind fun opening => ?_
        refine expression.bind fun condition => ?_
        refine inductionHypothesis.cases.bind fun cases => ?_
        refine (ReadsRelocated.expect _).bind fun _ => ?_
        exact (ReadsRelocated.spanFrom fixed _).bind fun _ => .pure rfl
      · rw [casesWithin]
        refine ReadsRelocated.currentKind.bind_same fun kind => ?_
        split
        · refine ReadsRelocated.advance.bind fun opening => ?_
          refine expression.bind fun value => ?_
          refine (ReadsRelocated.expect _).bind fun _ => ?_
          refine (inductionHypothesis.block _).bind fun body => ?_
          refine (ReadsRelocated.spanFrom fixed _).bind fun span => ?_
          exact inductionHypothesis.cases.bind fun others => .pure rfl
        · refine (ReadsRelocated.expect _).bind fun opening => ?_
          refine (inductionHypothesis.block _).bind fun body => ?_
          exact (ReadsRelocated.spanFrom fixed _).bind fun span => .pure rfl
      · rw [conditionalWithin]
        refine (ReadsRelocated.expect _).bind fun opening => ?_
        refine expression.bind fun condition => ?_
        refine (ReadsRelocated.expect _).bind fun _ => ?_
        refine (inductionHypothesis.block _).bind fun thenBlock => ?_
        refine inductionHypothesis.alternative.bind fun elseBlock => ?_
        refine (ReadsRelocated.expect _).bind fun _ => ?_
        exact (ReadsRelocated.spanFrom fixed _).bind fun _ => .pure rfl
      · rw [alternativeWithin]
        refine ReadsRelocated.currentKind.bind_same fun kind => ?_
        split
        · exact ReadsRelocated.advance.bind fun _ => inductionHypothesis.block _
        · exact .pure rfl
      · rw [loopWithin]
        refine (ReadsRelocated.expect _).bind fun opening => ?_
        refine expression.bind fun condition => ?_
        refine (ReadsRelocated.expect _).bind fun _ => ?_
        refine (inductionHypothesis.block _).bind fun body => ?_
        refine (ReadsRelocated.expect _).bind fun _ => ?_
        exact (ReadsRelocated.spanFrom fixed _).bind fun _ => .pure rfl

/-! ### Programs -/

theorem globalBodyWithin_relocated (fixed : f 0 = 0) (fuel : Nat) (opening : Token) :
    ReadsRelocated f (Prod.map id (Option.map (Expr.relocated f))) (globalBodyWithin fuel opening)
      (globalBodyWithin fuel (opening.relocated f)) := by
  have sameKind : (opening.relocated f).kind = opening.kind := rfl
  unfold globalBodyWithin
  rw [sameKind]
  split
  · refine (ReadsRelocated.expect _).bind fun _ => ?_
    refine (ReadsRelocated.identifier _).bind_same fun typeName => ?_
    refine (ReadsRelocated.expect _).bind fun _ => ?_
    exact (listWithin_relocated fixed fuel).bind fun value => .pure rfl
  · refine typeAnnotation_relocated.bind_same fun typeName => ?_
    exact (initializerWithin_relocated fixed fuel).bind fun value => .pure rfl
  · refine typeAnnotation_relocated.bind_same fun typeName => ?_
    refine (ReadsRelocated.expectOr _ _).bind fun _ => ?_
    exact ((expressionsRelocated fixed fuel).expression _).bind fun value => .pure rfl
  · exact .throw rfl

theorem globalWithin_relocated (fixed : f 0 = 0) (fuel : Nat) :
    ReadsRelocated f (GlobalDecl.relocated f) (globalWithin fuel) (globalWithin fuel) := by
  unfold globalWithin
  refine ReadsRelocated.advance.bind fun opening => ?_
  refine (ReadsRelocated.identifier _).bind_same fun name => ?_
  refine (globalBodyWithin_relocated fixed fuel opening).bind fun (typeName, value) => ?_
  refine (ReadsRelocated.expect _).bind fun _ => ?_
  exact (ReadsRelocated.spanFrom fixed _).bind fun _ => .pure rfl

theorem parameter_relocated : ReadsRelocated f id parameter parameter := by
  unfold parameter
  refine (ReadsRelocated.identifier _).bind_same fun name => ?_
  refine (ReadsRelocated.expect _).bind fun _ => ?_
  exact (ReadsRelocated.identifier _).bind_same fun typeName => .pure rfl

theorem moreParametersWithin_relocated (fuel : Nat) :
    ReadsRelocated f id (moreParametersWithin fuel) (moreParametersWithin fuel) := by
  induction fuel with
  | zero =>
      exact .unexpected
  | succ fuel inductionHypothesis =>
      rw [moreParametersWithin]
      refine ReadsRelocated.currentKind.bind_same fun kind => ?_
      split
      · refine ReadsRelocated.advance.bind fun _ => ?_
        refine parameter_relocated.bind_same fun first => ?_
        exact inductionHypothesis.bind_same fun others => .pure rfl
      · exact .pure rfl

theorem parametersWithin_relocated (fuel : Nat) :
    ReadsRelocated f id (parametersWithin fuel) (parametersWithin fuel) := by
  unfold parametersWithin
  refine ReadsRelocated.currentKind.bind_same fun kind => ?_
  split
  · exact .pure rfl
  · refine parameter_relocated.bind_same fun first => ?_
    exact (moreParametersWithin_relocated fuel).bind_same fun others => .pure rfl

theorem functionWithin_relocated (fixed : f 0 = 0) (fuel : Nat) :
    ReadsRelocated f (FunctionDecl.relocated f) (functionWithin fuel) (functionWithin fuel) := by
  unfold functionWithin
  refine (ReadsRelocated.expect _).bind fun opening => ?_
  refine (ReadsRelocated.identifier _).bind_same fun name => ?_
  refine (ReadsRelocated.expect _).bind fun _ => ?_
  refine (parametersWithin_relocated fuel).bind_same fun parameters => ?_
  refine (ReadsRelocated.expect _).bind fun _ => ?_
  refine typeAnnotation_relocated.bind_same fun returnTypeName => ?_
  refine (ReadsRelocated.expect _).bind fun _ => ?_
  refine ((statementsRelocated fixed fuel).block _).bind fun body => ?_
  refine (ReadsRelocated.expect _).bind fun _ => ?_
  exact (ReadsRelocated.spanFrom fixed _).bind fun _ => .pure rfl

theorem globalsWithin_relocated (fixed : f 0 = 0) (fuel : Nat) :
    ReadsRelocated f (List.map (GlobalDecl.relocated f)) (globalsWithin fuel)
      (globalsWithin fuel) := by
  induction fuel with
  | zero =>
      exact .unexpected
  | succ fuel inductionHypothesis =>
      rw [globalsWithin]
      refine ReadsRelocated.currentKind.bind_same fun kind => ?_
      split
      · refine (globalWithin_relocated fixed fuel).bind fun first => ?_
        exact inductionHypothesis.bind fun others => .pure rfl
      · exact .pure rfl

theorem functionsWithin_relocated (fixed : f 0 = 0) (fuel : Nat) :
    ReadsRelocated f (List.map (FunctionDecl.relocated f)) (functionsWithin fuel)
      (functionsWithin fuel) := by
  induction fuel with
  | zero =>
      exact .unexpected
  | succ fuel inductionHypothesis =>
      rw [functionsWithin]
      refine ReadsRelocated.currentKind.bind_same fun kind => ?_
      split
      · refine (functionWithin_relocated fixed fuel).bind fun first => ?_
        exact inductionHypothesis.bind fun others => .pure rfl
      · exact .pure rfl

theorem source_relocated (fixed : f 0 = 0) :
    ReadsRelocated f (Source.relocated f) source source := by
  refine .fuelled fun fuel => ?_
  unfold sourceWithin
  refine (globalsWithin_relocated fixed fuel).bind fun globals => ?_
  refine (functionsWithin_relocated fixed fuel).bind fun functions => ?_
  refine ReadsRelocated.hasTokens.bind_same fun left => ?_
  split
  · exact .unexpected
  · have atStart := ReadsRelocated.spanFrom fixed 0
    rw [fixed] at atStart
    exact atStart.bind fun span => .pure rfl

/-- From relocated tokens, the relocated program is read. -/
theorem ofTokens_source_relocated (fixed : f 0 = 0) (tokens : List Token) :
    ResultsAlike (FaultsAlike (Relocates f)) (fun tree tree' => tree' = tree.relocated f)
      (ofTokens source tokens) (ofTokens source (tokens.map (Token.relocated f))) := by
  unfold ofTokens
  rw [Cursor.ofTokens_relocated fixed, source_relocated fixed]
  cases source (Cursor.ofTokens tokens) with
  | ok tree after => exact .ok rfl
  | error fault after => exact .error (FaultsAlike.relocates_iff.mpr rfl)

end Parse
end ScriptLang
