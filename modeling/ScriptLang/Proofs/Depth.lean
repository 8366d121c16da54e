import ScriptLang.Proofs.Advances
import ScriptLang.Proofs.Unrolling

/-!
How deep reading goes.

Between two tokens that are passed, readers call each other only a few times.  So each token left
accounts for eight steps of reading, and a reader that is called without passing a token before is
lighter than the one that calls it.  When there are more steps than tokens account for, nothing
can tell what they stand on: reading ends before it gets there.
-/

namespace ScriptLang
namespace Parse

variable {α β : Type} {weight lighter bound : Nat}

/-- The readers are the same wherever the bound allows for eight steps for every token left, and for
the weight of the readers besides. -/
def Coincide (weight bound : Nat) (reader other : Parse α) : Prop :=
  ∀ c : Cursor, c.Closed → 8 * c.remaining + weight ≤ bound → reader c = other c

namespace Coincide

variable {reader other : Parse α} {next next' : α → Parse β}

theorem refl (reader : Parse α) : Coincide weight bound reader reader :=
  fun _ _ _ => rfl

/-- At a bound of zero there is no cursor to read at, for the last token is always left. -/
theorem zero : Coincide weight 0 reader other := by
  intro c _ enough
  unfold Cursor.remaining at enough
  omega

theorem step (inside : Coincide weight bound reader other) :
    Coincide (weight + 1) (bound + 1) reader other := by
  intro c closed enough
  exact inside c closed (by omega)

theorem mono (light : lighter ≤ weight) (coincide : Coincide lighter bound reader other) :
    Coincide weight bound reader other := by
  intro c closed enough
  exact coincide c closed (by omega)

theorem ite {condition : Prop} [Decidable condition] {no no' : Parse α}
    (whenTrue : Coincide weight bound reader other) (whenFalse : Coincide weight bound no no') :
    Coincide weight bound (if condition then reader else no)
      (if condition then other else no') := by
  split
  · exact whenTrue
  · exact whenFalse

theorem bind [travels : Travels other] (light : lighter ≤ weight)
    (first : Coincide lighter bound reader other)
    (second : ∀ value, Coincide weight bound (next value) (next' value)) :
    Coincide weight bound (reader >>= next) (other >>= next') := by
  intro c closed enough
  refine step_bind_congr_of_ok (first c closed (by omega)) ?_
  intro value d read
  obtain ⟨ts, moves⟩ := (travels.moves c).of_ok read
  have shorter := moves.remaining_le
  exact second value d (moves.closed closed) (by omega)

/-- Behind a reader that advances, the token passed accounts for eight steps more. -/
theorem after [advances : Advances other] (light : lighter ≤ weight)
    (first : Coincide lighter bound reader other)
    (second : ∀ value, Coincide (weight + 8) bound (next value) (next' value)) :
    Coincide weight bound (reader >>= next) (other >>= next') := by
  intro c closed enough
  refine step_bind_congr_of_ok (first c closed (by omega)) ?_
  intro value d read
  obtain ⟨ts, nonempty, moves⟩ := (advances.moves c closed).of_ok read
  have shorter := moves.remaining_lt nonempty
  exact second value d (moves.closed closed) (by omega)

theorem same [Travels reader]
    (second : ∀ value, Coincide weight bound (next value) (next' value)) :
    Coincide weight bound (reader >>= next) (reader >>= next') :=
  bind (Nat.zero_le weight) (refl reader) second

theorem expect {kind : Kind} (notEnd : kind ≠ .eof) {next next' : Token → Parse β}
    (second : ∀ token, Coincide (weight + 8) bound (next token) (next' token)) :
    Coincide weight bound (Parse.expect kind >>= next) (Parse.expect kind >>= next') :=
  have := expect_advances notEnd
  after (Nat.zero_le weight) (refl (Parse.expect kind)) second

theorem advance {next next' : Token → Parse β}
    (second : ∀ token, token.kind ≠ .eof →
      Coincide (weight + 8) bound (next token) (next' token))
    (atEnd : ∀ token, token.kind = .eof → next token = next' token) :
    Coincide weight bound (Parse.advance >>= next) (Parse.advance >>= next') := by
  intro c closed enough
  have passed : Parse.advance c = .ok c.current c.next := rfl
  rw [step_bind_of_ok passed, step_bind_of_ok passed]
  by_cases isEnd : c.current.kind = .eof
  · rw [atEnd c.current isEnd]
  · have moves := closed.moves_next isEnd
    have shorter := moves.remaining_lt (List.cons_ne_nil _ _)
    exact second c.current isEnd c.next (moves.closed closed) (by omega)

theorem optional {kind : Kind} (notEnd : kind ≠ .eof) {next next' : Token → Parse α}
    (present : ∀ token, Coincide (weight + 8) bound (next token) (next' token))
    (absent : Coincide weight bound reader other) :
    Coincide weight bound
      (currentKind >>= fun found => if found = kind then Parse.advance >>= next else reader)
      (currentKind >>= fun found => if found = kind then Parse.advance >>= next' else other) := by
  intro c closed enough
  have looked : currentKind c = .ok c.current.kind c := rfl
  rw [step_bind_of_ok looked, step_bind_of_ok looked]
  by_cases isKind : c.current.kind = kind
  · rw [if_pos isKind, if_pos isKind]
    have passed : Parse.advance c = .ok c.current c.next := rfl
    rw [step_bind_of_ok passed, step_bind_of_ok passed]
    have moves := closed.moves_next (isKind ▸ notEnd)
    have shorter := moves.remaining_lt (List.cons_ne_nil _ _)
    exact present c.current c.next (moves.closed closed) (by omega)
  · rw [if_neg isKind, if_neg isKind]
    exact absent c closed enough

end Coincide

namespace Readers

/-- Within the bound, the readers are those of the parser with the given fuel. -/
structure Settled (readers : Readers) (fuel bound : Nat) : Prop where
  expression : ∀ power,
    Coincide 3 bound (readers.expression power) (expressionWithin fuel power)
  operators : ∀ power left,
    Coincide 2 bound (readers.operators power left) (operatorsWithin fuel power left)
  binary : ∀ left power,
    Coincide 1 bound (readers.binary left power) (binaryWithin fuel left power)
  operand : Coincide 2 bound readers.operand (operandWithin fuel)
  symbol : Coincide 1 bound readers.symbol (symbolWithin fuel)
  group : Coincide 1 bound readers.group (groupWithin fuel)
  items : ∀ closing, Coincide 4 bound (readers.items closing) (itemsWithin fuel closing)
  moreItems : Coincide 1 bound readers.moreItems (moreItemsWithin fuel)
  statement : Coincide 4 bound readers.statement (statementWithin fuel)
  block : ∀ closing, Coincide 5 bound (readers.block closing) (blockWithin fuel closing)
  switch : Coincide 1 bound readers.switch (switchWithin fuel)
  cases : Coincide 1 bound readers.cases (casesWithin fuel)
  conditional : Coincide 1 bound readers.conditional (conditionalWithin fuel)
  alternative : Coincide 1 bound readers.alternative (alternativeWithin fuel)
  loop : Coincide 1 bound readers.loop (loopWithin fuel)
  moreParameters : Coincide 1 bound readers.moreParameters (moreParametersWithin fuel)
  globals : Coincide 1 bound readers.globals (globalsWithin fuel)
  functions : Coincide 1 bound readers.functions (functionsWithin fuel)

variable {readers : Readers} {fuel : Nat}

namespace Settled

variable (settled : readers.Settled fuel bound)

include settled

/-! ### Expressions -/

theorem expressionStep (power : Power) :
    Coincide 3 (bound + 1) (readers.expressionStep power) (expressionWithin (fuel + 1) power) := by
  rw [expressionWithin]
  refine .step (.after (by decide) settled.operand fun left => ?_)
  exact (settled.operators power left).mono (by decide)

theorem operatorsStep (power : Power) (left : Expr) :
    Coincide 2 (bound + 1) (readers.operatorsStep power left)
      (operatorsWithin (fuel + 1) power left) := by
  rw [operatorsWithin]
  refine .step (.same fun kind => .ite (.refl _) ?_)
  -- The operator is passed, so the loop goes on in front of fewer tokens.
  refine .after (by decide) (settled.binary left _) fun extended => ?_
  exact (settled.operators power extended).mono (by decide)

theorem binaryStep (left : Expr) (power : Power) :
    Coincide 1 (bound + 1) (readers.binaryStep left power)
      (binaryWithin (fuel + 1) left power) := by
  rw [binaryWithin]
  refine .step (.advance (fun token _ => ?_) fun token isEnd => ?_)
  · cases BinaryOp.ofKind? token.kind with
    | none => exact .refl _
    | some op => exact .bind (by decide) (settled.expression power) fun right => .refl _
  · rw [isEnd]
    rfl

theorem operandStep :
    Coincide 2 (bound + 1) readers.operandStep (operandWithin (fuel + 1)) := by
  rw [operandWithin]
  refine .step (.same fun kind => ?_)
  cases kind with
  | identifier => exact settled.symbol
  | openParen => exact settled.group
  | _ => exact .refl _

theorem symbolStep :
    Coincide 1 (bound + 1) readers.symbolStep (symbolWithin (fuel + 1)) := by
  rw [symbolWithin]
  refine .step (.expect (by decide) fun name => .same fun kind => ?_)
  cases kind with
  | openParen =>
      refine .same fun _ => ?_
      exact .bind (by decide) (settled.items .closeParen) fun arguments => .refl _
  | openBracket =>
      refine .same fun _ => ?_
      exact .bind (by decide) (settled.expression .default) fun index => .refl _
  | _ => exact .refl _

theorem groupStep :
    Coincide 1 (bound + 1) readers.groupStep (groupWithin (fuel + 1)) := by
  rw [groupWithin]
  refine .step (.expect (by decide) fun opening => ?_)
  exact .bind (by decide) (settled.expression .default) fun inner => .refl _

theorem itemsStep (closing : Kind) :
    Coincide 4 (bound + 1) (readers.itemsStep closing) (itemsWithin (fuel + 1) closing) := by
  rw [itemsWithin]
  refine .step (.same fun kind => .ite (.refl _) ?_)
  refine .after (by decide) (settled.expression .default) fun first => ?_
  exact .bind (by decide) settled.moreItems fun others => .refl _

theorem moreItemsStep :
    Coincide 1 (bound + 1) readers.moreItemsStep (moreItemsWithin (fuel + 1)) := by
  rw [moreItemsWithin]
  refine .step (.optional (by decide) (fun _ => ?_) (.refl _))
  refine .bind (by decide) (settled.expression .default) fun first => ?_
  exact .bind (by decide) settled.moreItems fun others => .refl _

theorem list : Coincide 0 bound readers.list (listWithin fuel) := by
  refine .expect (by decide) fun opening => ?_
  exact .bind (by decide) (settled.items .closeBracket) fun elements => .refl _

/-! ### Statements -/

theorem initializer : Coincide 0 bound readers.initializer (initializerWithin fuel) := by
  refine .optional (by decide) (fun _ => ?_) (.refl _)
  exact .bind (by decide) (settled.expression .default) fun value => .refl _

theorem declaration : Coincide 0 bound readers.declaration (declarationWithin fuel) := by
  refine .expect (by decide) fun first => .same fun name => .same fun typeName => ?_
  exact .bind (by decide) settled.initializer fun value => .refl _

theorem result : Coincide 0 bound readers.result (resultWithin fuel) := by
  refine .expect (by decide) fun first => ?_
  exact .bind (by decide) (settled.expression .default) fun value => .refl _

theorem simpleStatement :
    Coincide 3 bound readers.simpleStatement (simpleStatementWithin fuel) := by
  refine .same fun start => .bind (by decide) (settled.expression .default) fun first => ?_
  refine .optional (by decide) (fun _ => ?_) (.refl _)
  exact .bind (by decide) (settled.expression .default) fun value => .refl _

theorem statementStep :
    Coincide 4 (bound + 1) readers.statementStep (statementWithin (fuel + 1)) := by
  rw [statementWithin]
  refine .step (.same fun kind => ?_)
  cases kind with
  | letWord => exact settled.declaration.mono (by decide)
  | switchWord => exact settled.switch.mono (by decide)
  | ifWord => exact settled.conditional.mono (by decide)
  | whileWord => exact settled.loop.mono (by decide)
  | returnWord => exact settled.result.mono (by decide)
  | _ => exact settled.simpleStatement

theorem blockStep (closing : List Kind) :
    Coincide 5 (bound + 1) (readers.blockStep closing) (blockWithin (fuel + 1) closing) := by
  rw [blockWithin]
  refine .step (.same fun kind => .ite (.refl _) (.same fun more => .ite ?_ (.refl _)))
  refine .after (by decide) settled.statement fun first => ?_
  exact .bind (by decide) (settled.block closing) fun others => .refl _

theorem switchStep :
    Coincide 1 (bound + 1) readers.switchStep (switchWithin (fuel + 1)) := by
  rw [switchWithin]
  refine .step (.expect (by decide) fun first => ?_)
  refine .bind (by decide) (settled.expression .default) fun condition => ?_
  exact .bind (by decide) settled.cases fun cases => .refl _

theorem casesStep :
    Coincide 1 (bound + 1) readers.casesStep (casesWithin (fuel + 1)) := by
  rw [casesWithin]
  refine .step (.optional (by decide) (fun first => ?_) ?_)
  · refine .bind (by decide) (settled.expression .default) fun value => .same fun _ => ?_
    refine .bind (by decide) (settled.block _) fun body => .same fun span => ?_
    exact .bind (by decide) settled.cases fun others => .refl _
  · refine .expect (by decide) fun first => ?_
    exact .bind (by decide) (settled.block _) fun body => .refl _

theorem conditionalStep :
    Coincide 1 (bound + 1) readers.conditionalStep (conditionalWithin (fuel + 1)) := by
  rw [conditionalWithin]
  refine .step (.expect (by decide) fun first => ?_)
  refine .bind (by decide) (settled.expression .default) fun condition => .same fun _ => ?_
  refine .bind (by decide) (settled.block _) fun thenBlock => ?_
  exact .bind (by decide) settled.alternative fun elseBlock => .refl _

theorem alternativeStep :
    Coincide 1 (bound + 1) readers.alternativeStep (alternativeWithin (fuel + 1)) := by
  rw [alternativeWithin]
  refine .step (.optional (by decide) (fun _ => ?_) (.refl _))
  exact (settled.block _).mono (by decide)

theorem loopStep :
    Coincide 1 (bound + 1) readers.loopStep (loopWithin (fuel + 1)) := by
  rw [loopWithin]
  refine .step (.expect (by decide) fun first => ?_)
  refine .bind (by decide) (settled.expression .default) fun condition => .same fun _ => ?_
  exact .bind (by decide) (settled.block _) fun body => .refl _

/-! ### Declarations -/

theorem globalBody (opening : Token) :
    Coincide 3 bound (readers.globalBody opening) (globalBodyWithin fuel opening) := by
  unfold Readers.globalBody globalBodyWithin
  cases opening.kind with
  | listWord =>
      refine .same fun _ => .same fun typeName => .same fun _ => ?_
      exact .bind (by decide) settled.list fun value => .refl _
  | varWord =>
      refine .same fun typeName => ?_
      exact .bind (by decide) settled.initializer fun value => .refl _
  | valWord =>
      refine .same fun typeName => .same fun _ => ?_
      exact .bind (by decide) (settled.expression .default) fun value => .refl _
  | _ => exact .refl _

theorem global : Coincide 0 bound readers.global (globalWithin fuel) := by
  -- The first token may be the end of the source and stay the current one; the name is passed.
  refine .same fun opening => .after (Nat.zero_le _) (.refl (identifier _)) fun name => ?_
  exact .bind (by decide) (settled.globalBody opening) fun body => .refl _

theorem moreParametersStep :
    Coincide 1 (bound + 1) readers.moreParametersStep (moreParametersWithin (fuel + 1)) := by
  rw [moreParametersWithin]
  refine .step (.optional (by decide) (fun _ => .same fun first => ?_) (.refl _))
  exact .bind (by decide) settled.moreParameters fun others => .refl _

theorem parameters : Coincide 1 bound readers.parameters (parametersWithin fuel) := by
  refine .same fun kind => .ite (.refl _) (.same fun first => ?_)
  exact .bind (by decide) settled.moreParameters fun others => .refl _

theorem function : Coincide 0 bound readers.function (functionWithin fuel) := by
  refine .expect (by decide) fun first => .same fun name => .same fun _ => ?_
  refine .bind (by decide) settled.parameters fun parameters => ?_
  refine .same fun _ => .same fun returnTypeName => .same fun _ => ?_
  exact .bind (by decide) (settled.block _) fun body => .refl _

theorem globalsStep :
    Coincide 1 (bound + 1) readers.globalsStep (globalsWithin (fuel + 1)) := by
  rw [globalsWithin]
  refine .step (.same fun kind => .ite ?_ (.refl _))
  refine .after (by decide) settled.global fun first => ?_
  exact .bind (by decide) settled.globals fun others => .refl _

theorem functionsStep :
    Coincide 1 (bound + 1) readers.functionsStep (functionsWithin (fuel + 1)) := by
  rw [functionsWithin]
  refine .step (.same fun kind => .ite ?_ (.refl _))
  refine .after (by decide) settled.function fun first => ?_
  exact .bind (by decide) settled.functions fun others => .refl _

theorem source : Coincide 1 bound readers.source (sourceWithin fuel) := by
  refine .bind (by decide) settled.globals fun globals => ?_
  exact .bind (by decide) settled.functions fun functions => .refl _

theorem step : readers.step.Settled (fuel + 1) (bound + 1) where
  expression := settled.expressionStep
  operators := settled.operatorsStep
  binary := settled.binaryStep
  operand := settled.operandStep
  symbol := settled.symbolStep
  group := settled.groupStep
  items := settled.itemsStep
  moreItems := settled.moreItemsStep
  statement := settled.statementStep
  block := settled.blockStep
  switch := settled.switchStep
  cases := settled.casesStep
  conditional := settled.conditionalStep
  alternative := settled.alternativeStep
  loop := settled.loopStep
  moreParameters := settled.moreParametersStep
  globals := settled.globalsStep
  functions := settled.functionsStep

end Settled

/-- Readers on enough steps are those of the parser, whatever is below the steps.  By induction on
the bound, of which a step on both sides takes one. -/
theorem unrolled_settled (bottom : Readers) {depth bound : Nat} (deep : bound ≤ depth)
    (enough : bound ≤ fuel) : (bottom.unrolled depth).Settled fuel bound := by
  induction bound generalizing depth fuel with
  | zero =>
      constructor <;> intros <;> exact .zero
  | succ bound inductionHypothesis =>
      obtain ⟨depth, rfl⟩ := Nat.exists_eq_add_one.mpr (Nat.zero_lt_of_lt deep)
      obtain ⟨fuel, rfl⟩ := Nat.exists_eq_add_one.mpr (Nat.zero_lt_of_lt enough)
      have settled := inductionHypothesis (Nat.le_of_succ_le_succ deep)
        (Nat.le_of_succ_le_succ enough)
      exact settled.step

end Readers
end Parse
end ScriptLang
