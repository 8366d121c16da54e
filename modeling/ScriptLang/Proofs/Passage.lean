import ScriptLang.Parse.Source
import ScriptLang.Proofs.Step

/-!
Passing tokens.

A reader passes the tokens in front of its cursor one after the other, and never goes back:
whether it ends well or not, the cursor behind it has passed some tokens more than the cursor
in front of it.
-/

namespace ScriptLang

namespace Cursor

def rest (c : Cursor) : List Token :=
  c.current :: c.ahead

/-- The second cursor is behind the given tokens, where the first one is in front of them. -/
structure Moves (c : Cursor) (tokens : List Token) (d : Cursor) : Prop where
  passed : d.passed = tokens.reverse ++ c.passed
  rest : c.rest = tokens ++ d.rest

/-- The last token is an end of source. -/
def Closed (c : Cursor) : Prop :=
  ∃ before last, c.rest = before ++ [last] ∧ last.kind = .eof

theorem closed_of_append {c : Cursor} {front before : List Token} {last : Token}
    (tokensEq : front ++ c.rest = before ++ [last]) (isEnd : last.kind = .eof) : c.Closed := by
  have nonempty : c.rest ≠ [] := List.cons_ne_nil _ _
  obtain ⟨inner, final, finalEq⟩ := List.eq_nil_or_concat c.rest |>.resolve_left nonempty
  rw [finalEq, List.concat_eq_append, ← List.append_assoc] at tokensEq
  have same := (List.append_inj' tokensEq rfl).2
  cases same
  exact ⟨inner, last, by rw [finalEq, List.concat_eq_append], isEnd⟩

theorem remaining_eq (c : Cursor) : c.remaining = c.rest.length :=
  rfl

namespace Moves

variable {c d e : Cursor} {ts us : List Token}

theorem refl (c : Cursor) : c.Moves [] c :=
  ⟨rfl, rfl⟩

theorem trans (first : c.Moves ts d) (second : d.Moves us e) : c.Moves (ts ++ us) e := by
  constructor
  · rw [second.passed, first.passed, List.reverse_append, List.append_assoc]
  · rw [first.rest, second.rest, List.append_assoc]

theorem remaining (moves : c.Moves ts d) : ts.length + d.remaining = c.remaining := by
  rw [remaining_eq, remaining_eq, moves.rest, List.length_append]

theorem remaining_le (moves : c.Moves ts d) : d.remaining ≤ c.remaining := by
  have total := moves.remaining
  omega

theorem remaining_lt (moves : c.Moves ts d) (nonempty : ts ≠ []) :
    d.remaining < c.remaining := by
  have total := moves.remaining
  have positive := List.length_pos_iff.mpr nonempty
  omega

theorem closed (moves : c.Moves ts d) (closed : c.Closed) : d.Closed := by
  obtain ⟨before, last, restEq, isEnd⟩ := closed
  rw [moves.rest] at restEq
  exact closed_of_append restEq isEnd

end Moves

theorem moves_next {c : Cursor} (more : c.ahead ≠ []) : c.Moves [c.current] c.next := by
  obtain ⟨passed, current, ahead⟩ := c
  cases ahead with
  | nil =>
      exact absurd rfl more
  | cons token ahead =>
      exact ⟨rfl, rfl⟩

theorem Closed.moves_next {c : Cursor} (closed : c.Closed) (notEnd : c.current.kind ≠ .eof) :
    c.Moves [c.current] c.next := by
  apply Cursor.moves_next
  intro none
  obtain ⟨before, last, restEq, isEnd⟩ := closed
  unfold rest at restEq
  rw [none, ← List.nil_append [c.current]] at restEq
  have same := (List.append_inj' restEq rfl).2
  cases same
  exact notEnd isEnd

end Cursor

namespace Parse

variable {α β : Type}

/-- Readers look at their cursor, pass tokens, take constants, complain about tokens, and go on as
the values that they read say. -/
class inductive Composed : {α : Type} → Parse α → Prop where
  | pure {α : Type} (value : α) : Composed (Pure.pure value : Parse α)
  | get : Composed (MonadState.get : Parse Cursor)
  | advance : Composed Parse.advance
  | primary : Composed Parse.primary
  | unexpected {α : Type} (token : Token) :
      Composed (MonadExcept.throw (unexpectedFault token) : Parse α)
  | detailed {α : Type} (value detail : String) (offset : Nat) :
      Composed (Parse.fail (.unexpectedTokenDetailed value detail) offset : Parse α)
  | bind {α β : Type} {reader : Parse α} {next : α → Parse β} (first : Composed reader)
      (second : ∀ value, Composed (next value)) : Composed (reader >>= next)

attribute [instance] Composed.pure Composed.get Composed.advance Composed.primary
  Composed.unexpected Composed.detailed

namespace Composed

instance sequence {reader : Parse α} {next : α → Parse β} [first : Composed reader]
    [second : ∀ value, Composed (next value)] : Composed (reader >>= next) :=
  .bind first second

instance ite {condition : Prop} [Decidable condition] {yes no : Parse α} [first : Composed yes]
    [second : Composed no] : Composed (if condition then yes else no) := by
  split
  · exact first
  · exact second

end Composed

instance : Composed currentToken := by unfold currentToken; infer_instance

instance : Composed currentKind := by unfold currentKind; infer_instance

instance : Composed offset := by unfold offset; infer_instance

instance : Composed previousEnd := by unfold previousEnd; infer_instance

instance : Composed hasTokens := by unfold hasTokens; infer_instance

instance : Composed (unexpected : Parse α) := by unfold unexpected; infer_instance

instance (detail : String) : Composed (complain detail : Parse α) := by
  unfold complain; infer_instance

instance (kind : Kind) (detail : String) : Composed (expectOr kind detail) := by
  unfold expectOr; infer_instance

instance (kind : Kind) : Composed (expect kind) := by unfold expect; infer_instance

instance (context : String) : Composed (identifier context) := by
  unfold identifier; infer_instance

instance (start : Nat) : Composed (spanFrom start) := by unfold spanFrom; infer_instance

def symbolRest (fuel : Nat) (name : Token) : Parse Expr := do
  match ← currentKind with
  | .openParen =>
      let _ ← advance
      let arguments ← itemsWithin fuel .closeParen
      let _ ← expect .closeParen
      return .call name.value arguments (← spanFrom name.span.start) none none
  | .openBracket =>
      let _ ← advance
      let index ← expressionWithin fuel .default
      let _ ← expect .closeBracket
      return .element name.value index (← spanFrom name.span.start) none none
  | _ => return .access name.value name.span none none

theorem symbolWithin_succ (fuel : Nat) :
    symbolWithin (fuel + 1) = expect .identifier >>= symbolRest fuel := by
  rw [symbolWithin]
  rfl

/-! ### All readers are composed -/

structure ExpressionsComposed (fuel : Nat) : Prop where
  expression : ∀ power, Composed (expressionWithin fuel power)
  operators : ∀ power left, Composed (operatorsWithin fuel power left)
  binary : ∀ left power, Composed (binaryWithin fuel left power)
  operand : Composed (operandWithin fuel)
  symbol : Composed (symbolWithin fuel)
  group : Composed (groupWithin fuel)
  items : ∀ closing, Composed (itemsWithin fuel closing)
  moreItems : Composed (moreItemsWithin fuel)

theorem expressionsComposed (fuel : Nat) : ExpressionsComposed fuel := by
  induction fuel with
  | zero =>
      constructor
      · intro power; rw [expressionWithin]; infer_instance
      · intro power left; rw [operatorsWithin]; infer_instance
      · intro left power; rw [binaryWithin]; infer_instance
      · rw [operandWithin]; infer_instance
      · rw [symbolWithin]; infer_instance
      · rw [groupWithin]; infer_instance
      · intro closing; rw [itemsWithin]; infer_instance
      · rw [moreItemsWithin]; infer_instance
  | succ fuel inductionHypothesis =>
      obtain ⟨expression, operators, binary, operand, symbol, group, items, moreItems⟩ :=
        inductionHypothesis
      constructor
      · intro power; rw [expressionWithin]; infer_instance
      · intro power left; rw [operatorsWithin]; infer_instance
      · intro left power
        rw [binaryWithin]
        refine Composed.bind inferInstance fun token => ?_
        split <;> infer_instance
      · rw [operandWithin]
        refine Composed.bind inferInstance fun kind => ?_
        split <;> infer_instance
      · rw [symbolWithin_succ]
        refine Composed.bind inferInstance fun name => ?_
        unfold symbolRest
        refine Composed.bind inferInstance fun kind => ?_
        split <;> infer_instance
      · rw [groupWithin]; infer_instance
      · intro closing; rw [itemsWithin]; infer_instance
      · rw [moreItemsWithin]; infer_instance

instance (fuel : Nat) (power : Power) : Composed (expressionWithin fuel power) :=
  (expressionsComposed fuel).expression power

instance (fuel : Nat) (power : Power) (left : Expr) :
    Composed (operatorsWithin fuel power left) :=
  (expressionsComposed fuel).operators power left

instance (fuel : Nat) (left : Expr) (power : Power) : Composed (binaryWithin fuel left power) :=
  (expressionsComposed fuel).binary left power

instance (fuel : Nat) : Composed (operandWithin fuel) :=
  (expressionsComposed fuel).operand

instance (fuel : Nat) : Composed (symbolWithin fuel) :=
  (expressionsComposed fuel).symbol

instance (fuel : Nat) (name : Token) : Composed (symbolRest fuel name) := by
  have readsItems := (expressionsComposed fuel).items
  unfold symbolRest
  refine Composed.bind inferInstance fun kind => ?_
  split <;> infer_instance

instance (fuel : Nat) : Composed (groupWithin fuel) :=
  (expressionsComposed fuel).group

instance (fuel : Nat) (closing : Kind) : Composed (itemsWithin fuel closing) :=
  (expressionsComposed fuel).items closing

instance (fuel : Nat) : Composed (moreItemsWithin fuel) :=
  (expressionsComposed fuel).moreItems

instance (fuel : Nat) : Composed (listWithin fuel) := by unfold listWithin; infer_instance

instance : Composed typeAnnotation := by unfold typeAnnotation; infer_instance

instance (fuel : Nat) : Composed (initializerWithin fuel) := by
  unfold initializerWithin; infer_instance

instance (fuel : Nat) : Composed (declarationWithin fuel) := by
  unfold declarationWithin; infer_instance

instance (fuel : Nat) : Composed (resultWithin fuel) := by unfold resultWithin; infer_instance

instance (fuel : Nat) : Composed (simpleStatementWithin fuel) := by
  unfold simpleStatementWithin; infer_instance

structure StatementsComposed (fuel : Nat) : Prop where
  statement : Composed (statementWithin fuel)
  block : ∀ closing, Composed (blockWithin fuel closing)
  switch : Composed (switchWithin fuel)
  cases : Composed (casesWithin fuel)
  conditional : Composed (conditionalWithin fuel)
  alternative : Composed (alternativeWithin fuel)
  loop : Composed (loopWithin fuel)

theorem statementsComposed (fuel : Nat) : StatementsComposed fuel := by
  induction fuel with
  | zero =>
      constructor
      · rw [statementWithin]; infer_instance
      · intro closing; rw [blockWithin]; infer_instance
      · rw [switchWithin]; infer_instance
      · rw [casesWithin]; infer_instance
      · rw [conditionalWithin]; infer_instance
      · rw [alternativeWithin]; infer_instance
      · rw [loopWithin]; infer_instance
  | succ fuel inductionHypothesis =>
      obtain ⟨statement, block, switch, cases, conditional, alternative, loop⟩ :=
        inductionHypothesis
      constructor
      · rw [statementWithin]
        refine Composed.bind inferInstance fun kind => ?_
        split <;> infer_instance
      · intro closing; rw [blockWithin]; infer_instance
      · rw [switchWithin]; infer_instance
      · rw [casesWithin]; infer_instance
      · rw [conditionalWithin]; infer_instance
      · rw [alternativeWithin]; infer_instance
      · rw [loopWithin]; infer_instance

instance (fuel : Nat) : Composed (statementWithin fuel) :=
  (statementsComposed fuel).statement

instance (fuel : Nat) (closing : List Kind) : Composed (blockWithin fuel closing) :=
  (statementsComposed fuel).block closing

instance (fuel : Nat) : Composed (switchWithin fuel) :=
  (statementsComposed fuel).switch

instance (fuel : Nat) : Composed (casesWithin fuel) :=
  (statementsComposed fuel).cases

instance (fuel : Nat) : Composed (conditionalWithin fuel) :=
  (statementsComposed fuel).conditional

instance (fuel : Nat) : Composed (alternativeWithin fuel) :=
  (statementsComposed fuel).alternative

instance (fuel : Nat) : Composed (loopWithin fuel) :=
  (statementsComposed fuel).loop

instance (fuel : Nat) (opening : Token) : Composed (globalBodyWithin fuel opening) := by
  unfold globalBodyWithin
  split <;> infer_instance

instance (fuel : Nat) : Composed (globalWithin fuel) := by unfold globalWithin; infer_instance

instance : Composed parameter := by unfold parameter; infer_instance

instance (fuel : Nat) : Composed (moreParametersWithin fuel) := by
  induction fuel with
  | zero => rw [moreParametersWithin]; infer_instance
  | succ fuel inductionHypothesis => rw [moreParametersWithin]; infer_instance

instance (fuel : Nat) : Composed (parametersWithin fuel) := by
  unfold parametersWithin; infer_instance

set_option synthInstance.maxSize 256 in
instance (fuel : Nat) : Composed (functionWithin fuel) := by
  unfold functionWithin
  infer_instance

instance (fuel : Nat) : Composed (globalsWithin fuel) := by
  induction fuel with
  | zero => rw [globalsWithin]; infer_instance
  | succ fuel inductionHypothesis => rw [globalsWithin]; infer_instance

instance (fuel : Nat) : Composed (functionsWithin fuel) := by
  induction fuel with
  | zero => rw [functionsWithin]; infer_instance
  | succ fuel inductionHypothesis => rw [functionsWithin]; infer_instance

instance (fuel : Nat) : Composed (sourceWithin fuel) := by unfold sourceWithin; infer_instance

/-! ### All readers move forward -/

/-- The reader moves every cursor forward, if it moves it at all. -/
class Travels (reader : Parse α) : Prop where
  moves : ∀ c, Leads reader c (fun _ d => ∃ ts, c.Moves ts d) fun _ d => ∃ ts, c.Moves ts d

theorem advance_travels (c : Cursor) :
    Leads advance c (fun _ d => ∃ ts, c.Moves ts d) fun _ d => ∃ ts, c.Moves ts d := by
  change ∃ ts, c.Moves ts c.next
  by_cases more : c.ahead = []
  · refine ⟨[], ?_⟩
    unfold Cursor.next
    rw [more]
    exact .refl c
  · exact ⟨_, Cursor.moves_next more⟩

instance {reader : Parse α} [composed : Composed reader] : Travels reader where
  moves c := by
    induction composed generalizing c with
    | pure | get | unexpected | detailed => exact ⟨[], .refl c⟩
    | advance => exact advance_travels c
    | primary =>
        unfold primary
        refine Leads.bind (show Leads currentToken c (fun _ d => d = c) _ from rfl) ?_
        rintro token _ rfl
        split
        · exact ⟨[], .refl _⟩
        · exact (advance_travels _).bind fun _ _ moves => moves
    | bind _ _ first second =>
        apply Leads.bind (first c)
        rintro value d ⟨ts, moves⟩
        apply (second value d).imp
        · rintro _ e ⟨us, later⟩
          exact ⟨ts ++ us, moves.trans later⟩
        · rintro _ e ⟨us, later⟩
          exact ⟨ts ++ us, moves.trans later⟩

end Parse
end ScriptLang
