import ScriptLang.Parse.Source
import ScriptLang.Proofs.Step

/-!
Where lists stand in a tree.

A program text has list literals as the initial values of its list declarations and nowhere
else.  An expression without one is called plain here.
-/

namespace ScriptLang

def Expr.isListLiteral : Expr → Bool
  | .list _ _ _ => true
  | _ => false

mutual

/-- An expression without a list literal. -/
def Expr.Plain : Expr → Prop
  | .literal _ _ _ => True
  | .group inner _ _ => inner.Plain
  | .binary _ left right _ _ => left.Plain ∧ right.Plain
  | .access _ _ _ _ => True
  | .element _ index _ _ _ => index.Plain
  | .call _ arguments _ _ _ => AllPlain arguments
  | .list _ _ _ => False

def AllPlain : List Expr → Prop
  | [] => True
  | first :: rest => first.Plain ∧ AllPlain rest

end

def OptionPlain (value : Option Expr) : Prop :=
  ∀ e, value = some e → e.Plain

mutual

def Stmt.Plain : Stmt → Prop
  | .expression value _ => value.Plain
  | .declaration _ _ value _ _ => OptionPlain value
  | .assignment receiver value _ => receiver.Plain ∧ value.Plain
  | .conditional condition thenBlock elseBlock _ =>
      condition.Plain ∧ BlockPlain thenBlock ∧ BlockPlain elseBlock
  | .switch condition cases _ => condition.Plain ∧ CasesPlain cases
  | .loop condition body _ => condition.Plain ∧ BlockPlain body
  | .result value _ => value.Plain

def BlockPlain : List Stmt → Prop
  | [] => True
  | first :: rest => first.Plain ∧ BlockPlain rest

def CasesPlain : List Case → Prop
  | [] => True
  | .mk value body _ :: rest => OptionPlain value ∧ BlockPlain body ∧ CasesPlain rest

end

/-- A list declaration has a type and a list literal of plain elements; the value of any other
global is plain, and a constant has one. -/
inductive GlobalDecl.Shaped (global : GlobalDecl) : Prop where
  | list (typeName : String) (elements : List Expr) (span : Span) (ty : Option Ty)
      (isList : global.isList = true) (named : global.typeName = some typeName)
      (initial : global.value = some (.list elements span ty)) (plain : AllPlain elements)
  | single (isSingle : global.isList = false) (plain : OptionPlain global.value)
      (initialised : global.mutable = false → global.value ≠ none)

structure Source.Shaped (source : Source) : Prop where
  globals : ∀ global ∈ source.globals, global.Shaped
  functions : ∀ function ∈ source.functions, BlockPlain function.body

namespace Parse

def Yields {α : Type} (reader : Parse α) (holds : α → Prop) : Prop :=
  ∀ cursor, Leads reader cursor (fun value _ => holds value) fun _ _ => True

namespace Yields

variable {α β : Type} {reader : Parse α} {holds : α → Prop} {next : α → Parse β}
  {later : β → Prop}

theorem anything (reader : Parse α) : Yields reader fun _ => True := by
  intro cursor
  unfold Leads
  cases reader cursor with
  | ok value after =>
      exact trivial
  | error fault after =>
      exact trivial

theorem pure {value : α} (valueHolds : holds value) :
    Yields (Pure.pure value) holds :=
  fun _ => valueHolds

theorem throw (fault : Fault) (holds : α → Prop) :
    Yields (MonadExcept.throw fault) holds :=
  fun _ => trivial

theorem bind (first : Yields reader holds)
    (second : ∀ value, holds value → Yields (next value) later) :
    Yields (reader >>= next) later :=
  fun cursor => (first cursor).bind fun value after valueHolds => second value valueHolds after

theorem after (reader : Parse α) (second : ∀ value, Yields (next value) later) :
    Yields (reader >>= next) later :=
  (anything reader).bind fun value _ => second value

theorem unexpected (holds : α → Prop) : Yields Parse.unexpected holds :=
  fun _ => trivial

theorem complain (detail : String) (holds : α → Prop) : Yields (Parse.complain detail) holds :=
  fun _ => trivial

end Yields

theorem primary_plain : Yields primary Expr.Plain := by
  unfold primary
  refine Yields.after _ fun token => ?_
  split
  · exact Yields.throw _ _
  · exact Yields.after _ fun _ => Yields.pure trivial

structure ExpressionsPlain (fuel : Nat) : Prop where
  expression : ∀ power, Yields (expressionWithin fuel power) Expr.Plain
  operators : ∀ power left, left.Plain → Yields (operatorsWithin fuel power left) Expr.Plain
  binary : ∀ left power, left.Plain → Yields (binaryWithin fuel left power) Expr.Plain
  operand : Yields (operandWithin fuel) Expr.Plain
  symbol : Yields (symbolWithin fuel) Expr.Plain
  group : Yields (groupWithin fuel) Expr.Plain
  items : ∀ closing, Yields (itemsWithin fuel closing) AllPlain
  moreItems : Yields (moreItemsWithin fuel) AllPlain

theorem expressionsPlain (fuel : Nat) : ExpressionsPlain fuel := by
  induction fuel with
  | zero =>
      exact {
        expression := fun _ => Yields.unexpected _
        operators := fun _ _ _ => Yields.unexpected _
        binary := fun _ _ _ => Yields.unexpected _
        operand := Yields.unexpected _
        symbol := Yields.unexpected _
        group := Yields.unexpected _
        items := fun _ => Yields.unexpected _
        moreItems := Yields.unexpected _ }
  | succ fuel inductionHypothesis =>
      refine {
        expression := ?_, operators := ?_, binary := ?_, operand := ?_, symbol := ?_,
        group := ?_, items := ?_, moreItems := ?_ }
      · intro power
        rw [expressionWithin]
        exact inductionHypothesis.operand.bind fun left leftPlain =>
          inductionHypothesis.operators power left leftPlain
      · intro power left leftPlain
        rw [operatorsWithin]
        refine Yields.after _ fun kind => ?_
        dsimp only
        split
        · exact Yields.pure leftPlain
        · exact (inductionHypothesis.binary left _ leftPlain).bind fun extended extendedPlain =>
            inductionHypothesis.operators power extended extendedPlain
      · intro left power leftPlain
        rw [binaryWithin]
        refine Yields.after _ fun token => ?_
        split
        · exact Yields.throw _ _
        · exact (inductionHypothesis.expression power).bind fun right rightPlain =>
            Yields.pure ⟨leftPlain, rightPlain⟩
      · rw [operandWithin]
        refine Yields.after _ fun kind => ?_
        split
        any_goals exact primary_plain
        · exact inductionHypothesis.symbol
        · exact inductionHypothesis.group
        · exact Yields.unexpected _
      · rw [symbolWithin]
        refine Yields.after _ fun name => Yields.after _ fun kind => ?_
        split
        · refine Yields.after _ fun _ => (inductionHypothesis.items _).bind ?_
          intro arguments argumentsPlain
          exact Yields.after _ fun _ => Yields.after _ fun _ => Yields.pure argumentsPlain
        · refine Yields.after _ fun _ => (inductionHypothesis.expression _).bind ?_
          intro index indexPlain
          exact Yields.after _ fun _ => Yields.after _ fun _ => Yields.pure indexPlain
        · exact Yields.pure trivial
      · rw [groupWithin]
        refine Yields.after _ fun _ => (inductionHypothesis.expression _).bind ?_
        intro inner innerPlain
        exact Yields.after _ fun _ => Yields.after _ fun _ => Yields.pure innerPlain
      · intro closing
        rw [itemsWithin]
        refine Yields.after _ fun kind => ?_
        split
        · exact Yields.pure trivial
        · exact (inductionHypothesis.expression _).bind fun first firstPlain =>
            inductionHypothesis.moreItems.bind fun others othersPlain =>
              Yields.pure ⟨firstPlain, othersPlain⟩
      · rw [moreItemsWithin]
        refine Yields.after _ fun kind => ?_
        split
        · exact Yields.after _ fun _ =>
            (inductionHypothesis.expression _).bind fun first firstPlain =>
              inductionHypothesis.moreItems.bind fun others othersPlain =>
                Yields.pure ⟨firstPlain, othersPlain⟩
        · exact Yields.pure trivial

theorem listWithin_shaped (fuel : Nat) :
    Yields (listWithin fuel) fun value =>
      ∃ elements span, value = .list elements span none ∧ AllPlain elements := by
  unfold listWithin
  refine Yields.after _ fun _ => ((expressionsPlain fuel).items _).bind ?_
  intro elements elementsPlain
  refine Yields.after _ fun _ => Yields.after _ fun span => Yields.pure ?_
  exact ⟨elements, span, rfl, elementsPlain⟩

theorem initializerWithin_plain (fuel : Nat) : Yields (initializerWithin fuel) OptionPlain := by
  unfold initializerWithin
  refine Yields.after _ fun kind => ?_
  split
  · refine Yields.after _ fun _ => ((expressionsPlain fuel).expression _).bind ?_
    intro value valuePlain
    refine Yields.pure ?_
    intro e same
    cases same
    exact valuePlain
  · refine Yields.pure ?_
    intro e impossible
    cases impossible

theorem declarationWithin_plain (fuel : Nat) : Yields (declarationWithin fuel) Stmt.Plain := by
  unfold declarationWithin
  refine Yields.after _ fun _ => Yields.after _ fun _ => Yields.after _ fun _ => ?_
  refine (initializerWithin_plain fuel).bind fun value valuePlain => ?_
  exact Yields.after _ fun _ => Yields.after _ fun _ => Yields.pure valuePlain

theorem resultWithin_plain (fuel : Nat) : Yields (resultWithin fuel) Stmt.Plain := by
  unfold resultWithin
  refine Yields.after _ fun _ => ((expressionsPlain fuel).expression _).bind ?_
  intro value valuePlain
  exact Yields.after _ fun _ => Yields.after _ fun _ => Yields.pure valuePlain

theorem simpleStatementWithin_plain (fuel : Nat) :
    Yields (simpleStatementWithin fuel) Stmt.Plain := by
  unfold simpleStatementWithin
  refine Yields.after _ fun _ => ((expressionsPlain fuel).expression _).bind ?_
  intro first firstPlain
  refine Yields.after _ fun kind => ?_
  split
  · refine Yields.after _ fun _ => ((expressionsPlain fuel).expression _).bind ?_
    intro value valuePlain
    exact Yields.after _ fun _ => Yields.after _ fun _ => Yields.pure ⟨firstPlain, valuePlain⟩
  · exact Yields.after _ fun _ => Yields.after _ fun _ => Yields.pure firstPlain

structure StatementsPlain (fuel : Nat) : Prop where
  statement : Yields (statementWithin fuel) Stmt.Plain
  block : ∀ closing, Yields (blockWithin fuel closing) BlockPlain
  switch : Yields (switchWithin fuel) Stmt.Plain
  cases : Yields (casesWithin fuel) CasesPlain
  conditional : Yields (conditionalWithin fuel) Stmt.Plain
  alternative : Yields (alternativeWithin fuel) BlockPlain
  loop : Yields (loopWithin fuel) Stmt.Plain

theorem statementsPlain (fuel : Nat) : StatementsPlain fuel := by
  induction fuel with
  | zero =>
      exact {
        statement := Yields.unexpected _
        block := fun _ => Yields.unexpected _
        switch := Yields.unexpected _
        cases := Yields.unexpected _
        conditional := Yields.unexpected _
        alternative := Yields.unexpected _
        loop := Yields.unexpected _ }
  | succ fuel inductionHypothesis =>
      have expression := (expressionsPlain fuel).expression .default
      refine {
        statement := ?_, block := ?_, switch := ?_, cases := ?_, conditional := ?_,
        alternative := ?_, loop := ?_ }
      · rw [statementWithin]
        refine Yields.after _ fun kind => ?_
        split
        · exact declarationWithin_plain fuel
        · exact inductionHypothesis.switch
        · exact inductionHypothesis.conditional
        · exact inductionHypothesis.loop
        · exact resultWithin_plain fuel
        · exact simpleStatementWithin_plain fuel
      · intro closing
        rw [blockWithin]
        refine Yields.after _ fun kind => ?_
        split
        · exact Yields.pure trivial
        · refine Yields.after _ fun left => ?_
          split
          · exact inductionHypothesis.statement.bind fun first firstPlain =>
              (inductionHypothesis.block closing).bind fun others othersPlain =>
                Yields.pure ⟨firstPlain, othersPlain⟩
          · exact Yields.complain _ _
      · rw [switchWithin]
        refine Yields.after _ fun _ => expression.bind fun condition conditionPlain => ?_
        refine inductionHypothesis.cases.bind fun cases casesPlain => ?_
        exact Yields.after _ fun _ => Yields.after _ fun _ =>
          Yields.pure ⟨conditionPlain, casesPlain⟩
      · rw [casesWithin]
        refine Yields.after _ fun kind => ?_
        split
        · refine Yields.after _ fun _ => expression.bind fun value valuePlain => ?_
          refine Yields.after _ fun _ => (inductionHypothesis.block _).bind ?_
          intro body bodyPlain
          refine Yields.after _ fun _ => inductionHypothesis.cases.bind ?_
          intro others othersPlain
          refine Yields.pure ⟨?_, bodyPlain, othersPlain⟩
          intro e same
          cases same
          exact valuePlain
        · refine Yields.after _ fun _ => (inductionHypothesis.block _).bind ?_
          intro body bodyPlain
          refine Yields.after _ fun _ => Yields.pure ⟨?_, bodyPlain, trivial⟩
          intro e impossible
          cases impossible
      · rw [conditionalWithin]
        refine Yields.after _ fun _ => expression.bind fun condition conditionPlain => ?_
        refine Yields.after _ fun _ => (inductionHypothesis.block _).bind ?_
        intro thenBlock thenPlain
        refine inductionHypothesis.alternative.bind fun elseBlock elsePlain => ?_
        exact Yields.after _ fun _ => Yields.after _ fun _ =>
          Yields.pure ⟨conditionPlain, thenPlain, elsePlain⟩
      · rw [alternativeWithin]
        refine Yields.after _ fun kind => ?_
        split
        · exact Yields.after _ fun _ => inductionHypothesis.block _
        · exact Yields.pure trivial
      · rw [loopWithin]
        refine Yields.after _ fun _ => expression.bind fun condition conditionPlain => ?_
        refine Yields.after _ fun _ => (inductionHypothesis.block _).bind ?_
        intro body bodyPlain
        exact Yields.after _ fun _ => Yields.after _ fun _ =>
          Yields.pure ⟨conditionPlain, bodyPlain⟩

/-! ### Programs -/

theorem globalBodyWithin_shaped (fuel : Nat) (opening : Token) :
    Yields (globalBodyWithin fuel opening) fun read =>
      (opening.kind = .listWord →
        ∃ typeName elements span, read = (some typeName, some (.list elements span none)) ∧
          AllPlain elements) ∧
      (opening.kind ≠ .listWord →
        OptionPlain read.2 ∧ (opening.kind = .valWord → read.2 ≠ none)) := by
  unfold globalBodyWithin
  split
  · rename_i kindEq
    refine Yields.after _ fun _ => Yields.after _ fun typeName => Yields.after _ fun _ => ?_
    refine (listWithin_shaped fuel).bind fun value shaped => ?_
    obtain ⟨elements, span, rfl, elementsPlain⟩ := shaped
    refine Yields.pure ⟨?_, ?_⟩
    · intro _
      exact ⟨typeName, elements, span, rfl, elementsPlain⟩
    · intro different
      exact absurd kindEq different
  · rename_i kindEq
    refine Yields.after _ fun _ => (initializerWithin_plain fuel).bind ?_
    intro value valuePlain
    refine Yields.pure ⟨?_, fun _ => ⟨valuePlain, ?_⟩⟩
    · intro isList
      rw [kindEq] at isList
      cases isList
    · intro isConstant
      rw [kindEq] at isConstant
      cases isConstant
  · rename_i kindEq
    refine Yields.after _ fun _ => Yields.after _ fun _ =>
      ((expressionsPlain fuel).expression _).bind ?_
    intro value valuePlain
    refine Yields.pure ⟨?_, ?_⟩
    · intro isList
      rw [kindEq] at isList
      cases isList
    · intro _
      refine ⟨?_, fun _ => Option.some_ne_none value⟩
      intro e same
      cases same
      exact valuePlain
  · exact Yields.throw _ _

theorem globalWithin_shaped (fuel : Nat) : Yields (globalWithin fuel) GlobalDecl.Shaped := by
  unfold globalWithin
  refine Yields.after _ fun opening => Yields.after _ fun name => ?_
  refine (globalBodyWithin_shaped fuel opening).bind fun read shaped => ?_
  refine Yields.after _ fun _ => Yields.after _ fun span => Yields.pure ?_
  by_cases isList : opening.kind = .listWord
  · obtain ⟨typeName, elements, listSpan, rfl, elementsPlain⟩ := shaped.1 isList
    exact .list typeName elements listSpan none (by simp [isList]) rfl rfl elementsPlain
  · obtain ⟨valuePlain, initialised⟩ := shaped.2 isList
    refine .single (by simp [isList]) valuePlain ?_
    intro isConstant
    exact initialised (by simpa using isConstant)

theorem functionWithin_plain (fuel : Nat) :
    Yields (functionWithin fuel) fun function => BlockPlain function.body := by
  unfold functionWithin
  refine Yields.after _ fun _ => Yields.after _ fun _ => Yields.after _ fun _ =>
    Yields.after _ fun _ => Yields.after _ fun _ => Yields.after _ fun _ =>
      Yields.after _ fun _ => ?_
  refine ((statementsPlain fuel).block _).bind fun body bodyPlain => ?_
  exact Yields.after _ fun _ => Yields.after _ fun _ => Yields.pure bodyPlain

theorem globalsWithin_shaped (fuel : Nat) :
    Yields (globalsWithin fuel) fun globals => ∀ global ∈ globals, global.Shaped := by
  induction fuel with
  | zero =>
      exact Yields.unexpected _
  | succ fuel inductionHypothesis =>
      rw [globalsWithin]
      refine Yields.after _ fun kind => ?_
      split
      · refine (globalWithin_shaped fuel).bind fun first firstShaped => ?_
        refine inductionHypothesis.bind fun others othersShaped => Yields.pure ?_
        exact List.forall_mem_cons.mpr ⟨firstShaped, othersShaped⟩
      · exact Yields.pure (List.forall_mem_nil _)

theorem functionsWithin_yields {holds : FunctionDecl → Prop}
    (each : ∀ fuel, Yields (functionWithin fuel) holds) (fuel : Nat) :
    Yields (functionsWithin fuel) fun functions => ∀ function ∈ functions, holds function := by
  induction fuel with
  | zero =>
      exact Yields.unexpected _
  | succ fuel inductionHypothesis =>
      rw [functionsWithin]
      refine Yields.after _ fun kind => ?_
      split
      · refine (each fuel).bind fun first firstHolds => ?_
        refine inductionHypothesis.bind fun others othersHold => Yields.pure ?_
        exact List.forall_mem_cons.mpr ⟨firstHolds, othersHold⟩
      · exact Yields.pure (List.forall_mem_nil _)

theorem sourceWithin_shaped (fuel : Nat) : Yields (sourceWithin fuel) Source.Shaped := by
  unfold sourceWithin
  refine (globalsWithin_shaped fuel).bind fun globals globalsShaped => ?_
  refine (functionsWithin_yields functionWithin_plain fuel).bind fun functions functionsPlain => ?_
  refine Yields.after _ fun left => ?_
  split
  · exact Yields.unexpected _
  · exact Yields.after _ fun span => Yields.pure ⟨globalsShaped, functionsPlain⟩

theorem source_shaped : Yields source Source.Shaped := by
  unfold source fuelled
  exact Yields.after _ fun cursor => sourceWithin_shaped _

end Parse

theorem Source.holds_of_parse {text : String} {source : Source} {holds : Source → Prop}
    (yields : Parse.Yields Parse.source holds) (parsed : Source.parse text = .ok source) :
    holds source := by
  unfold Source.parse at parsed
  obtain ⟨tokens, _, read⟩ := bind_eq_ok.mp parsed
  unfold Parse.ofTokens at read
  cases result : Parse.source (Cursor.ofTokens tokens) with
  | ok value after =>
      rw [result] at read
      cases read
      exact (yields _).of_ok result
  | error fault after =>
      rw [result] at read
      cases read

/-- The tree of a program text has list literals only where a list is declared. -/
theorem Source.shaped_of_parse {text : String} {source : Source}
    (parsed : Source.parse text = .ok source) : source.Shaped :=
  Source.holds_of_parse Parse.source_shaped parsed

end ScriptLang
