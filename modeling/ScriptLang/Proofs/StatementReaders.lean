import ScriptLang.Proofs.ExpressionReaders

/-!
What the readers of statements, declarations and programs read.
-/

namespace ScriptLang
namespace Parse

open Grammar

/-! ### Statements -/

theorem typeAnnotation_reads {c : Cursor} (closed : c.Closed) :
    ReadsAs .typeMark typeAnnotation c fun typeName ts _ => TypeMarkSpelled typeName ts := by
  unfold typeAnnotation
  apply ReadsAs.peek
  split
  · rename_i isColon
    apply ReadsAs.present
    refine .next (advance_reads closed isColon (by decide)) ?_
    rintro colon _ d colonMoves ⟨rfl, isColon⟩
    apply ReadsAs.last
    apply ReadsAs.map (identifier_reads (colonMoves.closed closed))
    rintro _ _ e _ ⟨name, rfl, isName, rfl⟩
    exact .some isColon isName
  · exact .absent .none

theorem initializer_reads {fuel : Nat} {c : Cursor} (closed : c.Closed)
    (enough : 8 * c.remaining ≤ fuel) :
    ReadsAs .initializer (initializerWithin fuel) c fun value ts _ =>
      Spelled (.initializer value) ts := by
  unfold initializerWithin
  apply ReadsAs.peek
  split
  · rename_i isEquals
    apply ReadsAs.present
    refine .next (advance_reads closed isEquals (by decide)) ?_
    rintro equals _ d moves ⟨rfl, isEquals⟩
    have total := moves.remaining
    rw [List.length_singleton] at total
    apply ReadsAs.last
    apply ReadsAs.map ((expressionsRead fuel).value (moves.closed closed) (by omega))
    intro value ts e _ spelled
    exact .initializer isEquals spelled
  · exact .absent .noInitializer

theorem statement_derives {option : Phrase} {kinds : List Kind}
    (member : option ∈
      [.sequence [.token .letWord, .token .identifier, .typeMark, .initializer,
          .token .semicolon],
        .sequence [.token .switchWord, .symbol .expression, .many .case, .token .defaultWord,
          .symbol .block, .token .endWord],
        .sequence [.token .ifWord, .symbol .expression, .token .doWord, .symbol .block,
          .optional (.sequence [.token .elseWord, .symbol .block]), .token .endWord],
        .sequence [.token .whileWord, .symbol .expression, .token .doWord, .symbol .block,
          .token .endWord],
        .sequence [.token .returnWord, .symbol .expression, .token .semicolon],
        .sequence [.symbol .expression, .initializer, .token .semicolon]])
    (derives : Derives option kinds) : Derives (.symbol .statement) kinds :=
  .symbol (.choice member derives)

theorem declaration_reads {fuel : Nat} {c : Cursor} (closed : c.Closed)
    (enough : 8 * c.remaining ≤ fuel) :
    ReadsAs (.symbol .statement) (declarationWithin fuel) c fun s ts _ =>
      Spelled (.statement s) ts := by
  unfold declarationWithin
  apply ReadsAs.imp _ fun _ derives => statement_derives (.head _) derives
  refine .next (expect_reads closed (by decide)) ?_
  rintro word _ d wordMoves ⟨rfl, isWord⟩
  have dClosed := wordMoves.closed closed
  have dShorter := wordMoves.remaining_le
  refine .next (identifier_reads dClosed) ?_
  rintro _ _ e nameMoves ⟨name, rfl, isName, rfl⟩
  have eClosed := nameMoves.closed dClosed
  have eShorter := nameMoves.remaining_le
  refine .next (typeAnnotation_reads eClosed) ?_
  intro typeName ts f markMoves typeMark
  have fClosed := markMoves.closed eClosed
  have fShorter := markMoves.remaining_le
  refine .next (initializer_reads fClosed (by omega)) ?_
  intro value us g initialMoves initial
  refine .next (expect_reads (initialMoves.closed fClosed) (by decide)) ?_
  rintro semicolon _ h endMoves ⟨rfl, ends⟩
  refine .covered (wordMoves.trans (nameMoves.trans (markMoves.trans
    (initialMoves.trans endMoves)))) ?_
  have spelled := Spelled.declaration isWord isName typeMark initial ends
  exact spelled

theorem result_reads {fuel : Nat} {c : Cursor} (closed : c.Closed)
    (enough : 8 * c.remaining ≤ fuel) :
    ReadsAs (.symbol .statement) (resultWithin fuel) c fun s ts _ =>
      Spelled (.statement s) ts := by
  unfold resultWithin
  apply ReadsAs.imp _ fun _ derives =>
    statement_derives (.tail _ (.tail _ (.tail _ (.tail _ (.head _))))) derives
  refine .next (expect_reads closed (by decide)) ?_
  rintro word _ d wordMoves ⟨rfl, isWord⟩
  have dClosed := wordMoves.closed closed
  have total := wordMoves.remaining
  rw [List.length_singleton] at total
  refine .next ((expressionsRead fuel).value dClosed (by omega)) ?_
  intro value ts e valueMoves spelled
  refine .next (expect_reads (valueMoves.closed dClosed) (by decide)) ?_
  rintro semicolon _ f endMoves ⟨rfl, ends⟩
  refine .covered (wordMoves.trans (valueMoves.trans endMoves)) ?_
  have spelled := Spelled.result isWord spelled ends
  exact spelled

theorem simpleStatement_reads {fuel : Nat} {c : Cursor} (closed : c.Closed)
    (enough : 8 * c.remaining + 3 ≤ fuel) :
    ReadsAs (.symbol .statement) (simpleStatementWithin fuel) c fun s ts _ =>
      Spelled (.statement s) ts := by
  unfold simpleStatementWithin
  change ReadsAs _ (expressionWithin fuel .default >>= fun first => _) c _
  apply ReadsAs.imp _ fun _ derives =>
    statement_derives (.tail _ (.tail _ (.tail _ (.tail _ (.tail _ (.head _)))))) derives
  have read := expressionsRead fuel
  refine .next (read.value closed enough) ?_
  intro first ts d firstMoves firstSpelled
  have dClosed := firstMoves.closed closed
  have dShorter := firstMoves.remaining_lt firstSpelled.expression_ne_nil
  obtain ⟨start, ts, rfl⟩ := List.exists_cons_of_ne_nil firstSpelled.expression_ne_nil
  -- The statement starts where its first expression does.
  have startEq : c.current = start := (List.cons.inj firstMoves.rest).1
  apply ReadsAs.peek
  unfold Cursor.offset
  rw [startEq]
  split
  · rename_i isEquals
    apply ReadsAs.imp _ fun _ derives =>
      Derives.present_append [.token .assignment, .symbol .expression] [.token .semicolon] derives
    refine .next (advance_reads dClosed isEquals (by decide)) ?_
    rintro equals _ e equalsMoves ⟨rfl, isEquals⟩
    have eClosed := equalsMoves.closed dClosed
    have eShorter := equalsMoves.remaining_le
    refine .next (read.value eClosed (by omega)) ?_
    intro value us f valueMoves valueSpelled
    refine .next (expect_reads (valueMoves.closed eClosed) (by decide)) ?_
    rintro semicolon _ g endMoves ⟨rfl, ends⟩
    refine .covered (firstMoves.trans (equalsMoves.trans (valueMoves.trans endMoves))) ?_
    have spelled := Spelled.assignment firstSpelled isEquals valueSpelled ends
    exact spelled
  · apply ReadsAs.skip .absent
    refine .next (expect_reads dClosed (by decide)) ?_
    rintro semicolon _ e endMoves ⟨rfl, ends⟩
    refine .covered (firstMoves.trans endMoves) ?_
    have spelled := Spelled.expressionStatement firstSpelled ends
    exact spelled

/-! ### Blocks and what is made of them -/

structure StatementsRead (fuel : Nat) : Prop where
  statement : ∀ c : Cursor, c.Closed → 8 * c.remaining + 4 ≤ fuel →
    ReadsAs (.symbol .statement) (statementWithin fuel) c fun s ts _ =>
      Spelled (.statement s) ts
  block : ∀ (c : Cursor) (closing : List Kind), c.Closed → 8 * c.remaining + 5 ≤ fuel →
    ReadsAs (.many (.symbol .statement)) (blockWithin fuel closing) c fun b ts _ =>
      Spelled (.block b) ts
  switch : ∀ c : Cursor, c.Closed → 8 * c.remaining + 1 ≤ fuel →
    ReadsAs (.symbol .statement) (switchWithin fuel) c fun s ts _ => Spelled (.statement s) ts
  cases : ∀ c : Cursor, c.Closed → 8 * c.remaining + 1 ≤ fuel →
    ReadsAs (.sequence [.many .case, .token .defaultWord, .symbol .block]) (casesWithin fuel) c
      fun cs ts _ => Spelled (.cases cs) ts
  conditional : ∀ c : Cursor, c.Closed → 8 * c.remaining + 1 ≤ fuel →
    ReadsAs (.symbol .statement) (conditionalWithin fuel) c fun s ts _ =>
      Spelled (.statement s) ts
  alternative : ∀ c : Cursor, c.Closed → 8 * c.remaining + 1 ≤ fuel →
    ReadsAs (.optional (.sequence [.token .elseWord, .symbol .block])) (alternativeWithin fuel)
      c fun b ts _ => Spelled (.alternative b) ts
  loop : ∀ c : Cursor, c.Closed → 8 * c.remaining + 1 ≤ fuel →
    ReadsAs (.symbol .statement) (loopWithin fuel) c fun s ts _ => Spelled (.statement s) ts

section

variable {fuel : Nat} {c : Cursor}

theorem statement_reads (read : StatementsRead fuel) (closed : c.Closed)
    (enough : 8 * c.remaining + 4 ≤ fuel + 1) :
    ReadsAs (.symbol .statement) (statementWithin (fuel + 1)) c fun s ts _ =>
      Spelled (.statement s) ts := by
  rw [statementWithin]
  apply ReadsAs.peek
  split
  · exact declaration_reads closed (by omega)
  · exact read.switch c closed (by omega)
  · exact read.conditional c closed (by omega)
  · exact read.loop c closed (by omega)
  · exact result_reads closed (by omega)
  · exact simpleStatement_reads closed (by omega)

theorem block_reads (read : StatementsRead fuel) {closing : List Kind} (closed : c.Closed)
    (enough : 8 * c.remaining + 5 ≤ fuel + 1) :
    ReadsAs (.many (.symbol .statement)) (blockWithin (fuel + 1) closing) c fun b ts _ =>
      Spelled (.block b) ts := by
  rw [blockWithin]
  apply ReadsAs.peek
  split
  · exact .none .noStatements
  change ReadsAs _ (if (c.current.kind != .eof) = true then _ else complain _) c _
  split
  · refine .again (read.statement c closed (by omega)) ?_
    intro first ts d firstMoves firstSpelled
    have shorter := firstMoves.remaining_lt firstSpelled.statement_ne_nil
    apply ReadsAs.map (read.block d closing (firstMoves.closed closed) (by omega))
    intro others us e _ othersSpelled
    exact .statements firstSpelled othersSpelled
  · exact ⟨rfl, [], .refl c, fun _ => .nil _⟩

theorem StatementsRead.body (read : StatementsRead fuel) {closing : List Kind}
    (closed : c.Closed) (enough : 8 * c.remaining + 5 ≤ fuel) :
    ReadsAs (.symbol .block) (blockWithin fuel closing) c fun b ts _ => Spelled (.block b) ts :=
  ReadsAs.symbol (read.block c closing closed enough)

theorem loop_reads (read : StatementsRead fuel) (closed : c.Closed)
    (enough : 8 * c.remaining + 1 ≤ fuel + 1) :
    ReadsAs (.symbol .statement) (loopWithin (fuel + 1)) c fun s ts _ =>
      Spelled (.statement s) ts := by
  rw [loopWithin]
  apply ReadsAs.imp _ fun _ derives =>
    statement_derives (.tail _ (.tail _ (.tail _ (.head _)))) derives
  refine .next (expect_reads closed (by decide)) ?_
  rintro word _ d wordMoves ⟨rfl, isWord⟩
  have dClosed := wordMoves.closed closed
  have total := wordMoves.remaining
  rw [List.length_singleton] at total
  refine .next ((expressionsRead fuel).value dClosed (by omega)) ?_
  intro condition ts e testMoves test
  have eClosed := testMoves.closed dClosed
  have eShorter := testMoves.remaining_le
  refine .next (expect_reads eClosed (by decide)) ?_
  rintro doWord _ f doMoves ⟨rfl, isDo⟩
  have fClosed := doMoves.closed eClosed
  have fShorter := doMoves.remaining_le
  refine .next (read.body fClosed (by omega)) ?_
  intro body us g bodyMoves bodySpelled
  refine .next (expect_reads (bodyMoves.closed fClosed) (by decide)) ?_
  rintro endWord _ h endMoves ⟨rfl, isEnd⟩
  refine .covered (wordMoves.trans (testMoves.trans (doMoves.trans
    (bodyMoves.trans endMoves)))) ?_
  have spelled := Spelled.loop isWord test isDo bodySpelled isEnd
  exact spelled

theorem alternative_reads (read : StatementsRead fuel) (closed : c.Closed)
    (enough : 8 * c.remaining + 1 ≤ fuel + 1) :
    ReadsAs (.optional (.sequence [.token .elseWord, .symbol .block]))
      (alternativeWithin (fuel + 1)) c fun b ts _ => Spelled (.alternative b) ts := by
  rw [alternativeWithin]
  apply ReadsAs.peek
  split
  · rename_i isWord
    apply ReadsAs.present
    refine .next (advance_reads closed isWord (by decide)) ?_
    rintro word _ d wordMoves ⟨rfl, isWord⟩
    have total := wordMoves.remaining
    rw [List.length_singleton] at total
    apply ReadsAs.last
    apply (read.body (wordMoves.closed closed) (by omega)).weaken
    intro body ts e bodySpelled
    exact .alternative isWord bodySpelled
  · exact .absent .noAlternative

theorem conditional_reads (read : StatementsRead fuel) (closed : c.Closed)
    (enough : 8 * c.remaining + 1 ≤ fuel + 1) :
    ReadsAs (.symbol .statement) (conditionalWithin (fuel + 1)) c fun s ts _ =>
      Spelled (.statement s) ts := by
  rw [conditionalWithin]
  apply ReadsAs.imp _ fun _ derives => statement_derives (.tail _ (.tail _ (.head _))) derives
  refine .next (expect_reads closed (by decide)) ?_
  rintro word _ d wordMoves ⟨rfl, isWord⟩
  have dClosed := wordMoves.closed closed
  have total := wordMoves.remaining
  rw [List.length_singleton] at total
  refine .next ((expressionsRead fuel).value dClosed (by omega)) ?_
  intro condition ts e testMoves test
  have eClosed := testMoves.closed dClosed
  have eShorter := testMoves.remaining_le
  refine .next (expect_reads eClosed (by decide)) ?_
  rintro doWord _ f doMoves ⟨rfl, isDo⟩
  have fClosed := doMoves.closed eClosed
  have fShorter := doMoves.remaining_le
  refine .next (read.body fClosed (by omega)) ?_
  intro thenBlock us g thenMoves thenSpelled
  have gClosed := thenMoves.closed fClosed
  have gShorter := thenMoves.remaining_le
  refine .next (read.alternative g gClosed (by omega)) ?_
  intro elseBlock vs h elseMoves elseSpelled
  refine .next (expect_reads (elseMoves.closed gClosed) (by decide)) ?_
  rintro endWord _ i endMoves ⟨rfl, isEnd⟩
  refine .covered (wordMoves.trans (testMoves.trans (doMoves.trans (thenMoves.trans
    (elseMoves.trans endMoves))))) ?_
  have spelled := Spelled.conditional isWord test isDo thenSpelled elseSpelled isEnd
  exact spelled

theorem switch_reads (read : StatementsRead fuel) (closed : c.Closed)
    (enough : 8 * c.remaining + 1 ≤ fuel + 1) :
    ReadsAs (.symbol .statement) (switchWithin (fuel + 1)) c fun s ts _ =>
      Spelled (.statement s) ts := by
  rw [switchWithin]
  apply ReadsAs.imp _ fun _ derives => statement_derives (.tail _ (.head _)) derives
  refine .next (expect_reads closed (by decide)) ?_
  rintro word _ d wordMoves ⟨rfl, isWord⟩
  have dClosed := wordMoves.closed closed
  have total := wordMoves.remaining
  rw [List.length_singleton] at total
  refine .next ((expressionsRead fuel).value dClosed (by omega)) ?_
  intro condition ts e testMoves test
  have eClosed := testMoves.closed dClosed
  have eShorter := testMoves.remaining_le
  refine ReadsAs.append (read.cases e eClosed (by omega)) ?_
  intro cases us f casesMoves casesSpelled
  refine .next (expect_reads (casesMoves.closed eClosed) (by decide)) ?_
  rintro endWord _ g endMoves ⟨rfl, isEnd⟩
  refine .covered (wordMoves.trans (testMoves.trans (casesMoves.trans endMoves))) ?_
  have spelled := Spelled.switch isWord test casesSpelled isEnd
  exact spelled

theorem cases_reads (read : StatementsRead fuel) (closed : c.Closed)
    (enough : 8 * c.remaining + 1 ≤ fuel + 1) :
    ReadsAs (.sequence [.many .case, .token .defaultWord, .symbol .block])
      (casesWithin (fuel + 1)) c fun cs ts _ => Spelled (.cases cs) ts := by
  rw [casesWithin]
  apply ReadsAs.peek
  split
  · rename_i isWord
    apply ReadsAs.imp _ fun _ derives =>
      Derives.again_append [.token .caseWord, .symbol .expression, .token .colon, .symbol .block]
        [.token .defaultWord, .symbol .block] derives
    refine .next (advance_reads closed isWord (by decide)) ?_
    rintro word _ d wordMoves ⟨rfl, isWord⟩
    have dClosed := wordMoves.closed closed
    have total := wordMoves.remaining
    rw [List.length_singleton] at total
    refine .next ((expressionsRead fuel).value dClosed (by omega)) ?_
    intro value ts e valueMoves valueSpelled
    have eClosed := valueMoves.closed dClosed
    have eShorter := valueMoves.remaining_le
    refine .next (expect_reads eClosed (by decide)) ?_
    rintro colon _ f colonMoves ⟨rfl, isColon⟩
    have fClosed := colonMoves.closed eClosed
    have fShorter := colonMoves.remaining_le
    refine .next (read.body fClosed (by omega)) ?_
    intro body us g bodyMoves bodySpelled
    have gClosed := bodyMoves.closed fClosed
    have gShorter := bodyMoves.remaining_le
    have spanEq := (wordMoves.trans (valueMoves.trans (colonMoves.trans bodyMoves))).cover_eq
    change ReadsAs _ (casesWithin fuel >>= fun others => pure
      (Case.mk (some value) body { start := word.span.start, stop := g.previousEnd } :: others))
      g _
    rw [← spanEq]
    apply ReadsAs.map (read.cases g gClosed (by omega))
    intro others vs h _ othersSpelled
    have spelled := Spelled.case isWord valueSpelled isColon bodySpelled othersSpelled
    simp only [List.append_assoc, List.cons_append] at spelled
    exact spelled
  · apply ReadsAs.skip .none
    refine .next (expect_reads closed (by decide)) ?_
    rintro word _ d wordMoves ⟨rfl, isWord⟩
    have dClosed := wordMoves.closed closed
    have total := wordMoves.remaining
    rw [List.length_singleton] at total
    refine .next (read.body dClosed (by omega)) ?_
    intro body ts e bodyMoves bodySpelled
    refine .covered (wordMoves.trans bodyMoves) ?_
    rw [List.append_nil]
    have spelled := Spelled.defaultCase isWord bodySpelled
    exact spelled

end

theorem statementsRead (fuel : Nat) : StatementsRead fuel := by
  induction fuel with
  | zero =>
      constructor
      all_goals
        intros
        omega
  | succ fuel inductionHypothesis =>
      exact {
        statement := fun _ => statement_reads inductionHypothesis
        block := fun _ _ => block_reads inductionHypothesis
        switch := fun _ => switch_reads inductionHypothesis
        cases := fun _ => cases_reads inductionHypothesis
        conditional := fun _ => conditional_reads inductionHypothesis
        alternative := fun _ => alternative_reads inductionHypothesis
        loop := fun _ => loop_reads inductionHypothesis }

end Parse
end ScriptLang
