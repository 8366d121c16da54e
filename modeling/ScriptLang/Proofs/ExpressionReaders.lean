import ScriptLang.Proofs.Reads

/-!
What the readers of expressions read.

In front of tokens that end in an end of source, every reader of expressions reads its symbol of
the grammar, as the tree that the tokens passed spell.  The four levels of the grammar are the
four ranks of operators.
-/

namespace ScriptLang

open Grammar

/-! ### Levels of operators -/

/-- The symbol for expressions whose operators all bind tighter than the bound. -/
def Grammar.Symbol.level : Nat → Symbol
  | 0 => .logical
  | 1 => .comparison
  | 2 => .additive
  | 3 => .multiplicative
  | _ => .primary

namespace Grammar.Derives

variable {kinds more : List Kind}

theorem level_down {bound : Nat} (derives : Derives (.symbol (.level (bound + 1))) kinds) :
    Derives (.symbol (.level bound)) kinds := by
  match bound, derives with
  | 0, derives => exact .symbol (.choice (.tail _ (.head _)) derives)
  | 1, derives => exact .symbol (.choice (.tail _ (.head _)) derives)
  | 2, derives => exact .symbol (.choice (.tail _ (.head _)) derives)
  | 3, derives => exact .symbol (.choice (.tail _ (.head _)) derives)
  | _ + 4, derives => exact derives

theorem level_mono {bound smaller : Nat} (derives : Derives (.symbol (.level bound)) kinds)
    (le : smaller ≤ bound) : Derives (.symbol (.level smaller)) kinds := by
  induction le with
  | refl => exact derives
  | step _ inductionHypothesis => exact inductionHypothesis derives.level_down

/-- An operator stands between operands that bind at least as tightly on its left, and more
tightly on its right. -/
theorem level_binary {kind : Kind} {op : BinaryOp} (isOp : BinaryOp.ofKind? kind = some op)
    (left : Derives (.symbol (.level (op.rank - 1))) kinds)
    (right : Derives (.symbol (.level op.rank)) more) :
    Derives (.symbol (.level (op.rank - 1))) (kinds ++ kind :: more) := by
  have three {this tighter : Symbol} {operator : Phrase}
      (ruleEq : this.rule = .level this tighter operator)
      (isOperator : Derives operator [kind]) (left : Derives (.symbol this) kinds)
      (right : Derives (.symbol tighter) more) :
      Derives (.symbol this) (kinds ++ kind :: more) := by
    have parts := Derives.next left (.next isOperator (.next right .done))
    rw [List.append_nil] at parts
    apply Derives.symbol
    rw [ruleEq]
    exact .choice List.mem_cons_self parts
  cases kind with
  | and => cases isOp; exact three rfl (.choice (.head _) (.token _)) left right
  | or => cases isOp; exact three rfl (.choice (.tail _ (.head _)) (.token _)) left right
  | less => cases isOp; exact three rfl (.choice (.head _) (.token _)) left right
  | greater => cases isOp; exact three rfl (.choice (.tail _ (.head _)) (.token _)) left right
  | equals =>
      cases isOp
      exact three rfl (.choice (.tail _ (.tail _ (.head _))) (.token _)) left right
  | notEquals =>
      cases isOp
      exact three rfl (.choice (.tail _ (.tail _ (.tail _ (.head _)))) (.token _)) left right
  | plus => cases isOp; exact three rfl (.choice (.head _) (.token _)) left right
  | dash => cases isOp; exact three rfl (.choice (.tail _ (.head _)) (.token _)) left right
  | star => cases isOp; exact three rfl (.choice (.head _) (.token _)) left right
  | slash => cases isOp; exact three rfl (.choice (.tail _ (.head _)) (.token _)) left right
  | caret =>
      cases isOp
      exact three rfl (.choice (.tail _ (.tail _ (.head _))) (.token _)) left right
  | _ => cases isOp

end Grammar.Derives

namespace Parse

/-! ### Expressions -/

def nextRank (c : Cursor) : Nat :=
  (Power.ofKind c.current.kind).rank

structure ExpressionsRead (fuel : Nat) : Prop where
  expression : ∀ (c : Cursor) (power : Power), c.Closed → 8 * c.remaining + 3 ≤ fuel →
    ReadsAs (.symbol (.level power.rank)) (expressionWithin fuel power) c fun e ts d =>
      Spelled (.expression power.rank e) ts ∧ nextRank d ≤ power.rank
  operators : ∀ (c : Cursor) (power : Power) (left : Expr) (before : List Token),
    c.Closed → 8 * c.remaining + 2 ≤ fuel →
    Derives (.symbol (.level (max power.rank (nextRank c - 1)))) (before.map Token.kind) →
    Spelled (.expression (max power.rank (nextRank c - 1)) left) before →
    Reads (operatorsWithin fuel power left) c
      (fun e ts d => Derives (.symbol (.level power.rank)) ((before ++ ts).map Token.kind) ∧
        Spelled (.expression power.rank e) (before ++ ts) ∧ nextRank d ≤ power.rank)
      fun ts => Viable (.symbol (.level power.rank)) ((before ++ ts).map Token.kind)
  binary : ∀ (c : Cursor) (power : Power) (op : BinaryOp) (left : Expr)
    (before : List Token), c.Closed → 8 * c.remaining + 1 ≤ fuel →
    BinaryOp.ofKind? c.current.kind = some op → power.rank = op.rank →
    Derives (.symbol (.level (op.rank - 1))) (before.map Token.kind) →
    Spelled (.expression (op.rank - 1) left) before →
    Reads (binaryWithin fuel left power) c
      (fun e ts d => ts ≠ [] ∧
        Derives (.symbol (.level (op.rank - 1))) ((before ++ ts).map Token.kind) ∧
        Spelled (.expression (op.rank - 1) e) (before ++ ts) ∧ nextRank d ≤ op.rank)
      fun ts => Viable (.symbol (.level (op.rank - 1))) ((before ++ ts).map Token.kind)
  operand : ∀ c : Cursor, c.Closed → 8 * c.remaining + 2 ≤ fuel →
    ReadsAs (.symbol .primary) (operandWithin fuel) c fun e ts _ =>
      ∀ bound, Spelled (.expression bound e) ts
  symbol : ∀ c : Cursor, c.Closed → 8 * c.remaining + 1 ≤ fuel →
    ReadsAs (.symbol .primary) (symbolWithin fuel) c fun e ts _ =>
      ∀ bound, Spelled (.expression bound e) ts
  group : ∀ c : Cursor, c.Closed → 8 * c.remaining + 1 ≤ fuel →
    ReadsAs (.symbol .primary) (groupWithin fuel) c fun e ts _ =>
      ∀ bound, Spelled (.expression bound e) ts
  items : ∀ (c : Cursor) (closing : Kind), c.Closed → 8 * c.remaining + 4 ≤ fuel →
    ReadsAs (.separated (.symbol .expression)) (itemsWithin fuel closing) c fun es ts _ =>
      Spelled (.items es) ts
  moreItems : ∀ c : Cursor, c.Closed → 8 * c.remaining + 1 ≤ fuel →
    ReadsAs (.many (.sequence [.token .comma, .symbol .expression])) (moreItemsWithin fuel) c
      fun es ts _ => Spelled (.moreItems es) ts

theorem ExpressionsRead.value {fuel : Nat} (read : ExpressionsRead fuel) {c : Cursor}
    (closed : c.Closed) (enough : 8 * c.remaining + 3 ≤ fuel) :
    ReadsAs (.symbol .expression) (expressionWithin fuel .default) c fun e ts _ =>
      Spelled (.expression 0 e) ts :=
  ReadsAs.symbol ((read.expression c .default closed enough).weaken fun _ _ _ holds => holds.1)

theorem primary_derives {option : Phrase} {kinds : List Kind}
    (member : option ∈
      [.token .trueWord, .token .falseWord, .token .nilWord, .token .integer, .token .decimal,
        .token .character, .token .string,
        .sequence [.token .openParen, .symbol .expression, .token .closeParen],
        .sequence [.token .identifier,
          .optional (.sequence [.token .openBracket, .symbol .expression,
            .token .closeBracket])],
        .sequence [.token .identifier, .token .openParen, .separated (.symbol .expression),
          .token .closeParen]])
    (derives : Derives option kinds) : Derives (.symbol .primary) kinds :=
  .symbol (.choice member derives)

theorem constant_derives {kind : Kind} (isLiteral : isConstant kind = true) :
    Derives (.symbol .primary) [kind] := by
  apply primary_derives _ (.token kind)
  cases kind with
  | trueWord | falseWord | nilWord | integer | decimal | character | string => simp
  | _ => cases isLiteral

theorem primary_reads {c : Cursor} (closed : c.Closed)
    (isLiteral : isConstant c.current.kind = true) :
    ReadsAs (.symbol .primary) primary c fun e ts _ =>
      ∀ bound, Spelled (.expression bound e) ts := by
  unfold primary
  apply ReadsAs.peekToken
  split
  · rename_i fault result
    apply Reads.failure (offset_of_literalOf result)
    intro wellFormed
    obtain ⟨value, valueEq⟩ := literalOf_of_wellFormed isLiteral wellFormed
    rw [valueEq] at result
    cases result
  · rename_i value result
    exact ⟨[c.current], closed.moves_next (not_eof_of_isConstant isLiteral),
      constant_derives isLiteral, fun bound => .literal result⟩

theorem call_reads {fuel : Nat} (read : ExpressionsRead fuel) {name : Token} {c d : Cursor}
    (isName : name.kind = .identifier) (nameMoves : c.Moves [name] d) (closed : d.Closed)
    (opens : d.current.kind = .openParen) (enough : 8 * d.remaining ≤ fuel) :
    ReadsAs
      (.sequence [.token .openParen, .separated (.symbol .expression), .token .closeParen])
      (do
        let _ ← advance
        let arguments ← itemsWithin fuel .closeParen
        let _ ← expect .closeParen
        return Expr.call name.value arguments (← spanFrom name.span.start) none none) d
      fun e ts _ => ∀ bound, Spelled (.expression bound e) (name :: ts) := by
  refine .next (advance_reads closed opens (by decide)) ?_
  rintro opening _ e openMoves ⟨rfl, opens⟩
  have eClosed := openMoves.closed closed
  have total := openMoves.remaining
  rw [List.length_singleton] at total
  refine .next (read.items e .closeParen eClosed (by omega)) ?_
  intro arguments ts f innerMoves inner
  refine .next (expect_reads (innerMoves.closed eClosed) (by decide)) ?_
  rintro closing _ g closeMoves ⟨rfl, closes⟩
  refine .covered (nameMoves.trans (openMoves.trans (innerMoves.trans closeMoves))) ?_
  intro bound
  have spelled := @Spelled.call bound _ _ _ _ _ isName opens closes inner
  exact spelled

theorem element_reads {fuel : Nat} (read : ExpressionsRead fuel) {name : Token} {c d : Cursor}
    (isName : name.kind = .identifier) (nameMoves : c.Moves [name] d) (closed : d.Closed)
    (opens : d.current.kind = .openBracket) (enough : 8 * d.remaining ≤ fuel) :
    ReadsAs (.sequence [.token .openBracket, .symbol .expression, .token .closeBracket])
      (do
        let _ ← advance
        let index ← expressionWithin fuel .default
        let _ ← expect .closeBracket
        return Expr.element name.value index (← spanFrom name.span.start) none none) d
      fun e ts _ => ∀ bound, Spelled (.expression bound e) (name :: ts) := by
  refine .next (advance_reads closed opens (by decide)) ?_
  rintro opening _ e openMoves ⟨rfl, opens⟩
  have eClosed := openMoves.closed closed
  have total := openMoves.remaining
  rw [List.length_singleton] at total
  refine .next (read.value eClosed (by omega)) ?_
  intro index ts f innerMoves inner
  refine .next (expect_reads (innerMoves.closed eClosed) (by decide)) ?_
  rintro closing _ g closeMoves ⟨rfl, closes⟩
  refine .covered (nameMoves.trans (openMoves.trans (innerMoves.trans closeMoves))) ?_
  intro bound
  have spelled := @Spelled.element bound _ _ _ _ _ isName opens closes inner
  exact spelled

theorem symbol_reads {fuel : Nat} (read : ExpressionsRead fuel) {c : Cursor}
    (closed : c.Closed) (enough : 8 * c.remaining + 1 ≤ fuel + 1) :
    ReadsAs (.symbol .primary) (symbolWithin (fuel + 1)) c fun e ts _ =>
      ∀ bound, Spelled (.expression bound e) ts := by
  rw [symbolWithin_succ]
  apply Reads.bind (expect_reads closed (by decide))
  · intro ts viable
    exact (viable.first [.optional (.sequence [.token .openBracket, .symbol .expression,
      .token .closeBracket])]).imp fun _ derives => primary_derives (by simp) derives
  rintro name ts d nameMoves ⟨nameDerives, rfl, isName⟩
  have dClosed := nameMoves.closed closed
  have shorter := nameMoves.remaining_le
  unfold symbolRest
  apply Reads.peek
  split
  · rename_i opens
    exact (call_reads read isName nameMoves dClosed opens (by omega)).behind [name]
      fun kinds derives => primary_derives (by simp) (.next nameDerives derives)
  · rename_i opens
    refine (element_reads read isName nameMoves dClosed opens (by omega)).behind [name]
      fun kinds derives => ?_
    have optional := Derives.present_append
      [.token .openBracket, .symbol .expression, .token .closeBracket] [] derives
    exact primary_derives (by simp) (.next nameDerives optional)
  · have nothing :
        Derives
          (.sequence [.optional (.sequence [.token .openBracket, .symbol .expression,
            .token .closeBracket])]) [] :=
      .skip .absent .done
    exact Reads.pure ⟨primary_derives (by simp) (.next nameDerives nothing),
      fun bound => .access isName⟩

theorem group_reads {fuel : Nat} (read : ExpressionsRead fuel) {c : Cursor}
    (closed : c.Closed) (enough : 8 * c.remaining + 1 ≤ fuel + 1) :
    ReadsAs (.symbol .primary) (groupWithin (fuel + 1)) c fun e ts _ =>
      ∀ bound, Spelled (.expression bound e) ts := by
  rw [groupWithin]
  have reads :
      ReadsAs (.sequence [.token .openParen, .symbol .expression, .token .closeParen])
        (do
          let opening ← expect .openParen
          let inner ← expressionWithin fuel .default
          let _ ← expect .closeParen
          return Expr.group inner (← spanFrom opening.span.start) none) c
        fun e ts _ => ∀ bound, Spelled (.expression bound e) ts := by
    refine .next (expect_reads closed (by decide)) ?_
    rintro opening _ d openMoves ⟨rfl, opens⟩
    have dClosed := openMoves.closed closed
    have total := openMoves.remaining
    rw [List.length_singleton] at total
    refine .next (read.value dClosed (by omega)) ?_
    intro inner ts e innerMoves spelled
    refine .next (expect_reads (innerMoves.closed dClosed) (by decide)) ?_
    rintro closing _ f closeMoves ⟨rfl, closes⟩
    refine .covered (openMoves.trans (innerMoves.trans closeMoves)) ?_
    intro bound
    have grouped := @Spelled.group bound _ _ _ _ opens closes spelled
    exact grouped
  exact reads.imp fun _ derives => primary_derives (by simp) derives

theorem items_reads {fuel : Nat} (read : ExpressionsRead fuel) {c : Cursor} {closing : Kind}
    (closed : c.Closed) (enough : 8 * c.remaining + 4 ≤ fuel + 1) :
    ReadsAs (.separated (.symbol .expression)) (itemsWithin (fuel + 1) closing) c
      fun es ts _ => Spelled (.items es) ts := by
  rw [itemsWithin]
  apply ReadsAs.peek
  split
  · exact .absent .noItems
  · apply ReadsAs.present
    refine .next (read.value closed (by omega)) ?_
    intro first ts d firstMoves firstSpelled
    have shorter := firstMoves.remaining_lt firstSpelled.expression_ne_nil
    apply ReadsAs.last
    apply ReadsAs.map (read.moreItems d (firstMoves.closed closed) (by omega))
    intro others us e _ othersSpelled
    exact .items firstSpelled othersSpelled

theorem moreItems_reads {fuel : Nat} (read : ExpressionsRead fuel) {c : Cursor}
    (closed : c.Closed) (enough : 8 * c.remaining + 1 ≤ fuel + 1) :
    ReadsAs (.many (.sequence [.token .comma, .symbol .expression]))
      (moreItemsWithin (fuel + 1)) c fun es ts _ => Spelled (.moreItems es) ts := by
  rw [moreItemsWithin]
  apply ReadsAs.peek
  split
  · rename_i isComma
    apply ReadsAs.imp _ fun _ derives =>
      Derives.sequence_one.mp
        (Derives.again_append [.token .comma, .symbol .expression] [] derives)
    refine .next (advance_reads closed isComma (by decide)) ?_
    rintro comma _ d commaMoves ⟨rfl, isComma⟩
    have dClosed := commaMoves.closed closed
    have total := commaMoves.remaining
    rw [List.length_singleton] at total
    refine .next (read.value dClosed (by omega)) ?_
    intro first ts e firstMoves firstSpelled
    have shorter := firstMoves.remaining_le
    apply ReadsAs.last
    apply ReadsAs.map (read.moreItems e (firstMoves.closed dClosed) (by omega))
    intro others us f _ othersSpelled
    have spelled := Spelled.moreItems isComma firstSpelled othersSpelled
    exact spelled
  · exact .none .noMoreItems

theorem binary_reads {fuel : Nat} (read : ExpressionsRead fuel) {c : Cursor} {power : Power}
    {op : BinaryOp} {left : Expr} {before : List Token} (closed : c.Closed)
    (enough : 8 * c.remaining + 1 ≤ fuel + 1)
    (isOp : BinaryOp.ofKind? c.current.kind = some op) (rankEq : power.rank = op.rank)
    (leftDerives : Derives (.symbol (.level (op.rank - 1))) (before.map Token.kind))
    (leftSpelled : Spelled (.expression (op.rank - 1) left) before) :
    Reads (binaryWithin (fuel + 1) left power) c
      (fun e ts d => ts ≠ [] ∧
        Derives (.symbol (.level (op.rank - 1))) ((before ++ ts).map Token.kind) ∧
        Spelled (.expression (op.rank - 1) e) (before ++ ts) ∧ nextRank d ≤ op.rank)
      fun ts => Viable (.symbol (.level (op.rank - 1))) ((before ++ ts).map Token.kind) := by
  have notEnd : c.current.kind ≠ .eof := by
    intro isEnd
    rw [isEnd] at isOp
    cases isOp
  have bounded : op.rank - 1 < op.rank := by
    have positive := op.rank_pos
    omega
  rw [binaryWithin]
  refine Reads.bind (advance_passes closed notEnd) (fun _ begins => begins) ?_
  rintro token _ d moves ⟨rfl, kindEq⟩
  have dClosed := moves.closed closed
  have total := moves.remaining
  rw [List.length_singleton] at total
  rw [← kindEq] at isOp
  have covers (kinds : List Kind) (derives : Derives (.symbol (.level op.rank)) kinds) :
      Derives (.symbol (.level (op.rank - 1)))
        ((before ++ [token]).map Token.kind ++ kinds) := by
    rw [List.map_append, List.append_assoc]
    exact .level_binary isOp leftDerives derives
  have right := read.expression d power dClosed (by omega)
  rw [rankEq] at right
  rw [isOp]
  apply Reads.bind (right.behind (before ++ [token]) covers)
  · intro ts viable
    rw [← List.append_assoc]
    exact viable
  · rintro e ts f rightMoves ⟨derives, rightSpelled, stops⟩
    have spelled := Spelled.binary isOp bounded leftSpelled rightSpelled
    rw [leftSpelled.span_binary rightSpelled] at spelled
    apply Reads.pure
    rw [List.append_nil]
    rw [List.append_assoc] at derives
    exact ⟨List.cons_ne_nil _ _, derives, spelled, stops⟩

theorem operators_reads {fuel : Nat} (read : ExpressionsRead fuel) {c : Cursor}
    {power : Power} {left : Expr} {before : List Token} (closed : c.Closed)
    (enough : 8 * c.remaining + 2 ≤ fuel + 1)
    (leftDerives : Derives (.symbol (.level (max power.rank (nextRank c - 1))))
      (before.map Token.kind))
    (leftSpelled : Spelled (.expression (max power.rank (nextRank c - 1)) left) before) :
    Reads (operatorsWithin (fuel + 1) power left) c
      (fun e ts d => Derives (.symbol (.level power.rank)) ((before ++ ts).map Token.kind) ∧
        Spelled (.expression power.rank e) (before ++ ts) ∧ nextRank d ≤ power.rank)
      fun ts => Viable (.symbol (.level power.rank)) ((before ++ ts).map Token.kind) := by
  rw [operatorsWithin]
  change Reads (if nextRank c ≤ power.rank then _ else _) c _ _
  split
  case isTrue stops =>
    have looser := Nat.le_max_left power.rank (nextRank c - 1)
    apply Reads.pure
    rw [List.append_nil]
    exact ⟨leftDerives.level_mono looser, leftSpelled.weaken looser, stops⟩
  case isFalse tighter =>
    have above : power.rank < nextRank c := Nat.lt_of_not_le tighter
    obtain ⟨op, isOp⟩ := Power.isOp_of_rank_pos (Nat.lt_of_le_of_lt (Nat.zero_le _) above)
    have rankEq := Power.rank_ofKind isOp
    have nextEq : nextRank c = op.rank := rankEq
    have looser : power.rank ≤ op.rank - 1 := by
      omega
    rw [nextEq, Nat.max_eq_right looser] at leftDerives leftSpelled
    refine Reads.bind
      (read.binary c _ op left before closed (by omega) isOp rankEq leftDerives leftSpelled)
      (fun ts viable => viable.imp fun _ derives => derives.level_mono looser) ?_
    rintro extended ts d moves ⟨nonempty, derives, spelled, stops⟩
    have shorter := moves.remaining_lt nonempty
    have within : max power.rank (nextRank d - 1) ≤ op.rank - 1 := by
      omega
    have others := read.operators d power extended (before ++ ts) (moves.closed closed) (by omega)
      (derives.level_mono within) (spelled.weaken within)
    simp only [List.append_assoc] at others
    exact others

theorem expression_reads {fuel : Nat} (read : ExpressionsRead fuel) {c : Cursor}
    {power : Power} (closed : c.Closed) (enough : 8 * c.remaining + 3 ≤ fuel + 1) :
    ReadsAs (.symbol (.level power.rank)) (expressionWithin (fuel + 1) power) c fun e ts d =>
      Spelled (.expression power.rank e) ts ∧ nextRank d ≤ power.rank := by
  rw [expressionWithin]
  have atLevel (bound : Nat) (kinds : List Kind) (derives : Derives (.symbol .primary) kinds) :
      Derives (.symbol (.level bound)) kinds :=
    have atPrimary : Derives (.symbol (.level (bound + 4))) kinds := derives
    atPrimary.level_mono (Nat.le_add_right _ _)
  refine Reads.bind (read.operand c closed (by omega))
    (fun ts viable => viable.imp (atLevel power.rank)) ?_
  rintro left ts d moves ⟨derives, spelled⟩
  have shorter := moves.remaining_le
  exact read.operators d power left ts (moves.closed closed) (by omega) (atLevel _ _ derives)
    (spelled _)

theorem operand_reads {fuel : Nat} (read : ExpressionsRead fuel) {c : Cursor}
    (closed : c.Closed) (enough : 8 * c.remaining + 2 ≤ fuel + 1) :
    ReadsAs (.symbol .primary) (operandWithin (fuel + 1)) c fun e ts _ =>
      ∀ bound, Spelled (.expression bound e) ts := by
  rw [operandWithin]
  apply ReadsAs.peek
  split
  case h_8 => exact read.symbol c closed (by omega)
  case h_9 => exact read.group c closed (by omega)
  case h_10 => exact Reads.unexpected (.nil _)
  all_goals
    rename_i kindEq
    exact primary_reads closed (by rw [kindEq]; rfl)

theorem expressionsRead (fuel : Nat) : ExpressionsRead fuel := by
  induction fuel with
  | zero =>
      constructor
      all_goals
        intros
        omega
  | succ fuel inductionHypothesis =>
      exact {
        expression := fun _ _ => expression_reads inductionHypothesis
        operators := fun _ _ _ _ => operators_reads inductionHypothesis
        binary := fun _ _ _ _ _ => binary_reads inductionHypothesis
        operand := fun _ => operand_reads inductionHypothesis
        symbol := fun _ => symbol_reads inductionHypothesis
        group := fun _ => group_reads inductionHypothesis
        items := fun _ _ => items_reads inductionHypothesis
        moreItems := fun _ => moreItems_reads inductionHypothesis }

end Parse
end ScriptLang
