import ScriptLang.Proofs.Follows

/-!
Spelled expressions are read.

A reader in front of an expression's spelling reads that expression, if what follows cannot
belong to it.  An expression that ends before an operator is read as the left side of what that
operator begins, which is why expressions are followed up to the operators behind them.
-/

namespace ScriptLang
namespace Parse

/-! ### What may follow -/

def NoBracket (kind : Kind) : Prop :=
  kind ≠ .openParen ∧ kind ≠ .openBracket

/-- What may follow an expression read at a power of that rank. -/
def Ends (limit : Nat) (kind : Kind) : Prop :=
  NoBracket kind ∧ (Power.ofKind kind).rank ≤ limit

instance (kind : Kind) : Decidable (NoBracket kind) :=
  inferInstanceAs (Decidable (_ ∧ _))

instance (limit : Nat) (kind : Kind) : Decidable (Ends limit kind) :=
  inferInstanceAs (Decidable (_ ∧ _))

theorem Ends.mono {limit larger : Nat} {kind : Kind} (ends : Ends limit kind)
    (le : limit ≤ larger) : Ends larger kind :=
  ⟨ends.1, Nat.le_trans ends.2 le⟩

theorem Ahead.imp {holds also : Kind → Prop} {tokens : List Token} (ahead : Ahead holds tokens)
    (implies : ∀ kind, holds kind → also kind) : Ahead also tokens :=
  fun token isNext => implies token.kind (ahead token isNext)

theorem ahead_cons {holds : Kind → Prop} {token : Token} {tokens : List Token}
    (next : holds token.kind) : Ahead holds (token :: tokens) := by
  intro first isNext
  cases Option.some.inj isNext
  exact next

variable {α : Type}

/-- With enough fuel the reader reads the value off its spelling, if such a token follows. -/
def Readable (least : Nat) (reader : Nat → Parse α) (ahead : Kind → Prop) (value : α)
    (ts : List Token) : Prop :=
  ∀ (c : Cursor) (shared rest : List Token) (fuel : Nat), Along c shared (ts ++ rest) →
    8 * c.remaining + least ≤ fuel → Ahead ahead rest → Follows (reader fuel) c shared value ts

theorem operatorsWithin_stops {fuel : Nat} {power : Power} {left : Expr} {c : Cursor}
    (looser : (Power.ofKind c.current.kind).rank ≤ power.rank) :
    operatorsWithin (fuel + 1) power left c = .ok left c := by
  rw [operatorsWithin]
  change (if (Power.ofKind c.current.kind).rank ≤ power.rank then pure left else _ : Parse Expr) c =
    _
  rw [if_pos looser]
  rfl

theorem operatorsWithin_goesOn {fuel : Nat} {power : Power} {left : Expr} {c : Cursor}
    (tighter : power.rank < (Power.ofKind c.current.kind).rank) :
    operatorsWithin (fuel + 1) power left c =
      (binaryWithin fuel left (Power.ofKind c.current.kind) >>= operatorsWithin fuel power) c := by
  rw [operatorsWithin]
  change (if (Power.ofKind c.current.kind).rank ≤ power.rank then pure left
    else binaryWithin fuel left (Power.ofKind c.current.kind) >>=
      operatorsWithin fuel power : Parse Expr) c = _
  rw [if_neg (Nat.not_le_of_lt tighter)]

/-- In front of its spelling, an expression is read as the left side of what follows. -/
def Extends (bound : Nat) (e : Expr) (ts : List Token) : Prop :=
  ∀ (c : Cursor) (shared rest : List Token) (fuel : Nat) (power : Power),
    Along c shared (ts ++ rest) → 8 * c.remaining + 3 ≤ fuel → power.rank ≤ bound →
    Ahead (Ends (bound + 1)) rest →
    (ts.length < shared.length ∧ ∃ d less, c.Moves ts d ∧ 8 * d.remaining + 2 ≤ less ∧
      expressionWithin fuel power c = operatorsWithin less power e d) ∨
    Passes (expressionWithin fuel power) c shared.length

theorem Extends.follows {bound : Nat} {e : Expr} {ts : List Token} (extends_ : Extends bound e ts)
    {c : Cursor} {shared rest : List Token} {fuel : Nat} {power : Power}
    (along : Along c shared (ts ++ rest)) (enough : 8 * c.remaining + 3 ≤ fuel)
    (rankLe : power.rank ≤ bound) (ahead : Ahead (Ends (bound + 1)) rest)
    (stops : Ahead (Ends power.rank) rest) :
    Follows (expressionWithin fuel power) c shared e ts := by
  rcases extends_ c shared rest fuel power along enough rankLe ahead with
    ⟨short, d, less, moves, enoughLeft, continues⟩ | passes
  · obtain ⟨fewer, rfl, further⟩ := along.moved moves (Nat.le_of_lt short)
    refine .inl ⟨short, d, ?_, moves⟩
    rcases further.current with rfl | isNext
    · rw [List.append_nil] at short
      exact absurd short (Nat.lt_irrefl _)
    · rw [continues]
      cases less with
      | zero => omega
      | succ less => exact operatorsWithin_stops (stops d.current isNext).2
  · exact .inr passes

theorem Extends.value {e : Expr} {ts : List Token} (extends_ : Extends 0 e ts) :
    Readable 3 (fun fuel => expressionWithin fuel .default) (Ends 0) e ts := by
  intro c shared rest fuel along enough ahead
  exact extends_.follows along enough (Nat.le_refl 0)
    (ahead.imp fun _ ends => ends.mono (Nat.zero_le _)) ahead

theorem Readable.extends_ {e : Expr} {ts : List Token} (bound : Nat)
    (readable : Readable 2 operandWithin NoBracket e ts) : Extends bound e ts := by
  intro c shared rest fuel power along enough _ ahead
  cases fuel with
  | zero => omega
  | succ fuel =>
      rw [expressionWithin]
      rcases readable c shared rest fuel along (by omega) (ahead.imp fun _ ends => ends.1) with
        ⟨short, d, result, moves⟩ | passes
      · have shorter := moves.remaining_le
        refine .inl ⟨short, d, fuel, moves, by omega, ?_⟩
        change EStateM.bind _ _ c = _
        unfold EStateM.bind
        rw [result]
      · exact .inr passes.bind

/-! ### Operands -/

def operandReader (fuel : Nat) : Kind → Parse Expr
  | .integer | .decimal | .character | .string | .trueWord | .falseWord | .nilWord => primary
  | .identifier => symbolWithin fuel
  | .openParen => groupWithin fuel
  | _ => unexpected

theorem operandWithin_eq (fuel : Nat) (c : Cursor) :
    operandWithin (fuel + 1) c = operandReader fuel c.current.kind c := by
  rw [operandWithin]
  rfl

theorem operandReader_of_constant {fuel : Nat} {kind : Kind} (isLiteral : isConstant kind = true) :
    operandReader fuel kind = primary := by
  unfold isConstant at isLiteral
  split at isLiteral
  case h_8 =>
    cases isLiteral
  all_goals
    rfl

/-- To read an operand is to read what its first token says. -/
theorem Readable.extends_of_first {e : Expr} {first : Token} {ts : List Token} (bound : Nat)
    (follows : ∀ (c : Cursor) (shared rest : List Token) (fuel : Nat),
      Along c shared (first :: (ts ++ rest)) → 8 * c.remaining + 1 ≤ fuel →
      Ahead NoBracket rest →
      c.current = first → Follows (operandReader fuel first.kind) c shared e (first :: ts)) :
    Extends bound e (first :: ts) := by
  apply Readable.extends_
  intro c shared rest fuel along enough ahead
  cases fuel with
  | zero => omega
  | succ fuel =>
      rw [List.cons_append] at along
      apply along.look_cons
      intro here
      apply Follows.congr (operandWithin_eq fuel c)
      rw [here]
      exact follows c shared rest fuel along (by omega) ahead here

theorem literal_extends (bound : Nat) {token : Token} {value : Literal}
    (reads : literalOf token = .ok value) :
    Extends bound (.literal value token.span none) [token] := by
  have isLiteral := isConstant_of_literalOf reads
  apply Readable.extends_of_first
  intro c shared rest fuel along enough _ here
  rw [operandReader_of_constant isLiteral]
  unfold primary
  apply Follows.peekToken
  rw [here, reads]
  have whole : Along c shared ([token] ++ rest) := along
  exact .map whole (advance_follows along (not_eof_of_isConstant isLiteral))

theorem Readable.extends_of_name {e : Expr} {name : Token} {ts : List Token} (bound : Nat)
    (isName : name.kind = .identifier)
    (follows : ∀ (c d : Cursor) (shared rest : List Token) (fuel : Nat),
      c.Moves [name] d → Along d shared (ts ++ rest) → 8 * d.remaining + 8 ≤ fuel →
      Ahead NoBracket rest → Follows (symbolRest fuel name) d shared e ts) :
    Extends bound e (name :: ts) := by
  apply Readable.extends_of_first
  intro c shared rest fuel along enough ahead _
  rw [isName]
  change Follows (symbolWithin fuel) c shared _ _
  cases fuel with
  | zero => omega
  | succ fuel =>
      rw [symbolWithin_succ]
      refine Follows.bind along (expect_follows along isName (by decide)) ?_
      intro d fewer moves further
      have total := moves.remaining
      rw [List.length_singleton] at total
      exact follows c d fewer rest fuel moves further (by omega) ahead

theorem access_extends (bound : Nat) {name : Token} (isName : name.kind = .identifier) :
    Extends bound (.access name.value name.span none none) [name] := by
  apply Readable.extends_of_name bound isName
  intro c d shared rest fuel _ along _ ahead
  apply along.look
  intro isNext
  obtain ⟨notParen, notBracket⟩ := ahead d.current isNext
  unfold symbolRest
  apply Follows.peek
  split
  · rename_i opens
    exact absurd opens notParen
  · rename_i opens
    exact absurd opens notBracket
  · exact .pure

theorem element_extends (bound : Nat) {name opening closing : Token} {index : Expr}
    {ts : List Token} (isName : name.kind = .identifier) (opens : opening.kind = .openBracket)
    (closes : closing.kind = .closeBracket) (inner : Extends 0 index ts) :
    Extends bound
      (.element name.value index (Token.cover (name :: opening :: (ts ++ [closing]))) none none)
      (name :: opening :: (ts ++ [closing])) := by
  apply Readable.extends_of_name bound isName
  intro c d shared rest fuel nameMoves along enough _
  simp only [List.cons_append, List.append_assoc, List.nil_append] at along
  apply along.look_cons
  intro here
  unfold symbolRest
  apply Follows.peek
  rw [here, opens]
  refine Follows.bind along (advance_follows along (by rw [opens]; decide)) ?_
  intro e fewer openMoves further
  have shorter := openMoves.remaining_le
  refine Follows.bind further (inner.value e fewer _ fuel further (by omega) ?_) ?_
  · exact ahead_cons (by rw [closes]; decide)
  intro f fewer innerMoves further
  refine Follows.bind further (expect_follows further closes (by decide)) ?_
  intro g fewer closeMoves further
  exact .covered (nameMoves.trans (openMoves.trans (innerMoves.trans closeMoves)))

/-- The items of a spelling are read up to either closing bracket. -/
def ItemsReadable (es : List Expr) (ts : List Token) : Prop :=
  ∀ closing, closing = Kind.closeParen ∨ closing = Kind.closeBracket →
    Readable 4 (fun fuel => itemsWithin fuel closing) (· = closing) es ts

theorem call_extends (bound : Nat) {name opening closing : Token} {arguments : List Expr}
    {ts : List Token} (isName : name.kind = .identifier) (opens : opening.kind = .openParen)
    (closes : closing.kind = .closeParen) (inner : ItemsReadable arguments ts) :
    Extends bound
      (.call name.value arguments (Token.cover (name :: opening :: (ts ++ [closing]))) none none)
      (name :: opening :: (ts ++ [closing])) := by
  apply Readable.extends_of_name bound isName
  intro c d shared rest fuel nameMoves along enough _
  simp only [List.cons_append, List.append_assoc, List.nil_append] at along
  apply along.look_cons
  intro here
  unfold symbolRest
  apply Follows.peek
  rw [here, opens]
  refine Follows.bind along (advance_follows along (by rw [opens]; decide)) ?_
  intro e fewer openMoves further
  have shorter := openMoves.remaining_le
  refine Follows.bind further
    (inner .closeParen (.inl rfl) e fewer _ fuel further (by omega) ?_) ?_
  · exact ahead_cons closes
  intro f fewer innerMoves further
  refine Follows.bind further (expect_follows further closes (by decide)) ?_
  intro g fewer closeMoves further
  exact .covered (nameMoves.trans (openMoves.trans (innerMoves.trans closeMoves)))

theorem group_extends (bound : Nat) {opening closing : Token} {inner : Expr} {ts : List Token}
    (opens : opening.kind = .openParen) (closes : closing.kind = .closeParen)
    (spelled : Extends 0 inner ts) :
    Extends bound (.group inner (Token.cover (opening :: (ts ++ [closing]))) none)
      (opening :: (ts ++ [closing])) := by
  apply Readable.extends_of_first
  intro c shared rest fuel along enough _ _
  simp only [List.append_assoc, List.cons_append, List.nil_append] at along
  rw [opens]
  change Follows (groupWithin fuel) c shared _ _
  cases fuel with
  | zero => omega
  | succ fuel =>
      rw [groupWithin]
      refine Follows.bind along (expect_follows along opens (by decide)) ?_
      intro d fewer openMoves further
      have total := openMoves.remaining
      rw [List.length_singleton] at total
      refine Follows.bind further (spelled.value d fewer _ fuel further (by omega) ?_) ?_
      · exact ahead_cons (by rw [closes]; decide)
      intro e fewer innerMoves further
      refine Follows.bind further (expect_follows further closes (by decide)) ?_
      intro f fewer closeMoves further
      exact .covered (openMoves.trans (innerMoves.trans closeMoves))

/-! ### Operators -/

theorem binary_follows {op : BinaryOp} {token : Token} {left right : Expr} {ts us : List Token}
    {power : Power} (isOp : BinaryOp.ofKind? token.kind = some op) (rankEq : power.rank = op.rank)
    (rightExtends : Extends op.rank right us)
    (spanEq : Token.cover (ts ++ token :: us) =
      { start := left.span.start, stop := right.span.stop })
    {c : Cursor} {shared rest : List Token} {fuel : Nat}
    (along : Along c shared (token :: (us ++ rest))) (enough : 8 * c.remaining + 1 ≤ fuel)
    (ahead : Ahead (Ends op.rank) rest) :
    Follows (binaryWithin fuel left power) c shared
      (.binary op left right (Token.cover (ts ++ token :: us)) none) (token :: us) := by
  cases fuel with
  | zero => omega
  | succ fuel =>
      rw [binaryWithin]
      have notEnd : token.kind ≠ .eof := by
        intro isEnd
        rw [isEnd] at isOp
        cases isOp
      refine Follows.bind_of_travels along (advance_follows along notEnd) ?_ ?_
      · intro token
        split <;> infer_instance
      intro d fewer moves further
      have total := moves.remaining
      rw [List.length_singleton] at total
      rw [isOp, spanEq]
      refine .map further ?_
      apply rightExtends.follows further (by omega) (Nat.le_of_eq rankEq)
      · exact ahead.imp fun _ ends => ends.mono (Nat.le_succ _)
      · rw [rankEq]
        exact ahead

theorem binary_extends {bound : Nat} {op : BinaryOp} {token : Token} {left right : Expr}
    {ts us : List Token} (isOp : BinaryOp.ofKind? token.kind = some op) (binds : bound < op.rank)
    (leftExtends : Extends (op.rank - 1) left ts) (rightExtends : Extends op.rank right us)
    (spanEq : Token.cover (ts ++ token :: us) =
      { start := left.span.start, stop := right.span.stop }) :
    Extends bound (.binary op left right (Token.cover (ts ++ token :: us)) none)
      (ts ++ token :: us) := by
  intro c shared rest fuel power along enough rankLe ahead
  rw [List.append_assoc, List.cons_append] at along
  have opRank : (Power.ofKind token.kind).rank = op.rank := Power.rank_ofKind isOp
  have opEnds : Ends (op.rank - 1 + 1) token.kind := by
    refine ⟨⟨?_, ?_⟩, by omega⟩
    · intro isOpen
      rw [isOpen] at isOp
      cases isOp
    · intro isOpen
      rw [isOpen] at isOp
      cases isOp
  rcases leftExtends c shared _ fuel power along enough (by omega) (ahead_cons opEnds) with
    ⟨short, d, less, moves, enoughLeft, continues⟩ | passes
  · obtain ⟨fewer, rfl, further⟩ := along.moved moves (Nat.le_of_lt short)
    rw [List.length_append] at short
    rcases further.current with rfl | isNext
    · exact absurd short (Nat.lt_irrefl _)
    have here : d.current = token := (Option.some.inj isNext).symm
    cases less with
    | zero => omega
    | succ less =>
        have goesOn : operatorsWithin (less + 1) power left d =
            (binaryWithin less left (Power.ofKind token.kind) >>= operatorsWithin less power)
              d := by
          rw [← here] at opRank ⊢
          exact operatorsWithin_goesOn (by omega)
        have enoughInside : 8 * d.remaining + 1 ≤ less := by omega
        have follows := binary_follows isOp opRank rightExtends spanEq further enoughInside
          (ahead.imp fun _ ends => ends.mono binds)
        rcases follows with ⟨shorter, f, result, later⟩ | passes
        · have consumed := later.remaining_lt (List.cons_ne_nil _ _)
          refine .inl ⟨?_, f, less, moves.trans later, by omega, ?_⟩
          · rw [List.length_append, List.length_append]
            omega
          · rw [continues, goesOn]
            change EStateM.bind _ _ d = _
            unfold EStateM.bind
            rw [result]
        · right
          unfold Passes Leads
          rw [continues, goesOn, List.length_append]
          have beyond : Passes
              (binaryWithin less left (Power.ofKind token.kind) >>= operatorsWithin less power) d
              fewer.length :=
            passes.bind
          exact beyond.behind moves
  · exact .inr passes

/-! ### Items -/

def MoreItemsReadable (es : List Expr) (ts : List Token) : Prop :=
  Readable 1 moreItemsWithin (fun kind => kind = .closeParen ∨ kind = .closeBracket) es ts

theorem noItems_readable : ItemsReadable [] [] := by
  intro closing _ c shared rest fuel along enough ahead
  cases fuel with
  | zero => omega
  | succ fuel =>
      have along : Along c shared rest := along
      apply along.look
      intro isNext
      change Follows (itemsWithin (fuel + 1) closing) c shared _ _
      rw [itemsWithin]
      apply Follows.peek
      rw [if_pos (ahead _ isNext)]
      exact .pure

theorem noMoreItems_readable : MoreItemsReadable [] [] := by
  intro c shared rest fuel along enough ahead
  cases fuel with
  | zero => omega
  | succ fuel =>
      have along : Along c shared rest := along
      apply along.look
      intro isNext
      have notComma : c.current.kind ≠ .comma := by
        rcases ahead _ isNext with isClosing | isClosing
        · rw [isClosing]; decide
        · rw [isClosing]; decide
      rw [moreItemsWithin]
      apply Follows.peek
      rw [if_neg notComma]
      exact .pure

theorem MoreItemsReadable.ahead {es : List Expr} {ts rest : List Token}
    (spelled : Spelled (.moreItems es) ts)
    (closes : Ahead (fun kind => kind = .closeParen ∨ kind = .closeBracket) rest) :
    Ahead (Ends 0) (ts ++ rest) := by
  cases spelled with
  | noMoreItems =>
      intro token isNext
      rcases closes token isNext with isClosing | isClosing
      · rw [isClosing]; decide
      · rw [isClosing]; decide
  | moreItems isComma _ _ => exact ahead_cons (by rw [isComma]; decide)

theorem items_readable {first : Expr} {others : List Expr} {ts us : List Token}
    (firstSpelled : Spelled (.expression 0 first) ts) (firstExtends : Extends 0 first ts)
    (othersSpelled : Spelled (.moreItems others) us)
    (othersReadable : MoreItemsReadable others us) :
    ItemsReadable (first :: others) (ts ++ us) := by
  intro closing isClosing c shared rest fuel along enough ahead
  have closes : Ahead (fun kind => kind = .closeParen ∨ kind = .closeBracket) rest :=
    ahead.imp fun kind kindEq => kindEq ▸ isClosing
  cases fuel with
  | zero => omega
  | succ fuel =>
      rw [List.append_assoc] at along
      obtain ⟨start, more, startEq, starts⟩ := firstSpelled.startsValue
      have beginning : Along c shared (start :: (more ++ (us ++ rest))) := by
        rw [startEq] at along
        exact along
      apply beginning.look_cons
      intro here
      have notClosing : c.current.kind ≠ closing := by
        rw [here]
        rintro rfl
        rcases isClosing with isClosing | isClosing
        · rw [isClosing] at starts; cases starts
        · rw [isClosing] at starts; cases starts
      change Follows (itemsWithin (fuel + 1) closing) c shared _ _
      rw [itemsWithin]
      apply Follows.peek
      rw [if_neg notClosing]
      refine Follows.bind along (firstExtends.value c shared _ fuel along (by omega)
        (MoreItemsReadable.ahead othersSpelled closes)) ?_
      intro d fewer moves further
      have shorter := moves.remaining_lt firstSpelled.expression_ne_nil
      exact .map further (othersReadable d fewer rest fuel further (by omega) closes)

theorem moreItems_readable {comma : Token} {first : Expr} {others : List Expr}
    {ts us : List Token} (isComma : comma.kind = .comma) (firstExtends : Extends 0 first ts)
    (othersSpelled : Spelled (.moreItems others) us)
    (othersReadable : MoreItemsReadable others us) :
    MoreItemsReadable (first :: others) (comma :: (ts ++ us)) := by
  intro c shared rest fuel along enough closes
  cases fuel with
  | zero => omega
  | succ fuel =>
      simp only [List.cons_append, List.append_assoc] at along
      apply along.look_cons
      intro here
      rw [moreItemsWithin]
      apply Follows.peek
      rw [here, if_pos isComma]
      refine Follows.bind along (advance_follows along (by rw [isComma]; decide)) ?_
      intro d fewer commaMoves further
      have total := commaMoves.remaining
      rw [List.length_singleton] at total
      refine Follows.bind further (firstExtends.value d fewer _ fuel further (by omega)
        (MoreItemsReadable.ahead othersSpelled closes)) ?_
      intro e fewer moves further
      have shorter := moves.remaining_le
      exact .map further (othersReadable e fewer rest fuel further (by omega) closes)

end Parse
end ScriptLang
