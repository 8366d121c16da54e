import ScriptLang.Proofs.SpelledExpressions

/-!
Spelled statements are read.
-/

namespace ScriptLang
namespace Parse

variable {c : Cursor} {shared rest : List Token} {fuel : Nat}

/-! ### Parts of statements -/

theorem typeMark_follows {typeName : Option String} {ts : List Token}
    (typeMark : TypeMarkSpelled typeName ts) (along : Along c shared (ts ++ rest))
    (ahead : Ahead (· ≠ .colon) rest) : Follows typeAnnotation c shared typeName ts := by
  cases typeMark with
  | none =>
      have along : Along c shared rest := along
      apply along.look
      intro isNext
      unfold typeAnnotation
      apply Follows.peek
      rw [if_neg (ahead _ isNext)]
      exact .pure
  | @some colon name isColon isName =>
      apply along.look_cons
      intro here
      unfold typeAnnotation
      apply Follows.peek
      rw [here, if_pos isColon]
      have first := advance_follows along (by rw [isColon]; decide)
      change Follows _ c shared _ ([colon] ++ [name])
      refine first.bind along ?_
      intro d fewer _ further
      have whole : Along d fewer ([name] ++ rest) := further
      exact .map whole (identifier_follows further isName)

def InitializerReadable (value : Option Expr) (ts : List Token) : Prop :=
  Readable 0 initializerWithin (· = .semicolon) value ts

theorem noInitializer_readable : InitializerReadable none [] := by
  intro c shared rest fuel along _ ahead
  have along : Along c shared rest := along
  apply along.look
  intro isNext
  unfold initializerWithin
  apply Follows.peek
  rw [ahead _ isNext, if_neg (by decide)]
  exact .pure

theorem initializer_readable {equals : Token} {value : Expr} {ts : List Token}
    (isEquals : equals.kind = .assignment) (extends_ : Extends 0 value ts) :
    InitializerReadable (some value) (equals :: ts) := by
  intro c shared rest fuel along enough ahead
  rw [List.cons_append] at along
  apply along.look_cons
  intro here
  unfold initializerWithin
  apply Follows.peek
  rw [here, if_pos isEquals]
  refine Follows.bind along (advance_follows along (by rw [isEquals]; decide)) ?_
  intro d fewer moves further
  have total := moves.remaining
  rw [List.length_singleton] at total
  refine .map further (extends_.value d fewer rest fuel further (by omega) ?_)
  exact ahead.imp fun kind isSemicolon => by rw [isSemicolon]; decide

theorem InitializerReadable.ahead {value : Option Expr} {ts : List Token}
    (spelled : Spelled (.initializer value) ts) (ends : Ahead (· = .semicolon) rest) :
    Ahead (· ≠ .colon) (ts ++ rest) := by
  cases spelled with
  | noInitializer => exact ends.imp fun kind isSemicolon => by rw [isSemicolon]; decide
  | initializer isEquals _ => exact ahead_cons (by rw [isEquals]; decide)

/-! ### Statements by their first words -/

def statementReader (fuel : Nat) : Kind → Parse Stmt
  | .letWord => declarationWithin fuel
  | .switchWord => switchWithin fuel
  | .ifWord => conditionalWithin fuel
  | .whileWord => loopWithin fuel
  | .returnWord => resultWithin fuel
  | _ => simpleStatementWithin fuel

theorem statementWithin_eq :
    statementWithin (fuel + 1) c = statementReader fuel c.current.kind c := by
  rw [statementWithin]
  rfl

theorem statementReader_of_value {kind : Kind} (starts : startsValue kind = true) :
    statementReader fuel kind = simpleStatementWithin fuel := by
  unfold statementReader
  split
  case h_6 =>
    rfl
  all_goals
    cases starts

def StatementReadable (s : Stmt) (ts : List Token) : Prop :=
  Readable 4 statementWithin (fun _ => True) s ts

theorem statement_readable_of_first {s : Stmt} {first : Token} {ts : List Token}
    (follows : ∀ (c : Cursor) (shared rest : List Token) (fuel : Nat),
      Along c shared (first :: (ts ++ rest)) → 8 * c.remaining + 3 ≤ fuel →
      Follows (statementReader fuel first.kind) c shared s (first :: ts)) :
    StatementReadable s (first :: ts) := by
  intro c shared rest fuel along enough _
  cases fuel with
  | zero => omega
  | succ fuel =>
      rw [List.cons_append] at along
      apply along.look_cons
      intro here
      apply Follows.congr statementWithin_eq
      rw [here]
      exact follows c shared rest fuel along (by omega)

theorem declaration_readable {word name semicolon : Token} {typeName : Option String}
    {value : Option Expr} {ts us : List Token} (isWord : word.kind = .letWord)
    (isName : name.kind = .identifier) (typeMark : TypeMarkSpelled typeName ts)
    (initial : Spelled (.initializer value) us) (readable : InitializerReadable value us)
    (ends : semicolon.kind = .semicolon) :
    StatementReadable
      (.declaration name.value typeName value
        (Token.cover (word :: name :: (ts ++ (us ++ [semicolon])))) none)
      (word :: name :: (ts ++ (us ++ [semicolon]))) := by
  apply statement_readable_of_first
  intro c shared rest fuel along enough
  simp only [List.cons_append, List.append_assoc, List.nil_append] at along
  rw [isWord]
  change Follows (declarationWithin fuel) c shared _ _
  unfold declarationWithin
  refine Follows.bind along (expect_follows along isWord (by decide)) ?_
  intro d fewer wordMoves further
  have dShorter := wordMoves.remaining_le
  refine Follows.bind further (identifier_follows further isName) ?_
  intro e fewer nameMoves further
  have eShorter := nameMoves.remaining_le
  refine Follows.bind further
    (typeMark_follows typeMark further (InitializerReadable.ahead initial (ahead_cons ends))) ?_
  intro f fewer markMoves further
  have fShorter := markMoves.remaining_le
  refine Follows.bind further (readable f fewer _ fuel further (by omega) (ahead_cons ends)) ?_
  intro g fewer initialMoves further
  refine Follows.bind further (expect_follows further ends (by decide)) ?_
  intro h fewer endMoves further
  exact .covered (wordMoves.trans (nameMoves.trans (markMoves.trans
    (initialMoves.trans endMoves))))

theorem result_readable {word semicolon : Token} {value : Expr} {ts : List Token}
    (isWord : word.kind = .returnWord) (extends_ : Extends 0 value ts)
    (ends : semicolon.kind = .semicolon) :
    StatementReadable (.result value (Token.cover (word :: (ts ++ [semicolon]))))
      (word :: (ts ++ [semicolon])) := by
  apply statement_readable_of_first
  intro c shared rest fuel along enough
  simp only [List.append_assoc, List.cons_append, List.nil_append] at along
  rw [isWord]
  change Follows (resultWithin fuel) c shared _ _
  unfold resultWithin
  refine Follows.bind along (expect_follows along isWord (by decide)) ?_
  intro d fewer wordMoves further
  have shorter := wordMoves.remaining_le
  refine Follows.bind further (extends_.value d fewer _ fuel further (by omega) ?_) ?_
  · exact ahead_cons (by rw [ends]; decide)
  intro e fewer valueMoves further
  refine Follows.bind further (expect_follows further ends (by decide)) ?_
  intro f fewer endMoves further
  exact .covered (wordMoves.trans (valueMoves.trans endMoves))

def simpleRest (fuel : Nat) (start : Nat) (first : Expr) : Parse Stmt := do
  if (← currentKind) = .assignment then
    let _ ← advance
    let value ← expressionWithin fuel .default
    let _ ← expect .semicolon
    return .assignment first value (← spanFrom start)
  else
    let _ ← expect .semicolon
    return .expression first (← spanFrom start)

instance (fuel start : Nat) (first : Expr) : Composed (simpleRest fuel start first) := by
  unfold simpleRest
  infer_instance

theorem simpleStatementWithin_eq :
    simpleStatementWithin fuel c =
      (expressionWithin fuel .default >>= simpleRest fuel c.current.span.start) c :=
  rfl

theorem statement_readable_of_value {s : Stmt} {e : Expr} {ts us : List Token}
    (spelled : Spelled (.expression 0 e) ts) (extends_ : Extends 0 e ts)
    (ahead : ∀ rest, Ahead (Ends 0) (us ++ rest))
    (follows : ∀ (c d : Cursor) (shared rest : List Token) (fuel : Nat) (first : Token)
      (others : List Token), ts = first :: others → c.Moves ts d → Along d shared (us ++ rest) →
      8 * d.remaining ≤ fuel → Follows (simpleRest fuel first.span.start e) d shared s us) :
    StatementReadable s (ts ++ us) := by
  obtain ⟨first, others, startEq, starts⟩ := spelled.startsValue
  rw [startEq, List.cons_append]
  apply statement_readable_of_first
  intro c shared rest fuel along enough
  rw [statementReader_of_value starts]
  apply along.look_cons
  intro here
  rw [← List.cons_append, ← startEq]
  rw [← List.cons_append, ← List.cons_append, ← startEq, List.append_assoc] at along
  apply Follows.congr simpleStatementWithin_eq
  refine Follows.bind along (extends_.value c shared _ fuel along (by omega) (ahead rest)) ?_
  intro d fewer moves further
  have shorter := moves.remaining_le
  rw [here]
  exact follows c d fewer rest fuel first others startEq moves further (by omega)

theorem expressionStatement_readable {value : Expr} {semicolon : Token} {ts : List Token}
    (spelled : Spelled (.expression 0 value) ts) (extends_ : Extends 0 value ts)
    (ends : semicolon.kind = .semicolon) :
    StatementReadable (.expression value (Token.cover (ts ++ [semicolon])))
      (ts ++ [semicolon]) := by
  apply statement_readable_of_value spelled extends_
  · intro rest
    exact ahead_cons (by rw [ends]; decide)
  · rintro c d shared rest fuel first others rfl moves along _
    have along : Along d shared (semicolon :: rest) := along
    apply along.look_cons
    intro here
    unfold simpleRest
    apply Follows.peek
    rw [here, ends, if_neg (by decide)]
    refine Follows.bind along (expect_follows along ends (by decide)) ?_
    intro e fewer endMoves further
    exact .covered (moves.trans endMoves)

theorem assignment_readable {receiver value : Expr} {equals semicolon : Token}
    {ts us : List Token} (receiverSpelled : Spelled (.expression 0 receiver) ts)
    (receiverExtends : Extends 0 receiver ts) (isEquals : equals.kind = .assignment)
    (valueExtends : Extends 0 value us) (ends : semicolon.kind = .semicolon) :
    StatementReadable
      (.assignment receiver value (Token.cover (ts ++ equals :: (us ++ [semicolon]))))
      (ts ++ equals :: (us ++ [semicolon])) := by
  apply statement_readable_of_value receiverSpelled receiverExtends
  · intro rest
    exact ahead_cons (by rw [isEquals]; decide)
  · rintro c d shared rest fuel first others rfl moves along enough
    simp only [List.cons_append, List.append_assoc, List.nil_append] at along
    apply along.look_cons
    intro here
    unfold simpleRest
    apply Follows.peek
    rw [here, if_pos isEquals]
    refine Follows.bind along (advance_follows along (by rw [isEquals]; decide)) ?_
    intro e fewer equalsMoves further
    have total := equalsMoves.remaining
    rw [List.length_singleton] at total
    refine Follows.bind further (valueExtends.value e fewer _ fuel further (by omega) ?_) ?_
    · exact ahead_cons (by rw [ends]; decide)
    intro f fewer valueMoves further
    refine Follows.bind further (expect_follows further ends (by decide)) ?_
    intro g fewer endMoves further
    exact .covered (moves.trans (equalsMoves.trans (valueMoves.trans endMoves)))

/-! ### Blocks -/

def closesBlock : Kind → Bool
  | .caseWord | .defaultWord | .elseWord | .endWord => true
  | _ => false

def BlockReadable (b : List Stmt) (ts : List Token) : Prop :=
  ∀ closing : List Kind, (∀ kind ∈ closing, closesBlock kind = true) →
    Readable 5 (fun fuel => blockWithin fuel closing) (· ∈ closing) b ts

theorem noStatements_readable : BlockReadable [] [] := by
  intro closing _ c shared rest fuel along enough ahead
  cases fuel with
  | zero => omega
  | succ fuel =>
      have along : Along c shared rest := along
      apply along.look
      intro isNext
      change Follows (blockWithin (fuel + 1) closing) c shared _ _
      rw [blockWithin]
      apply Follows.peek
      rw [if_pos (List.contains_iff_mem.mpr (ahead _ isNext))]
      exact .pure

theorem statements_readable {first : Stmt} {others : List Stmt} {ts us : List Token}
    (firstSpelled : Spelled (.statement first) ts) (firstReadable : StatementReadable first ts)
    (othersReadable : BlockReadable others us) : BlockReadable (first :: others) (ts ++ us) := by
  intro closing closes c shared rest fuel along enough ahead
  cases fuel with
  | zero => omega
  | succ fuel =>
      rw [List.append_assoc] at along
      obtain ⟨start, more, startEq, starts⟩ := firstSpelled.startsStatement
      have beginning : Along c shared (start :: (more ++ (us ++ rest))) := by
        rw [startEq] at along
        exact along
      apply beginning.look_cons
      intro here
      have goesOn : ¬closing.contains c.current.kind = true := by
        rw [here, List.contains_iff_mem]
        intro member
        have isClosing := closes _ member
        unfold closesBlock at isClosing
        split at isClosing
        · rename_i kindEq; rw [kindEq] at starts; cases starts
        · rename_i kindEq; rw [kindEq] at starts; cases starts
        · rename_i kindEq; rw [kindEq] at starts; cases starts
        · rename_i kindEq; rw [kindEq] at starts; cases starts
        · cases isClosing
      have notEnd : (c.current.kind != .eof) = true := by
        rw [here, bne_iff_ne]
        intro isEnd
        rw [isEnd] at starts
        cases starts
      change Follows (blockWithin (fuel + 1) closing) c shared _ _
      rw [blockWithin]
      apply Follows.peek
      rw [if_neg goesOn]
      change Follows (if (c.current.kind != .eof) = true then _ else complain _) c shared _ _
      rw [if_pos notEnd]
      refine Follows.bind along (firstReadable c shared _ fuel along (by omega) ?_) ?_
      · exact fun _ _ => trivial
      intro d fewer moves further
      have shorter := moves.remaining_lt firstSpelled.statement_ne_nil
      exact .map further (othersReadable closing closes d fewer rest fuel further (by omega) ahead)

/-! ### Statements with blocks -/

theorem loop_readable {word doWord endWord : Token} {condition : Expr} {body : List Stmt}
    {ts us : List Token} (isWord : word.kind = .whileWord) (test : Extends 0 condition ts)
    (isDo : doWord.kind = .doWord) (bodyReadable : BlockReadable body us)
    (isEnd : endWord.kind = .endWord) :
    StatementReadable
      (.loop condition body (Token.cover (word :: (ts ++ doWord :: (us ++ [endWord])))))
      (word :: (ts ++ doWord :: (us ++ [endWord]))) := by
  apply statement_readable_of_first
  intro c shared rest fuel along enough
  simp only [List.append_assoc, List.cons_append, List.nil_append] at along
  rw [isWord]
  change Follows (loopWithin fuel) c shared _ _
  cases fuel with
  | zero => omega
  | succ fuel =>
      rw [loopWithin]
      refine Follows.bind along (expect_follows along isWord (by decide)) ?_
      intro d fewer wordMoves further
      have total := wordMoves.remaining
      rw [List.length_singleton] at total
      refine Follows.bind further (test.value d fewer _ fuel further (by omega) ?_) ?_
      · exact ahead_cons (by rw [isDo]; decide)
      intro e fewer testMoves further
      have eShorter := testMoves.remaining_le
      refine Follows.bind further (expect_follows further isDo (by decide)) ?_
      intro f fewer doMoves further
      have fShorter := doMoves.remaining_le
      refine Follows.bind further
        (bodyReadable [.endWord] (by decide) f fewer _ fuel further (by omega) ?_) ?_
      · exact ahead_cons (by rw [isEnd]; decide)
      intro g fewer bodyMoves further
      refine Follows.bind further (expect_follows further isEnd (by decide)) ?_
      intro h fewer endMoves further
      exact .covered (wordMoves.trans (testMoves.trans (doMoves.trans
        (bodyMoves.trans endMoves))))

def AlternativeReadable (b : List Stmt) (ts : List Token) : Prop :=
  Readable 1 alternativeWithin (· = .endWord) b ts

theorem noAlternative_readable : AlternativeReadable [] [] := by
  intro c shared rest fuel along enough ahead
  cases fuel with
  | zero => omega
  | succ fuel =>
      have along : Along c shared rest := along
      apply along.look
      intro isNext
      rw [alternativeWithin]
      apply Follows.peek
      rw [ahead _ isNext, if_neg (by decide)]
      exact .pure

theorem alternative_readable {word : Token} {body : List Stmt} {ts : List Token}
    (isWord : word.kind = .elseWord) (bodyReadable : BlockReadable body ts) :
    AlternativeReadable body (word :: ts) := by
  intro c shared rest fuel along enough ahead
  cases fuel with
  | zero => omega
  | succ fuel =>
      rw [List.cons_append] at along
      apply along.look_cons
      intro here
      rw [alternativeWithin]
      apply Follows.peek
      rw [here, if_pos isWord]
      refine Follows.bind along (advance_follows along (by rw [isWord]; decide)) ?_
      intro d fewer moves further
      have total := moves.remaining
      rw [List.length_singleton] at total
      refine bodyReadable [.endWord] (by decide) d fewer rest fuel further (by omega) ?_
      exact ahead.imp fun kind isEnd => by rw [isEnd]; decide

theorem AlternativeReadable.ahead {b : List Stmt} {ts : List Token} {endWord : Token}
    (spelled : Spelled (.alternative b) ts) (isEnd : endWord.kind = .endWord) :
    Ahead (· ∈ [.elseWord, .endWord]) (ts ++ (endWord :: rest)) := by
  cases spelled with
  | noAlternative => exact ahead_cons (by rw [isEnd]; decide)
  | alternative isWord _ => exact ahead_cons (by rw [isWord]; decide)

theorem conditional_readable {word doWord endWord : Token} {condition : Expr}
    {thenBlock elseBlock : List Stmt} {ts us vs : List Token} (isWord : word.kind = .ifWord)
    (test : Extends 0 condition ts) (isDo : doWord.kind = .doWord)
    (thenReadable : BlockReadable thenBlock us)
    (elseSpelled : Spelled (.alternative elseBlock) vs)
    (elseReadable : AlternativeReadable elseBlock vs) (isEnd : endWord.kind = .endWord) :
    StatementReadable
      (.conditional condition thenBlock elseBlock
        (Token.cover (word :: (ts ++ doWord :: (us ++ (vs ++ [endWord]))))))
      (word :: (ts ++ doWord :: (us ++ (vs ++ [endWord])))) := by
  apply statement_readable_of_first
  intro c shared rest fuel along enough
  simp only [List.append_assoc, List.cons_append, List.nil_append] at along
  rw [isWord]
  change Follows (conditionalWithin fuel) c shared _ _
  cases fuel with
  | zero => omega
  | succ fuel =>
      rw [conditionalWithin]
      refine Follows.bind along (expect_follows along isWord (by decide)) ?_
      intro d fewer wordMoves further
      have total := wordMoves.remaining
      rw [List.length_singleton] at total
      refine Follows.bind further (test.value d fewer _ fuel further (by omega) ?_) ?_
      · exact ahead_cons (by rw [isDo]; decide)
      intro e fewer testMoves further
      have eShorter := testMoves.remaining_le
      refine Follows.bind further (expect_follows further isDo (by decide)) ?_
      intro f fewer doMoves further
      have fShorter := doMoves.remaining_le
      refine Follows.bind further
        (thenReadable [.elseWord, .endWord] (by decide) f fewer _ fuel further (by omega)
          (AlternativeReadable.ahead elseSpelled isEnd)) ?_
      intro g fewer thenMoves further
      have gShorter := thenMoves.remaining_le
      refine Follows.bind further
        (elseReadable g fewer _ fuel further (by omega) (ahead_cons isEnd)) ?_
      intro h fewer elseMoves further
      refine Follows.bind further (expect_follows further isEnd (by decide)) ?_
      intro i fewer endMoves further
      exact .covered (wordMoves.trans (testMoves.trans (doMoves.trans (thenMoves.trans
        (elseMoves.trans endMoves)))))

def CasesReadable (cs : List Case) (ts : List Token) : Prop :=
  Readable 1 casesWithin (· = .endWord) cs ts

theorem switch_readable {word endWord : Token} {condition : Expr} {cases : List Case}
    {ts us : List Token} (isWord : word.kind = .switchWord) (subject : Extends 0 condition ts)
    (casesSpelled : Spelled (.cases cases) us) (casesReadable : CasesReadable cases us)
    (isEnd : endWord.kind = .endWord) :
    StatementReadable
      (.switch condition cases (Token.cover (word :: (ts ++ (us ++ [endWord])))))
      (word :: (ts ++ (us ++ [endWord]))) := by
  have casesAhead {rest : List Token} : Ahead (Ends 0) (us ++ rest) := by
    cases casesSpelled with
    | defaultCase isWord _ => exact ahead_cons (by rw [isWord]; decide)
    | case isWord _ _ _ _ => exact ahead_cons (by rw [isWord]; decide)
  apply statement_readable_of_first
  intro c shared rest fuel along enough
  simp only [List.append_assoc, List.cons_append, List.nil_append] at along
  rw [isWord]
  change Follows (switchWithin fuel) c shared _ _
  match fuel, enough with
  | fuel + 1, enough =>
      rw [switchWithin]
      refine Follows.bind along (expect_follows along isWord (by decide)) ?_
      intro d fewer wordMoves further
      have total := wordMoves.remaining
      rw [List.length_singleton] at total
      refine Follows.bind further
        (subject.value d fewer _ fuel further (by omega) casesAhead) ?_
      intro e fewer subjectMoves further
      have eShorter := subjectMoves.remaining_le
      refine Follows.bind further
        (casesReadable e fewer _ fuel further (by omega) (ahead_cons isEnd)) ?_
      intro f fewer casesMoves further
      refine Follows.bind further (expect_follows further isEnd (by decide)) ?_
      intro g fewer endMoves further
      exact .covered (wordMoves.trans (subjectMoves.trans (casesMoves.trans endMoves)))

theorem defaultCase_readable {word : Token} {body : List Stmt} {ts : List Token}
    (isWord : word.kind = .defaultWord) (bodyReadable : BlockReadable body ts) :
    CasesReadable [.mk none body (Token.cover (word :: ts))] (word :: ts) := by
  intro c shared rest fuel along enough ahead
  cases fuel with
  | zero => omega
  | succ fuel =>
      rw [List.cons_append] at along
      apply along.look_cons
      intro here
      rw [casesWithin]
      apply Follows.peek
      rw [here, isWord, if_neg (by decide)]
      refine Follows.bind along (expect_follows along isWord (by decide)) ?_
      intro d fewer wordMoves further
      have total := wordMoves.remaining
      rw [List.length_singleton] at total
      have body := bodyReadable [.endWord] (by decide) d fewer rest fuel further (by omega)
        (ahead.imp fun kind isEnd => by rw [isEnd]; decide)
      change Follows _ d fewer _ ts
      rw [← List.append_nil ts]
      refine Follows.bind further body ?_
      intro e fewer bodyMoves further
      rw [List.append_nil]
      exact .covered (wordMoves.trans bodyMoves)

theorem case_readable {word colon : Token} {value : Expr} {body : List Stmt}
    {others : List Case} {ts us vs : List Token} (isWord : word.kind = .caseWord)
    (valueExtends : Extends 0 value ts) (isColon : colon.kind = .colon)
    (bodyReadable : BlockReadable body us) (othersSpelled : Spelled (.cases others) vs)
    (othersReadable : CasesReadable others vs) :
    CasesReadable (.mk (some value) body (Token.cover (word :: (ts ++ colon :: us))) :: others)
      (word :: (ts ++ colon :: us) ++ vs) := by
  have othersAhead {rest : List Token} :
      Ahead (· ∈ [.caseWord, .defaultWord]) (vs ++ rest) := by
    cases othersSpelled with
    | defaultCase isWord _ => exact ahead_cons (by rw [isWord]; decide)
    | case isWord _ _ _ _ => exact ahead_cons (by rw [isWord]; decide)
  intro c shared rest fuel along enough ahead
  cases fuel with
  | zero => omega
  | succ fuel =>
      simp only [List.append_assoc, List.cons_append] at along ⊢
      apply along.look_cons
      intro here
      rw [casesWithin]
      apply Follows.peek
      rw [here, if_pos isWord]
      refine Follows.bind along (advance_follows along (by rw [isWord]; decide)) ?_
      intro d fewer wordMoves further
      have total := wordMoves.remaining
      rw [List.length_singleton] at total
      refine Follows.bind further (valueExtends.value d fewer _ fuel further (by omega) ?_) ?_
      · exact ahead_cons (by rw [isColon]; decide)
      intro e fewer valueMoves further
      have eShorter := valueMoves.remaining_le
      refine Follows.bind further (expect_follows further isColon (by decide)) ?_
      intro f fewer colonMoves further
      have fShorter := colonMoves.remaining_le
      refine Follows.bind further
        (bodyReadable [.caseWord, .defaultWord] (by decide) f fewer _ fuel further (by omega)
          othersAhead) ?_
      intro g fewer bodyMoves further
      have gShorter := bodyMoves.remaining_le
      have spanEq := (wordMoves.trans (valueMoves.trans (colonMoves.trans bodyMoves))).cover_eq
      change Follows (casesWithin fuel >>= fun others => pure
        (Case.mk (some value) body { start := word.span.start, stop := g.previousEnd } :: others))
        g fewer _ vs
      rw [← spanEq]
      exact .map further (othersReadable g fewer rest fuel further (by omega) ahead)

/-! ### Every spelling is read -/

def PieceReadable : Piece → List Token → Prop
  | .expression bound e => Extends bound e
  | .items es => ItemsReadable es
  | .moreItems es => MoreItemsReadable es
  | .initializer value => InitializerReadable value
  | .statement s => StatementReadable s
  | .block b => BlockReadable b
  | .cases cs => CasesReadable cs
  | .alternative b => AlternativeReadable b

end Parse

section

open Parse

theorem Spelled.readable {piece : Piece} {ts : List Token} (spelled : Spelled piece ts) :
    PieceReadable piece ts := by
  induction spelled with
  | literal reads => exact literal_extends _ reads
  | access isName => exact access_extends _ isName
  | element isName opens closes _ inner => exact element_extends _ isName opens closes inner
  | call isName opens closes _ inner => exact call_extends _ isName opens closes inner
  | group opens closes _ inner => exact group_extends _ opens closes inner
  | binary isOp binds leftSpelled rightSpelled left right =>
      exact binary_extends isOp binds left right (leftSpelled.span_binary rightSpelled)
  | noItems => exact noItems_readable
  | items firstSpelled othersSpelled first others =>
      exact items_readable firstSpelled first othersSpelled others
  | noMoreItems => exact noMoreItems_readable
  | moreItems isComma _ othersSpelled first others =>
      exact moreItems_readable isComma first othersSpelled others
  | noInitializer => exact noInitializer_readable
  | initializer isEquals _ value => exact initializer_readable isEquals value
  | declaration isWord isName typeMark initialSpelled ends initial =>
      exact declaration_readable isWord isName typeMark initialSpelled initial ends
  | expressionStatement valueSpelled ends value =>
      exact expressionStatement_readable valueSpelled value ends
  | assignment receiverSpelled isEquals _ ends receiver value =>
      exact assignment_readable receiverSpelled receiver isEquals value ends
  | conditional isWord _ isDo _ elseSpelled isEnd test thenBlock elseBlock =>
      exact conditional_readable isWord test isDo thenBlock elseSpelled elseBlock isEnd
  | switch isWord _ casesSpelled isEnd subject cases =>
      exact switch_readable isWord subject casesSpelled cases isEnd
  | loop isWord _ isDo _ isEnd test body => exact loop_readable isWord test isDo body isEnd
  | result isWord _ ends value => exact result_readable isWord value ends
  | noStatements => exact noStatements_readable
  | statements firstSpelled _ first others => exact statements_readable firstSpelled first others
  | defaultCase isWord _ body => exact defaultCase_readable isWord body
  | case isWord _ isColon _ othersSpelled value body others =>
      exact case_readable isWord value isColon body othersSpelled others
  | noAlternative => exact noAlternative_readable
  | alternative isWord _ body => exact alternative_readable isWord body

end

end ScriptLang
