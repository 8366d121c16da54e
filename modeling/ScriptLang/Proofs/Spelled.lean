import ScriptLang.Proofs.Numerals
import ScriptLang.Proofs.Passage

/-!
Trees and the tokens that spell them.

A tree is spelled by some tokens when it is what those tokens say: every node is built from
the tokens of its parts in their order, has the constants and names that they carry, and spans
them from the first to the last.  Operators stand between operands that bind at least as
tightly on their left side, and more tightly on their right side.
-/

namespace ScriptLang

/-- The bytes from the first of some tokens to the last one. -/
def Token.cover (tokens : List Token) : Span :=
  { start := (tokens.head?.map fun token => token.span.start).getD 0
    stop := (tokens.getLast?.map fun token => token.span.stop).getD 0 }

theorem Token.cover_append {ts us : List Token} (left : ts ≠ []) (right : us ≠ []) :
    Token.cover (ts ++ us) =
      { start := (Token.cover ts).start, stop := (Token.cover us).stop } := by
  obtain ⟨first, ts, rfl⟩ := List.exists_cons_of_ne_nil left
  have lastEq : (first :: ts ++ us).getLast? = us.getLast? := by
    rw [List.getLast?_append, List.getLast?_eq_some_getLast right, Option.some_or]
  unfold Token.cover
  rw [lastEq]
  rfl

theorem Cursor.Moves.stop_cover {c d : Cursor} {ts : List Token} (moves : c.Moves ts d)
    (nonempty : ts ≠ []) : (Token.cover ts).stop = d.previousEnd := by
  have lastEq := List.getLast?_eq_some_getLast nonempty
  have reversed : ts.reverse.head? = some (ts.getLast nonempty) := by
    rw [List.head?_reverse, lastEq]
  obtain ⟨others, passedEq⟩ := List.head?_eq_some_iff.mp reversed
  unfold Token.cover Cursor.previousEnd
  rw [lastEq, moves.passed, passedEq]
  rfl

theorem Cursor.Moves.stop_cover_of_start {c d : Cursor} {ts : List Token} (moves : c.Moves ts d)
    (atStart : c.passed = []) : (Token.cover ts).stop = d.previousEnd := by
  cases ts with
  | nil =>
      have nothing := moves.passed
      rw [atStart] at nothing
      unfold previousEnd
      rw [nothing]
      rfl
  | cons token ts =>
      exact moves.stop_cover (List.cons_ne_nil _ _)

theorem Cursor.Moves.cover_eq {c d : Cursor} {first : Token} {ts : List Token}
    (moves : c.Moves (first :: ts) d) :
    Token.cover (first :: ts) = { start := first.span.start, stop := d.previousEnd } := by
  rw [← moves.stop_cover (List.cons_ne_nil _ _)]
  rfl

/-- How tightly an operator binds, from one to four. -/
def BinaryOp.rank (op : BinaryOp) : Nat :=
  (Power.ofOp op).rank

theorem BinaryOp.rank_pos (op : BinaryOp) : 0 < op.rank := by
  cases op <;> decide

theorem Power.rank_ofKind {kind : Kind} {op : BinaryOp}
    (isOp : BinaryOp.ofKind? kind = some op) : (Power.ofKind kind).rank = op.rank := by
  unfold Power.ofKind
  rw [isOp]
  rfl

theorem Power.isOp_of_rank_pos {kind : Kind} (positive : 0 < (Power.ofKind kind).rank) :
    ∃ op, BinaryOp.ofKind? kind = some op := by
  unfold Power.ofKind at positive
  split at positive
  · exact ⟨_, by assumption⟩
  · cases positive

/-- What a piece of a program is read as. -/
inductive Piece where
  /-- An expression whose operators, outside of all brackets, bind tighter than the bound. -/
  | expression (bound : Nat) (e : Expr)
  | items (es : List Expr)
  | moreItems (es : List Expr)
  | initializer (value : Option Expr)
  | statement (s : Stmt)
  | block (b : List Stmt)
  /-- The cases of a switch, the default case at the end. -/
  | cases (cs : List Case)
  | alternative (b : List Stmt)

inductive TypeMarkSpelled : Option String → List Token → Prop where
  | none : TypeMarkSpelled none []
  | some {colon name : Token} (isColon : colon.kind = .colon)
      (isName : name.kind = .identifier) : TypeMarkSpelled (some name.value) [colon, name]

/-- The piece is what the tokens say. -/
inductive Spelled : Piece → List Token → Prop where
  | literal {bound : Nat} {token : Token} {value : Literal}
      (reads : Parse.literalOf token = .ok value) :
      Spelled (.expression bound (.literal value token.span none)) [token]
  | access {bound : Nat} {name : Token} (isName : name.kind = .identifier) :
      Spelled (.expression bound (.access name.value name.span none none)) [name]
  | element {bound : Nat} {name opening closing : Token} {index : Expr} {ts : List Token}
      (isName : name.kind = .identifier) (opens : opening.kind = .openBracket)
      (closes : closing.kind = .closeBracket) (inner : Spelled (.expression 0 index) ts) :
      Spelled
        (.expression bound
          (.element name.value index (Token.cover (name :: opening :: (ts ++ [closing]))) none
            none))
        (name :: opening :: (ts ++ [closing]))
  | call {bound : Nat} {name opening closing : Token} {arguments : List Expr}
      {ts : List Token} (isName : name.kind = .identifier) (opens : opening.kind = .openParen)
      (closes : closing.kind = .closeParen) (inner : Spelled (.items arguments) ts) :
      Spelled
        (.expression bound
          (.call name.value arguments (Token.cover (name :: opening :: (ts ++ [closing]))) none
            none))
        (name :: opening :: (ts ++ [closing]))
  | group {bound : Nat} {opening closing : Token} {inner : Expr} {ts : List Token}
      (opens : opening.kind = .openParen) (closes : closing.kind = .closeParen)
      (spelled : Spelled (.expression 0 inner) ts) :
      Spelled
        (.expression bound (.group inner (Token.cover (opening :: (ts ++ [closing]))) none))
        (opening :: (ts ++ [closing]))
  | binary {bound : Nat} {token : Token} {op : BinaryOp} {left right : Expr}
      {ts us : List Token} (isOp : BinaryOp.ofKind? token.kind = some op)
      (binds : bound < op.rank) (leftSpelled : Spelled (.expression (op.rank - 1) left) ts)
      (rightSpelled : Spelled (.expression op.rank right) us) :
      Spelled
        (.expression bound (.binary op left right (Token.cover (ts ++ token :: us)) none))
        (ts ++ token :: us)
  | noItems : Spelled (.items []) []
  | items {first : Expr} {others : List Expr} {ts us : List Token}
      (firstSpelled : Spelled (.expression 0 first) ts)
      (othersSpelled : Spelled (.moreItems others) us) :
      Spelled (.items (first :: others)) (ts ++ us)
  | noMoreItems : Spelled (.moreItems []) []
  | moreItems {comma : Token} {first : Expr} {others : List Expr} {ts us : List Token}
      (isComma : comma.kind = .comma) (firstSpelled : Spelled (.expression 0 first) ts)
      (othersSpelled : Spelled (.moreItems others) us) :
      Spelled (.moreItems (first :: others)) (comma :: (ts ++ us))
  | noInitializer : Spelled (.initializer none) []
  | initializer {equals : Token} {value : Expr} {ts : List Token}
      (isEquals : equals.kind = .assignment) (spelled : Spelled (.expression 0 value) ts) :
      Spelled (.initializer (some value)) (equals :: ts)
  | declaration {word name semicolon : Token} {typeName : Option String}
      {value : Option Expr} {ts us : List Token} (isWord : word.kind = .letWord)
      (isName : name.kind = .identifier) (typeMark : TypeMarkSpelled typeName ts)
      (initial : Spelled (.initializer value) us) (ends : semicolon.kind = .semicolon) :
      Spelled
        (.statement
          (.declaration name.value typeName value
            (Token.cover (word :: name :: (ts ++ (us ++ [semicolon])))) none))
        (word :: name :: (ts ++ (us ++ [semicolon])))
  | expressionStatement {value : Expr} {semicolon : Token} {ts : List Token}
      (spelled : Spelled (.expression 0 value) ts) (ends : semicolon.kind = .semicolon) :
      Spelled (.statement (.expression value (Token.cover (ts ++ [semicolon]))))
        (ts ++ [semicolon])
  | assignment {receiver value : Expr} {equals semicolon : Token} {ts us : List Token}
      (receiverSpelled : Spelled (.expression 0 receiver) ts)
      (isEquals : equals.kind = .assignment) (valueSpelled : Spelled (.expression 0 value) us)
      (ends : semicolon.kind = .semicolon) :
      Spelled
        (.statement
          (.assignment receiver value (Token.cover (ts ++ equals :: (us ++ [semicolon])))))
        (ts ++ equals :: (us ++ [semicolon]))
  | conditional {word doWord endWord : Token} {condition : Expr}
      {thenBlock elseBlock : List Stmt} {ts us vs : List Token} (isWord : word.kind = .ifWord)
      (test : Spelled (.expression 0 condition) ts) (isDo : doWord.kind = .doWord)
      (thenSpelled : Spelled (.block thenBlock) us)
      (elseSpelled : Spelled (.alternative elseBlock) vs) (isEnd : endWord.kind = .endWord) :
      Spelled
        (.statement
          (.conditional condition thenBlock elseBlock
            (Token.cover (word :: (ts ++ doWord :: (us ++ (vs ++ [endWord])))))))
        (word :: (ts ++ doWord :: (us ++ (vs ++ [endWord]))))
  | switch {word endWord : Token} {condition : Expr} {cases : List Case} {ts us : List Token}
      (isWord : word.kind = .switchWord) (subject : Spelled (.expression 0 condition) ts)
      (casesSpelled : Spelled (.cases cases) us) (isEnd : endWord.kind = .endWord) :
      Spelled
        (.statement
          (.switch condition cases (Token.cover (word :: (ts ++ (us ++ [endWord]))))))
        (word :: (ts ++ (us ++ [endWord])))
  | loop {word doWord endWord : Token} {condition : Expr} {body : List Stmt}
      {ts us : List Token} (isWord : word.kind = .whileWord)
      (test : Spelled (.expression 0 condition) ts) (isDo : doWord.kind = .doWord)
      (bodySpelled : Spelled (.block body) us) (isEnd : endWord.kind = .endWord) :
      Spelled
        (.statement
          (.loop condition body (Token.cover (word :: (ts ++ doWord :: (us ++ [endWord]))))))
        (word :: (ts ++ doWord :: (us ++ [endWord])))
  | result {word semicolon : Token} {value : Expr} {ts : List Token}
      (isWord : word.kind = .returnWord) (spelled : Spelled (.expression 0 value) ts)
      (ends : semicolon.kind = .semicolon) :
      Spelled (.statement (.result value (Token.cover (word :: (ts ++ [semicolon])))))
        (word :: (ts ++ [semicolon]))
  | noStatements : Spelled (.block []) []
  | statements {first : Stmt} {others : List Stmt} {ts us : List Token}
      (firstSpelled : Spelled (.statement first) ts)
      (othersSpelled : Spelled (.block others) us) :
      Spelled (.block (first :: others)) (ts ++ us)
  | defaultCase {word : Token} {body : List Stmt} {ts : List Token}
      (isWord : word.kind = .defaultWord) (bodySpelled : Spelled (.block body) ts) :
      Spelled (.cases [.mk none body (Token.cover (word :: ts))]) (word :: ts)
  | case {word colon : Token} {value : Expr} {body : List Stmt} {others : List Case}
      {ts us vs : List Token} (isWord : word.kind = .caseWord)
      (valueSpelled : Spelled (.expression 0 value) ts) (isColon : colon.kind = .colon)
      (bodySpelled : Spelled (.block body) us) (othersSpelled : Spelled (.cases others) vs) :
      Spelled
        (.cases (.mk (some value) body (Token.cover (word :: (ts ++ colon :: us))) :: others))
        (word :: (ts ++ colon :: us) ++ vs)
  | noAlternative : Spelled (.alternative []) []
  | alternative {word : Token} {body : List Stmt} {ts : List Token}
      (isWord : word.kind = .elseWord) (bodySpelled : Spelled (.block body) ts) :
      Spelled (.alternative body) (word :: ts)

namespace Parse

def startsValue (kind : Kind) : Bool :=
  isConstant kind || kind == .identifier || kind == .openParen

def startsStatement (kind : Kind) : Bool :=
  match kind with
  | .letWord | .switchWord | .ifWord | .whileWord | .returnWord => true
  | _ => startsValue kind

end Parse

namespace Spelled

theorem weaken {bound smaller : Nat} {e : Expr} {ts : List Token}
    (spelled : Spelled (.expression bound e) ts) (le : smaller ≤ bound) :
    Spelled (.expression smaller e) ts := by
  cases spelled with
  | literal reads => exact .literal reads
  | access isName => exact .access isName
  | element isName opens closes inner => exact .element isName opens closes inner
  | call isName opens closes inner => exact .call isName opens closes inner
  | group opens closes inner => exact .group opens closes inner
  | binary isOp binds left right =>
      exact .binary isOp (Nat.lt_of_le_of_lt le binds) left right

theorem expression_ne_nil {bound : Nat} {e : Expr} {ts : List Token}
    (spelled : Spelled (.expression bound e) ts) : ts ≠ [] := by
  cases spelled with
  | binary isOp binds left right =>
      exact List.append_ne_nil_of_right_ne_nil _ (List.cons_ne_nil _ _)
  | _ =>
      exact List.cons_ne_nil _ _

theorem span_eq_cover {bound : Nat} {e : Expr} {ts : List Token}
    (spelled : Spelled (.expression bound e) ts) : e.span = Token.cover ts := by
  cases spelled with
  | _ => rfl

theorem statement_ne_nil {s : Stmt} {ts : List Token} (spelled : Spelled (.statement s) ts) :
    ts ≠ [] := by
  cases spelled with
  | expressionStatement spelled ends =>
      exact List.append_ne_nil_of_right_ne_nil _ (List.cons_ne_nil _ _)
  | assignment receiver isEquals value ends =>
      exact List.append_ne_nil_of_right_ne_nil _ (List.cons_ne_nil _ _)
  | _ =>
      exact List.cons_ne_nil _ _

theorem span_binary {bound other : Nat} {left right : Expr} {token : Token}
    {ts us : List Token} (leftSpelled : Spelled (.expression bound left) ts)
    (rightSpelled : Spelled (.expression other right) us) :
    Token.cover (ts ++ token :: us) =
      { start := left.span.start, stop := right.span.stop } := by
  have rightNonempty := rightSpelled.expression_ne_nil
  rw [Token.cover_append leftSpelled.expression_ne_nil (List.cons_ne_nil _ _),
    ← List.singleton_append, Token.cover_append (List.cons_ne_nil _ _) rightNonempty,
    leftSpelled.span_eq_cover, rightSpelled.span_eq_cover]

theorem startsValue {bound : Nat} {e : Expr} {ts : List Token}
    (spelled : Spelled (.expression bound e) ts) :
    ∃ first others, ts = first :: others ∧ Parse.startsValue first.kind = true := by
  generalize pieceEq : Piece.expression bound e = piece at spelled
  induction spelled generalizing bound e with
  | literal reads =>
      refine ⟨_, _, rfl, ?_⟩
      unfold Parse.startsValue
      rw [Parse.isConstant_of_literalOf reads]
      rfl
  | access isName | element isName | call isName =>
      exact ⟨_, _, rfl, by rw [isName]; rfl⟩
  | group opens => exact ⟨_, _, rfl, by rw [opens]; rfl⟩
  | binary isOp binds left right leftHypothesis _ =>
      obtain ⟨first, others, rfl, starts⟩ := leftHypothesis rfl
      exact ⟨first, _, rfl, starts⟩
  | _ => cases pieceEq

theorem startsStatement {s : Stmt} {ts : List Token} (spelled : Spelled (.statement s) ts) :
    ∃ first others, ts = first :: others ∧ Parse.startsStatement first.kind = true := by
  have ofValue {e : Expr} {us more : List Token} (spelled : Spelled (.expression 0 e) us) :
      ∃ first others, us ++ more = first :: others ∧ Parse.startsStatement first.kind = true := by
    obtain ⟨first, others, rfl, starts⟩ := spelled.startsValue
    refine ⟨first, others ++ more, rfl, ?_⟩
    unfold Parse.startsStatement
    split
    · rfl
    · rfl
    · rfl
    · rfl
    · rfl
    · exact starts
  cases spelled with
  | expressionStatement spelled ends => exact ofValue spelled
  | assignment spelled isEquals value ends => exact ofValue spelled
  | declaration isWord | conditional isWord | switch isWord | loop isWord | result isWord =>
      exact ⟨_, _, rfl, by rw [isWord]; rfl⟩

end Spelled

/-! ### Declarations and programs -/

inductive ParameterSpelled : Parameter → List Token → Prop where
  | mk {name colon typeName : Token} (isName : name.kind = .identifier)
      (isColon : colon.kind = .colon) (isType : typeName.kind = .identifier) :
      ParameterSpelled { name := name.value, typeName := typeName.value }
        [name, colon, typeName]

inductive MoreParametersSpelled : List Parameter → List Token → Prop where
  | nil : MoreParametersSpelled [] []
  | cons {comma : Token} {first : Parameter} {others : List Parameter} {ts us : List Token}
      (isComma : comma.kind = .comma) (firstSpelled : ParameterSpelled first ts)
      (othersSpelled : MoreParametersSpelled others us) :
      MoreParametersSpelled (first :: others) (comma :: (ts ++ us))

inductive ParametersSpelled : List Parameter → List Token → Prop where
  | nil : ParametersSpelled [] []
  | cons {first : Parameter} {others : List Parameter} {ts us : List Token}
      (firstSpelled : ParameterSpelled first ts)
      (othersSpelled : MoreParametersSpelled others us) :
      ParametersSpelled (first :: others) (ts ++ us)

/-- What follows the name of a global that begins with the given word: its type and its value. -/
inductive GlobalBodySpelled : Kind → Option String → Option Expr → List Token → Prop where
  | list {colon typeName equals opening closing : Token} {elements : List Expr}
      {ts : List Token} (isColon : colon.kind = .colon) (isType : typeName.kind = .identifier)
      (isEquals : equals.kind = .assignment) (opens : opening.kind = .openBracket)
      (inner : Spelled (.items elements) ts) (closes : closing.kind = .closeBracket) :
      GlobalBodySpelled .listWord (some typeName.value)
        (some (.list elements (Token.cover (opening :: (ts ++ [closing]))) none))
        (colon :: typeName :: equals :: opening :: (ts ++ [closing]))
  | mutable {typeName : Option String} {value : Option Expr} {ts us : List Token}
      (typeMark : TypeMarkSpelled typeName ts)
      (initial : Spelled (.initializer value) us) :
      GlobalBodySpelled .varWord typeName value (ts ++ us)
  | immutable {equals : Token} {typeName : Option String} {value : Expr} {ts us : List Token}
      (typeMark : TypeMarkSpelled typeName ts) (isEquals : equals.kind = .assignment)
      (initial : Spelled (.expression 0 value) us) :
      GlobalBodySpelled .valWord typeName (some value) (ts ++ equals :: us)

inductive GlobalSpelled : GlobalDecl → List Token → Prop where
  | mk {word name semicolon : Token} {typeName : Option String} {value : Option Expr}
      {ts : List Token} (isName : name.kind = .identifier)
      (body : GlobalBodySpelled word.kind typeName value ts)
      (ends : semicolon.kind = .semicolon) :
      GlobalSpelled
        { name := name.value
          mutable := word.kind != .valWord
          isList := word.kind == .listWord
          typeName := typeName
          value := value
          span := Token.cover (word :: name :: (ts ++ [semicolon]))
          target := none }
        (word :: name :: (ts ++ [semicolon]))

inductive FunctionSpelled : FunctionDecl → List Token → Prop where
  | mk {word name opening closing doWord endWord : Token} {parameters : List Parameter}
      {typeName : Option String} {body : List Stmt} {ts us vs : List Token}
      (isWord : word.kind = .funWord) (isName : name.kind = .identifier)
      (opens : opening.kind = .openParen) (inner : ParametersSpelled parameters ts)
      (closes : closing.kind = .closeParen) (typeMark : TypeMarkSpelled typeName us)
      (isDo : doWord.kind = .doWord) (bodySpelled : Spelled (.block body) vs)
      (isEnd : endWord.kind = .endWord) :
      FunctionSpelled
        { name := name.value
          parameters := parameters
          returnTypeName := typeName
          body := body
          span :=
            Token.cover
              (word :: name :: opening ::
                (ts ++ closing :: (us ++ doWord :: (vs ++ [endWord]))))
          callee := none }
        (word :: name :: opening :: (ts ++ closing :: (us ++ doWord :: (vs ++ [endWord]))))

theorem GlobalBodySpelled.word_ne_eof {word : Kind} {typeName : Option String}
    {value : Option Expr} {ts : List Token} (spelled : GlobalBodySpelled word typeName value ts) :
    word ≠ .eof := by
  rintro rfl
  cases spelled

theorem GlobalSpelled.starts {g : GlobalDecl} {ts : List Token} (spelled : GlobalSpelled g ts) :
    ∃ word others, ts = word :: others ∧ Parse.startsGlobal word.kind = true := by
  cases spelled with
  | @mk word name semicolon typeName value ts isName body ends =>
      refine ⟨word, _, rfl, ?_⟩
      generalize word.kind = kind at body ⊢
      cases body with
      | list | mutable | immutable => rfl

theorem GlobalSpelled.ne_nil {g : GlobalDecl} {ts : List Token} (spelled : GlobalSpelled g ts) :
    ts ≠ [] := by
  cases spelled
  exact List.cons_ne_nil _ _

theorem FunctionSpelled.starts {f : FunctionDecl} {ts : List Token}
    (spelled : FunctionSpelled f ts) :
    ∃ word others, ts = word :: others ∧ word.kind = .funWord := by
  cases spelled with
  | mk isWord => exact ⟨_, _, rfl, isWord⟩

theorem FunctionSpelled.ne_nil {f : FunctionDecl} {ts : List Token}
    (spelled : FunctionSpelled f ts) : ts ≠ [] := by
  cases spelled
  exact List.cons_ne_nil _ _

/-- Each of the values in turn is spelled by the tokens. -/
inductive EachSpelled {α : Type} (spelled : α → List Token → Prop) :
    List α → List Token → Prop where
  | nil : EachSpelled spelled [] []
  | cons {first : α} {others : List α} {ts us : List Token} (firstSpelled : spelled first ts)
      (othersSpelled : EachSpelled spelled others us) :
      EachSpelled spelled (first :: others) (ts ++ us)

inductive SourceSpelled : Source → List Token → Prop where
  | mk {globals : List GlobalDecl} {functions : List FunctionDecl} {ts us : List Token}
      (globalsSpelled : EachSpelled GlobalSpelled globals ts)
      (functionsSpelled : EachSpelled FunctionSpelled functions us) :
      SourceSpelled
        { globals := globals
          functions := functions
          span := { start := 0, stop := (Token.cover (ts ++ us)).stop } }
        (ts ++ us)

end ScriptLang
