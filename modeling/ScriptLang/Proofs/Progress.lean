import ScriptLang.Proofs.Depth
import ScriptLang.Proofs.Precedence

/-!
Progress of the parser.

The cursor is moved by one operation after the other, whether these end well or not.  It is always
at one of the tokens and never goes back, and every operation ends: so few calls are open at any
time that nothing depends on what readers below them would do.
-/

namespace ScriptLang

namespace Cursor

def index (c : Cursor) : Nat :=
  c.passed.length

theorem getElem?_index (c : Cursor) : c.tokens[c.index]? = some c.current := by
  unfold tokens index
  rw [List.getElem?_append_right (by rw [List.length_reverse]), List.length_reverse, Nat.sub_self]
  rfl

theorem index_lt (c : Cursor) : c.index < c.tokens.length :=
  (List.getElem?_eq_some_iff.mp c.getElem?_index).1

theorem closed_ofAnyTokens (tokens : List Token) : (ofTokens tokens).Closed := by
  obtain ⟨before, last, tokensEq, isEnd, -⟩ := tokens_ofTokens tokens
  have allEq : (ofTokens tokens).passed.reverse ++ (ofTokens tokens).rest = before ++ [last] :=
    tokensEq
  exact closed_of_append allEq isEnd

namespace Moves

variable {c d : Cursor} {ts : List Token}

theorem tokens (moves : c.Moves ts d) : d.tokens = c.tokens := by
  have allEq (e : Cursor) : e.tokens = e.passed.reverse ++ e.rest := rfl
  rw [allEq, allEq, moves.passed, moves.rest, List.reverse_append, List.reverse_reverse,
    List.append_assoc]

theorem index (moves : c.Moves ts d) : d.index = ts.length + c.index := by
  unfold Cursor.index
  rw [moves.passed, List.length_append, List.length_reverse]

end Moves

end Cursor

namespace Parse

/-- What a parser can be asked to do: to pass a token, or to read a construct or one of the loops
that read lists of them. -/
inductive Operation : Type → Type where
  | advance : Operation Token
  | expect (kind : Kind) (detail : String) : Operation Token
  | primary : Operation Expr
  | expression (power : Power) : Operation Expr
  | operators (power : Power) (left : Expr) : Operation Expr
  | binary (left : Expr) (power : Power) : Operation Expr
  | operand : Operation Expr
  | symbol : Operation Expr
  | group : Operation Expr
  | list : Operation Expr
  | items (closing : Kind) : Operation (List Expr)
  | moreItems : Operation (List Expr)
  | statement : Operation Stmt
  | declaration : Operation Stmt
  | result : Operation Stmt
  | simpleStatement : Operation Stmt
  | block (closing : List Kind) : Operation (List Stmt)
  | switch : Operation Stmt
  | cases : Operation (List Case)
  | conditional : Operation Stmt
  | alternative : Operation (List Stmt)
  | loop : Operation Stmt
  | global : Operation GlobalDecl
  | globals : Operation (List GlobalDecl)
  | parameters : Operation (List Parameter)
  | moreParameters : Operation (List Parameter)
  | function : Operation FunctionDecl
  | functions : Operation (List FunctionDecl)
  | source : Operation Source

namespace Operation

variable {α : Type}

def withReaders (readers : Readers) : Operation α → Parse α
  | advance => Parse.advance
  | expect kind detail => expectOr kind detail
  | primary => Parse.primary
  | expression power => readers.expression power
  | operators power left => readers.operators power left
  | binary left power => readers.binary left power
  | operand => readers.operand
  | symbol => readers.symbol
  | group => readers.group
  | list => readers.list
  | items closing => readers.items closing
  | moreItems => readers.moreItems
  | statement => readers.statement
  | declaration => readers.declaration
  | result => readers.result
  | simpleStatement => readers.simpleStatement
  | block closing => readers.block closing
  | switch => readers.switch
  | cases => readers.cases
  | conditional => readers.conditional
  | alternative => readers.alternative
  | loop => readers.loop
  | global => readers.global
  | globals => readers.globals
  | parameters => readers.parameters
  | moreParameters => readers.moreParameters
  | function => readers.function
  | functions => readers.functions
  | source => readers.source

def reader (operation : Operation α) : Parse α :=
  fuelled fun fuel => operation.withReaders (.within fuel)

def after (operation : Operation α) (c : Cursor) : Cursor :=
  match operation.reader c with
  | .ok _ d => d
  | .error _ d => d

instance travels (operation : Operation α) (fuel : Nat) :
    Travels (operation.withReaders (.within fuel)) := by
  cases operation with
  | list => exact inferInstanceAs (Travels (listWithin fuel))
  | declaration => exact inferInstanceAs (Travels (declarationWithin fuel))
  | result => exact inferInstanceAs (Travels (resultWithin fuel))
  | simpleStatement => exact inferInstanceAs (Travels (simpleStatementWithin fuel))
  | global => exact inferInstanceAs (Travels (globalWithin fuel))
  | parameters => exact inferInstanceAs (Travels (parametersWithin fuel))
  | function => exact inferInstanceAs (Travels (functionWithin fuel))
  | source => exact inferInstanceAs (Travels (sourceWithin fuel))
  | _ => dsimp only [withReaders, Readers.within]; infer_instance

theorem coincides {readers : Readers} {fuel bound : Nat} (settled : readers.Settled fuel bound)
    (operation : Operation α) :
    Coincide 5 bound (operation.withReaders readers) (operation.withReaders (.within fuel)) := by
  cases operation with
  | advance | expect | primary => exact .refl _
  | expression power => exact (settled.expression power).mono (by decide)
  | operators power left => exact (settled.operators power left).mono (by decide)
  | binary left power => exact (settled.binary left power).mono (by decide)
  | operand => exact settled.operand.mono (by decide)
  | symbol => exact settled.symbol.mono (by decide)
  | group => exact settled.group.mono (by decide)
  | list => exact settled.list.mono (by decide)
  | items closing => exact (settled.items closing).mono (by decide)
  | moreItems => exact settled.moreItems.mono (by decide)
  | statement => exact settled.statement.mono (by decide)
  | declaration => exact settled.declaration.mono (by decide)
  | result => exact settled.result.mono (by decide)
  | simpleStatement => exact settled.simpleStatement.mono (by decide)
  | block closing => exact settled.block closing
  | switch => exact settled.switch.mono (by decide)
  | cases => exact settled.cases.mono (by decide)
  | conditional => exact settled.conditional.mono (by decide)
  | alternative => exact settled.alternative.mono (by decide)
  | loop => exact settled.loop.mono (by decide)
  | global => exact settled.global.mono (by decide)
  | globals => exact settled.globals.mono (by decide)
  | parameters => exact settled.parameters.mono (by decide)
  | moreParameters => exact settled.moreParameters.mono (by decide)
  | function => exact settled.function.mono (by decide)
  | functions => exact settled.functions.mono (by decide)
  | source => exact settled.source.mono (by decide)

theorem after_moves (operation : Operation α) (c : Cursor) :
    ∃ ts, c.Moves ts (operation.after c) := by
  have leads := (operation.travels (8 * (c.remaining + 1))).moves c
  unfold after
  cases ended : operation.reader c with
  | ok value d => exact leads.of_ok ended
  | error fault d => exact leads.of_error ended

theorem withReaders_unrolled (operation : Operation α) {c : Cursor} (closed : c.Closed)
    (bottom : Readers) {depth : Nat} (deep : 8 * (c.remaining + 1) ≤ depth) :
    operation.withReaders (bottom.unrolled depth) c = operation.reader c := by
  have settled : (bottom.unrolled depth).Settled (8 * (c.remaining + 1))
      (8 * (c.remaining + 1)) :=
    Readers.unrolled_settled bottom deep (Nat.le_refl _)
  exact operation.coincides settled c closed (by omega)

/-- The parser brings as much fuel as any amount that is larger: its readers are steps on top of
those without fuel, and nothing depends on these. -/
theorem withReaders_within (operation : Operation α) {c : Cursor} (closed : c.Closed) {fuel : Nat}
    (enough : 8 * (c.remaining + 1) ≤ fuel) :
    operation.withReaders (.within fuel) c = operation.reader c := by
  rw [Readers.within_eq_unrolled]
  exact operation.withReaders_unrolled closed _ enough

end Operation

/-- The cursor behind some operations, each of which starts where the one before it has ended or
failed. -/
def run (operations : List (Sigma Operation)) (c : Cursor) : Cursor :=
  operations.foldl (fun d operation => operation.2.after d) c

theorem run_moves (operations : List (Sigma Operation)) (c : Cursor) :
    ∃ ts, c.Moves ts (run operations c) := by
  induction operations generalizing c with
  | nil => exact ⟨[], .refl c⟩
  | cons operation operations inductionHypothesis =>
      obtain ⟨ts, first⟩ := operation.2.after_moves c
      obtain ⟨us, others⟩ := inductionHypothesis (operation.2.after c)
      exact ⟨ts ++ us, first.trans others⟩

theorem fuelled_forward {α : Type} {reader : Nat → Parse α}
    (advances : ∀ fuel, Advances (reader fuel)) {c d : Cursor} {value : α} (closed : c.Closed)
    (read : fuelled reader c = .ok value d) : c.index < d.index := by
  obtain ⟨ts, nonempty, moves⟩ :=
    ((advances (8 * (c.remaining + 1))).moves c closed).of_ok read
  rw [moves.index]
  have positive := List.length_pos_iff.mpr nonempty
  omega

/-- What holds of a cursor that operations have moved away from the start, and of any operation that
follows.  That an operation ends means that its calls nest no deeper than the tokens left account
for: at the bottom of that many calls there can be any readers, for they are never asked, and to
allow for more calls changes nothing. -/
structure Progress (start c : Cursor) : Prop where
  tokens : c.tokens = start.tokens
  inside : c.index < start.tokens.length
  current : start.tokens[c.index]? = some c.current
  forward : ∀ {α : Type} (operation : Operation α), c.index ≤ (operation.after c).index
  expression : ∀ power e d, Parse.expression power c = .ok e d → c.index < d.index
  statement : ∀ s d, Parse.statement c = .ok s d → c.index < d.index
  ends : ∀ {α : Type} (operation : Operation α) (bottom : Readers),
    operation.withReaders (bottom.unrolled (8 * (c.remaining + 1))) c = operation.reader c
  settles : ∀ {α : Type} (operation : Operation α) (fuel : Nat), 8 * (c.remaining + 1) ≤ fuel →
    operation.withReaders (.within fuel) c = operation.reader c

/-- Over any tokens, the cursor stays at one of them, never goes back, and is moved forward by each
expression and each statement that is read.  All operations end, and so does reading a program. -/
theorem progresses (tokens : List Token) :
    (∀ operations, Progress (.ofTokens tokens) (run operations (.ofTokens tokens))) ∧
      ∀ bottom : Readers,
        (bottom.unrolled (8 * ((Cursor.ofTokens tokens).remaining + 1))).source
          (.ofTokens tokens) = source (.ofTokens tokens) := by
  have startClosed := Cursor.closed_ofAnyTokens tokens
  refine ⟨fun operations => ?_, fun bottom =>
    Operation.source.withReaders_unrolled startClosed bottom (Nat.le_refl _)⟩
  obtain ⟨ts, moves⟩ := run_moves operations (.ofTokens tokens)
  have closed := moves.closed startClosed
  exact {
    tokens := moves.tokens
    inside := moves.tokens ▸ Cursor.index_lt _
    current := moves.tokens ▸ Cursor.getElem?_index _
    forward := fun operation => by
      obtain ⟨us, further⟩ := operation.after_moves (run operations (.ofTokens tokens))
      rw [further.index]
      exact Nat.le_add_left _ _
    expression := fun power e d read =>
      fuelled_forward (fun fuel => inferInstanceAs (Advances (expressionWithin fuel power)))
        closed read
    statement := fun s d read =>
      fuelled_forward (fun fuel => inferInstanceAs (Advances (statementWithin fuel)))
        closed read
    ends := fun operation bottom => operation.withReaders_unrolled closed bottom (Nat.le_refl _)
    settles := fun operation _ => operation.withReaders_within closed }

/-- An end of source in the middle is passed, and the last one is not. -/
example : (run [⟨_, .advance⟩, ⟨_, .statement⟩, ⟨_, .advance⟩]
    (.ofTokens [Token.endOfSource 0, Token.endOfSource 0])).index = 1 := by
  decide

end Parse
end ScriptLang
