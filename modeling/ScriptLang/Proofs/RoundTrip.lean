import ScriptLang.Proofs.Acceptance
import ScriptLang.Proofs.RenderedWords

/-!
What is written is read back.

Tokens that carry the words of a canonical tree spell this tree, with places of their own.  The
scanner finds such tokens in the text of the tree, so the text is read as the same tree up to
places.
-/

namespace ScriptLang

/-! ### Tokens that carry words -/

def Carry (tokens : List Token) (words : List Word) : Prop :=
  tokens.map Token.word = words

theorem carry_nil {tokens : List Token} : Carry tokens [] ↔ tokens = [] :=
  List.map_eq_nil_iff

theorem carry_cons {tokens : List Token} {word : Word} {words : List Word} :
    Carry tokens (word :: words) ↔
      ∃ token others, tokens = token :: others ∧ token.word = word ∧ Carry others words :=
  List.map_eq_cons_iff

theorem carry_append {tokens : List Token} {words others : List Word} :
    Carry tokens (words ++ others) ↔
      ∃ ts us, tokens = ts ++ us ∧ Carry ts words ∧ Carry us others :=
  List.map_eq_append_iff

variable {token : Token}

theorem Token.kind_of_word {kind : Kind} (isWord : token.word = .fixed kind) :
    token.kind = kind :=
  congrArg Word.kind isWord

theorem Token.kind_of_name {name : String} (isWord : token.word = .name name) :
    token.kind = .identifier :=
  congrArg Word.kind isWord

theorem Token.value_of_name {name : String} (isWord : token.word = .name name) :
    token.value = name :=
  congrArg Word.value isWord

theorem Literal.literalOf_word {value : Literal} (canonical : value.Canonical)
    (isWord : token.word = value.word) : Parse.literalOf token = .ok value := by
  have kindEq : token.kind = value.word.kind := congrArg Word.kind isWord
  have valueEq : token.value = value.word.value := congrArg Word.value isWord
  unfold Parse.literalOf
  rw [kindEq, valueEq]
  cases value with
  | nil => rfl
  | boolean truth =>
      cases truth with
      | true => rfl
      | false => rfl
  | character c =>
      have textEq : c.toString.toList = [c] := String.toList_singleton c
      simp only [Literal.word, textEq]
  | string text => rfl
  | integer n => simp only [Literal.word, Numeral.integer?_display canonical]
  | decimal d =>
      obtain ⟨nonnegative, positive, inRange⟩ := canonical
      obtain ⟨whole, fraction, _, _, textEq, readBack⟩ :=
        Value.display_decimal nonnegative positive inRange
      simp only [Literal.word, textEq, readBack]

/-! ### Expressions -/

mutual

theorem Expr.spelled_of_carried (e : Expr) {bound : Nat} (canonical : e.Canonical bound)
    {ts : List Token} (carried : Carry ts e.words) :
    ∃ read, Spelled (.expression bound read) ts ∧ read.withoutSpans = e.withoutSpans := by
  cases e with
  | literal value span ty =>
      obtain ⟨valueCanonical, rfl⟩ := canonical
      simp only [Expr.words, carry_cons, carry_nil] at carried
      obtain ⟨token, _, rfl, isWord, rfl⟩ := carried
      exact ⟨_, .literal (Literal.literalOf_word valueCanonical isWord), rfl⟩
  | group inner span ty =>
      obtain ⟨innerCanonical, rfl⟩ := canonical
      simp only [Expr.words, carry_cons, carry_append, carry_nil] at carried
      obtain ⟨opening, _, rfl, opens, ts, _, rfl, innerCarried, closing, _, rfl, closes, rfl⟩ :=
        carried
      obtain ⟨read, spelled, same⟩ := inner.spelled_of_carried innerCanonical innerCarried
      refine ⟨_, .group (Token.kind_of_word opens) (Token.kind_of_word closes) spelled, ?_⟩
      simp only [Expr.withoutSpans, same]
  | binary op left right span ty =>
      obtain ⟨binds, leftCanonical, rightCanonical, rfl⟩ := canonical
      simp only [Expr.words, carry_cons, carry_append] at carried
      obtain ⟨ts, _, rfl, leftCarried, token, us, rfl, isWord, rightCarried⟩ := carried
      obtain ⟨leftRead, leftSpelled, leftSame⟩ := left.spelled_of_carried leftCanonical leftCarried
      obtain ⟨rightRead, rightSpelled, rightSame⟩ :=
        right.spelled_of_carried rightCanonical rightCarried
      have isOp : BinaryOp.ofKind? token.kind = some op := by
        rw [Token.kind_of_word isWord, BinaryOp.ofKind?_kind]
      refine ⟨_, .binary isOp binds leftSpelled rightSpelled, ?_⟩
      simp only [Expr.withoutSpans, leftSame, rightSame]
  | access name span ty target =>
      obtain ⟨_, rfl, rfl⟩ := canonical
      simp only [Expr.words, carry_cons, carry_nil] at carried
      obtain ⟨token, _, rfl, isWord, rfl⟩ := carried
      refine ⟨_, .access (Token.kind_of_name isWord), ?_⟩
      simp only [Expr.withoutSpans, Token.value_of_name isWord]
  | element name index span ty target =>
      obtain ⟨_, indexCanonical, rfl, rfl⟩ := canonical
      simp only [Expr.words, carry_cons, carry_append, carry_nil] at carried
      obtain ⟨nameToken, _, rfl, isWord, opening, _, rfl, opens, ts, _, rfl, indexCarried, closing,
        _, rfl, closes, rfl⟩ := carried
      obtain ⟨read, spelled, same⟩ := index.spelled_of_carried indexCanonical indexCarried
      refine ⟨_, .element (Token.kind_of_name isWord) (Token.kind_of_word opens)
        (Token.kind_of_word closes) spelled, ?_⟩
      simp only [Expr.withoutSpans, same, Token.value_of_name isWord]
  | call name arguments span ty callee =>
      obtain ⟨_, argumentsCanonical, rfl, rfl⟩ := canonical
      simp only [Expr.words, carry_cons, carry_append, carry_nil] at carried
      obtain ⟨nameToken, _, rfl, isWord, opening, _, rfl, opens, ts, _, rfl, argumentsCarried,
        closing, _, rfl, closes, rfl⟩ := carried
      obtain ⟨read, spelled, same⟩ := items_of_carried arguments argumentsCanonical argumentsCarried
      refine ⟨_, .call (Token.kind_of_name isWord) (Token.kind_of_word opens)
        (Token.kind_of_word closes) spelled, ?_⟩
      simp only [Expr.withoutSpans, same, Token.value_of_name isWord]
  | list elements span ty => exact canonical.elim

theorem items_of_carried (es : List Expr) (canonical : AllCanonical es) {ts : List Token}
    (carried : Carry ts (itemWords es)) :
    ∃ read, Spelled (.items read) ts ∧ allWithoutSpans read = allWithoutSpans es := by
  cases es with
  | nil =>
      cases carry_nil.mp carried
      exact ⟨[], .noItems, rfl⟩
  | cons first rest =>
      obtain ⟨ts, us, rfl, firstCarried, restCarried⟩ := carry_append.mp carried
      obtain ⟨firstRead, firstSpelled, firstSame⟩ :=
        first.spelled_of_carried canonical.1 firstCarried
      obtain ⟨restRead, restSpelled, restSame⟩ := moreItems_of_carried rest canonical.2 restCarried
      refine ⟨_, .items firstSpelled restSpelled, ?_⟩
      simp only [allWithoutSpans, firstSame, restSame]

theorem moreItems_of_carried (es : List Expr) (canonical : AllCanonical es) {ts : List Token}
    (carried : Carry ts (moreItemWords es)) :
    ∃ read, Spelled (.moreItems read) ts ∧ allWithoutSpans read = allWithoutSpans es := by
  cases es with
  | nil =>
      cases carry_nil.mp carried
      exact ⟨[], .noMoreItems, rfl⟩
  | cons first rest =>
      simp only [moreItemWords, carry_cons, carry_append] at carried
      obtain ⟨comma, _, rfl, isComma, ts, us, rfl, firstCarried, restCarried⟩ := carried
      obtain ⟨firstRead, firstSpelled, firstSame⟩ :=
        first.spelled_of_carried canonical.1 firstCarried
      obtain ⟨restRead, restSpelled, restSame⟩ := moreItems_of_carried rest canonical.2 restCarried
      refine ⟨_, .moreItems (Token.kind_of_word isComma) firstSpelled restSpelled, ?_⟩
      simp only [allWithoutSpans, firstSame, restSame]

end

/-! ### Statements -/

theorem typeMark_of_carried {typeName : Option String} {ts : List Token}
    (carried : Carry ts (typeWords typeName)) : TypeMarkSpelled typeName ts := by
  cases typeName with
  | none =>
      cases carry_nil.mp carried
      exact .none
  | some name =>
      simp only [typeWords, carry_cons, carry_nil] at carried
      obtain ⟨colon, _, rfl, isColon, token, _, rfl, isWord, rfl⟩ := carried
      rw [← Token.value_of_name isWord]
      exact .some (Token.kind_of_word isColon) (Token.kind_of_name isWord)

theorem initializer_of_carried {value : Option Expr} (canonical : OptionCanonical value)
    {ts : List Token} (carried : Carry ts (initializerWords value)) :
    ∃ read, Spelled (.initializer read) ts ∧
      read.map Expr.withoutSpans = value.map Expr.withoutSpans := by
  cases value with
  | none =>
      cases carry_nil.mp carried
      exact ⟨none, .noInitializer, rfl⟩
  | some e =>
      obtain ⟨equals, ts, rfl, isEquals, valueCarried⟩ := carry_cons.mp carried
      obtain ⟨read, spelled, same⟩ := e.spelled_of_carried (canonical e rfl) valueCarried
      refine ⟨some read, .initializer (Token.kind_of_word isEquals) spelled, ?_⟩
      rw [Option.map_some, Option.map_some, same]

/-- The block behind an `ELSE` is read as blocks are; without an `ELSE` there is no block. -/
theorem alternative_of_carried {b : List Stmt}
    (blockReads : ∀ ts, Carry ts (blockWords b) →
      ∃ read, Spelled (.block read) ts ∧ blockWithoutSpans read = blockWithoutSpans b)
    {ts : List Token} (carried : Carry ts (alternativeWords b)) :
    ∃ read, Spelled (.alternative read) ts ∧ blockWithoutSpans read = blockWithoutSpans b := by
  cases b with
  | nil =>
      rw [alternativeWords] at carried
      cases carry_nil.mp carried
      exact ⟨[], .noAlternative, rfl⟩
  | cons first rest =>
      rw [alternativeWords] at carried
      obtain ⟨word, ts, rfl, isWord, blockCarried⟩ := carry_cons.mp carried
      rw [blockWords] at blockReads
      obtain ⟨read, spelled, same⟩ := blockReads ts blockCarried
      exact ⟨read, .alternative (Token.kind_of_word isWord) spelled, same⟩

mutual

theorem Stmt.spelled_of_carried (s : Stmt) (canonical : s.Canonical) {ts : List Token}
    (carried : Carry ts s.words) :
    ∃ read, Spelled (.statement read) ts ∧ read.withoutSpans = s.withoutSpans := by
  cases s with
  | expression value span =>
      simp only [Stmt.words, carry_cons, carry_append, carry_nil] at carried
      obtain ⟨ts, _, rfl, valueCarried, semicolon, _, rfl, ends, rfl⟩ := carried
      obtain ⟨read, spelled, same⟩ := value.spelled_of_carried canonical valueCarried
      refine ⟨_, .expressionStatement spelled (Token.kind_of_word ends), ?_⟩
      simp only [Stmt.withoutSpans, same]
  | declaration name typeName value span target =>
      obtain ⟨_, _, initialCanonical, rfl⟩ := canonical
      simp only [Stmt.words, carry_cons, carry_append, carry_nil] at carried
      obtain ⟨word, _, rfl, isWord, nameToken, _, rfl, isName, ts, _, rfl, typeCarried, us, _, rfl,
        initialCarried, semicolon, _, rfl, ends, rfl⟩ := carried
      obtain ⟨read, spelled, same⟩ := initializer_of_carried initialCanonical initialCarried
      refine ⟨_, .declaration (Token.kind_of_word isWord) (Token.kind_of_name isName)
        (typeMark_of_carried typeCarried) spelled (Token.kind_of_word ends), ?_⟩
      simp only [Stmt.withoutSpans, same, Token.value_of_name isName]
  | assignment receiver value span =>
      simp only [Stmt.words, carry_cons, carry_append, carry_nil] at carried
      obtain ⟨ts, _, rfl, receiverCarried, equals, _, rfl, isEquals, us, _, rfl, valueCarried,
        semicolon, _, rfl, ends, rfl⟩ := carried
      obtain ⟨receiverRead, receiverSpelled, receiverSame⟩ :=
        receiver.spelled_of_carried canonical.1 receiverCarried
      obtain ⟨valueRead, valueSpelled, valueSame⟩ :=
        value.spelled_of_carried canonical.2 valueCarried
      refine ⟨_, .assignment receiverSpelled (Token.kind_of_word isEquals) valueSpelled
        (Token.kind_of_word ends), ?_⟩
      simp only [Stmt.withoutSpans, receiverSame, valueSame]
  | conditional condition thenBlock elseBlock span =>
      obtain ⟨testCanonical, thenCanonical, elseCanonical⟩ := canonical
      have elseReads (ts : List Token) (carried : Carry ts (blockWords elseBlock)) :=
        block_of_carried elseBlock elseCanonical carried
      simp only [Stmt.words, carry_cons, carry_append, carry_nil] at carried
      obtain ⟨word, _, rfl, isWord, ts, _, rfl, testCarried, doToken, _, rfl, isDo, us, _, rfl,
        thenCarried, vs, _, rfl, elseCarried, endToken, _, rfl, isEnd, rfl⟩ := carried
      obtain ⟨testRead, testSpelled, testSame⟩ :=
        condition.spelled_of_carried testCanonical testCarried
      obtain ⟨thenRead, thenSpelled, thenSame⟩ :=
        block_of_carried thenBlock thenCanonical thenCarried
      obtain ⟨elseRead, elseSpelled, elseSame⟩ := alternative_of_carried elseReads elseCarried
      refine ⟨_, .conditional (Token.kind_of_word isWord) testSpelled (Token.kind_of_word isDo)
        thenSpelled elseSpelled (Token.kind_of_word isEnd), ?_⟩
      simp only [Stmt.withoutSpans, testSame, thenSame, elseSame]
  | switch condition cases span =>
      simp only [Stmt.words, carry_cons, carry_append, carry_nil] at carried
      obtain ⟨word, _, rfl, isWord, ts, _, rfl, subjectCarried, us, _, rfl, casesCarried, endToken,
        _, rfl, isEnd, rfl⟩ := carried
      obtain ⟨subjectRead, subjectSpelled, subjectSame⟩ :=
        condition.spelled_of_carried canonical.1 subjectCarried
      obtain ⟨casesRead, casesSpelled, casesSame⟩ := cases_of_carried cases canonical.2 casesCarried
      refine ⟨_, .switch (Token.kind_of_word isWord) subjectSpelled casesSpelled
        (Token.kind_of_word isEnd), ?_⟩
      simp only [Stmt.withoutSpans, subjectSame, casesSame]
  | loop condition body span =>
      simp only [Stmt.words, carry_cons, carry_append, carry_nil] at carried
      obtain ⟨word, _, rfl, isWord, ts, _, rfl, testCarried, doToken, _, rfl, isDo, us, _, rfl,
        bodyCarried, endToken, _, rfl, isEnd, rfl⟩ := carried
      obtain ⟨testRead, testSpelled, testSame⟩ :=
        condition.spelled_of_carried canonical.1 testCarried
      obtain ⟨bodyRead, bodySpelled, bodySame⟩ := block_of_carried body canonical.2 bodyCarried
      refine ⟨_, .loop (Token.kind_of_word isWord) testSpelled (Token.kind_of_word isDo)
        bodySpelled (Token.kind_of_word isEnd), ?_⟩
      simp only [Stmt.withoutSpans, testSame, bodySame]
  | result value span =>
      simp only [Stmt.words, carry_cons, carry_append, carry_nil] at carried
      obtain ⟨word, _, rfl, isWord, ts, _, rfl, valueCarried, semicolon, _, rfl, ends, rfl⟩ :=
        carried
      obtain ⟨read, spelled, same⟩ := value.spelled_of_carried canonical valueCarried
      refine ⟨_, .result (Token.kind_of_word isWord) spelled (Token.kind_of_word ends), ?_⟩
      simp only [Stmt.withoutSpans, same]

theorem block_of_carried (b : List Stmt) (canonical : BlockCanonical b) {ts : List Token}
    (carried : Carry ts (blockWords b)) :
    ∃ read, Spelled (.block read) ts ∧ blockWithoutSpans read = blockWithoutSpans b := by
  cases b with
  | nil =>
      rw [blockWords] at carried
      cases carry_nil.mp carried
      exact ⟨[], .noStatements, rfl⟩
  | cons first rest =>
      rw [blockWords] at carried
      obtain ⟨ts, us, rfl, firstCarried, restCarried⟩ := carry_append.mp carried
      obtain ⟨firstRead, firstSpelled, firstSame⟩ :=
        first.spelled_of_carried canonical.1 firstCarried
      obtain ⟨restRead, restSpelled, restSame⟩ := block_of_carried rest canonical.2 restCarried
      refine ⟨_, .statements firstSpelled restSpelled, ?_⟩
      simp only [blockWithoutSpans, firstSame, restSame]

theorem cases_of_carried (cs : List Case) (canonical : CasesCanonical cs) {ts : List Token}
    (carried : Carry ts (caseWords cs)) :
    ∃ read, Spelled (.cases read) ts ∧ casesWithoutSpans read = casesWithoutSpans cs := by
  cases cs with
  | nil => exact canonical.elim
  | cons first rest =>
      obtain ⟨value, body, span⟩ := first
      cases value with
      | none =>
          obtain ⟨bodyCanonical, rfl⟩ := canonical
          simp only [caseWords, List.append_nil, carry_cons] at carried
          obtain ⟨word, ts, rfl, isWord, bodyCarried⟩ := carried
          obtain ⟨read, spelled, same⟩ := block_of_carried body bodyCanonical bodyCarried
          refine ⟨_, .defaultCase (Token.kind_of_word isWord) spelled, ?_⟩
          simp only [casesWithoutSpans, same, Option.map_none]
      | some value =>
          obtain ⟨valueCanonical, bodyCanonical, restCanonical⟩ := canonical
          simp only [caseWords, carry_append, carry_cons] at carried
          obtain ⟨_, vs, rfl, ⟨word, _, rfl, isWord, ts, _, rfl, valueCarried, colon, us, rfl,
            isColon, bodyCarried⟩, restCarried⟩ := carried
          obtain ⟨valueRead, valueSpelled, valueSame⟩ :=
            value.spelled_of_carried valueCanonical valueCarried
          obtain ⟨bodyRead, bodySpelled, bodySame⟩ :=
            block_of_carried body bodyCanonical bodyCarried
          obtain ⟨restRead, restSpelled, restSame⟩ :=
            cases_of_carried rest restCanonical restCarried
          refine ⟨_, .case (Token.kind_of_word isWord) valueSpelled (Token.kind_of_word isColon)
            bodySpelled restSpelled, ?_⟩
          simp only [casesWithoutSpans, valueSame, bodySame, restSame, Option.map_some]

end

/-! ### Declarations and programs -/

theorem GlobalDecl.spelled_of_carried (global : GlobalDecl) (canonical : global.Canonical)
    {ts : List Token} (carried : Carry ts global.words) :
    ∃ read, GlobalSpelled read ts ∧ read.withoutSpans = global.withoutSpans := by
  cases canonical with
  | list isName isType each =>
      simp only [GlobalDecl.words, typeWords, initializerWords, Expr.words, List.cons_append,
        List.nil_append, List.append_assoc, carry_append, carry_cons, carry_nil] at carried
      obtain ⟨word, _, rfl, isWord, nameToken, _, rfl, isName, colon, _, rfl, isColon, typeToken, _,
        rfl, isType, equals, _, rfl, isEquals, opening, _, rfl, opens, ts, _, rfl, elementsCarried,
        closing, _, rfl, closes, semicolon, _, rfl, ends, rfl⟩ := carried
      obtain ⟨read, spelled, same⟩ := items_of_carried _ each elementsCarried
      have wordKind : word.kind = .listWord := Token.kind_of_word isWord
      have body := GlobalBodySpelled.list (Token.kind_of_word isColon)
        (Token.kind_of_name isType) (Token.kind_of_word isEquals) (Token.kind_of_word opens)
        spelled (Token.kind_of_word closes)
      rw [← wordKind] at body
      have global := GlobalSpelled.mk (Token.kind_of_name isName) body (Token.kind_of_word ends)
      simp only [List.cons_append, List.append_assoc] at global
      refine ⟨_, global, ?_⟩
      simp only [GlobalDecl.withoutSpans, Option.map_some, Expr.withoutSpans, same,
        Token.value_of_name isName, Token.value_of_name isType, wordKind]
      rfl
  | mutable isName isType initial =>
      simp only [GlobalDecl.words, carry_append, carry_cons, carry_nil] at carried
      obtain ⟨word, _, rfl, isWord, nameToken, _, rfl, isName, _, _, rfl,
        ⟨ts, us, rfl, typeCarried, initialCarried⟩, semicolon, _, rfl, ends, rfl⟩ := carried
      obtain ⟨read, spelled, same⟩ := initializer_of_carried initial initialCarried
      have wordKind : word.kind = .varWord := Token.kind_of_word isWord
      have body := GlobalBodySpelled.mutable (typeMark_of_carried typeCarried) spelled
      rw [← wordKind] at body
      refine ⟨_, .mk (Token.kind_of_name isName) body (Token.kind_of_word ends), ?_⟩
      simp only [GlobalDecl.withoutSpans, same, Token.value_of_name isName, wordKind]
      rfl
  | immutable isName isType initial =>
      simp only [GlobalDecl.words, initializerWords, carry_append, carry_cons, carry_nil] at carried
      obtain ⟨word, _, rfl, isWord, nameToken, _, rfl, isName, _, _, rfl,
        ⟨ts, _, rfl, typeCarried, equals, us, rfl, isEquals, valueCarried⟩, semicolon, _, rfl, ends,
        rfl⟩ := carried
      obtain ⟨read, spelled, same⟩ := Expr.spelled_of_carried _ initial valueCarried
      have wordKind : word.kind = .valWord := Token.kind_of_word isWord
      have body := GlobalBodySpelled.immutable (typeMark_of_carried typeCarried)
        (Token.kind_of_word isEquals) spelled
      rw [← wordKind] at body
      refine ⟨_, .mk (Token.kind_of_name isName) body (Token.kind_of_word ends), ?_⟩
      simp only [GlobalDecl.withoutSpans, Option.map_some, same, Token.value_of_name isName,
        wordKind]
      rfl

theorem Parameter.spelled_of_carried (parameter : Parameter) {ts : List Token}
    (carried : Carry ts parameter.words) : ParameterSpelled parameter ts := by
  simp only [Parameter.words, carry_cons, carry_nil] at carried
  obtain ⟨nameToken, _, rfl, isName, colon, _, rfl, isColon, typeToken, _, rfl, isType, rfl⟩ :=
    carried
  have spelled := ParameterSpelled.mk (Token.kind_of_name isName) (Token.kind_of_word isColon)
    (Token.kind_of_name isType)
  rw [Token.value_of_name isName, Token.value_of_name isType] at spelled
  exact spelled

theorem moreParameters_of_carried (parameters : List Parameter) {ts : List Token}
    (carried : Carry ts (parameters.flatMap fun parameter => .fixed .comma :: parameter.words)) :
    MoreParametersSpelled parameters ts := by
  induction parameters generalizing ts with
  | nil =>
      cases carry_nil.mp carried
      exact .nil
  | cons first rest inductionHypothesis =>
      simp only [List.flatMap_cons, List.cons_append, carry_cons, carry_append] at carried
      obtain ⟨comma, _, rfl, isComma, ts, us, rfl, firstCarried, restCarried⟩ := carried
      exact .cons (Token.kind_of_word isComma) (first.spelled_of_carried firstCarried)
        (inductionHypothesis restCarried)

theorem parameters_of_carried (parameters : List Parameter) {ts : List Token}
    (carried : Carry ts (parameterWords parameters)) : ParametersSpelled parameters ts := by
  cases parameters with
  | nil =>
      cases carry_nil.mp carried
      exact .nil
  | cons first rest =>
      obtain ⟨ts, us, rfl, firstCarried, restCarried⟩ := carry_append.mp carried
      exact .cons (first.spelled_of_carried firstCarried)
        (moreParameters_of_carried rest restCarried)

theorem FunctionDecl.spelled_of_carried (function : FunctionDecl)
    (canonical : function.Canonical) {ts : List Token} (carried : Carry ts function.words) :
    ∃ read, FunctionSpelled read ts ∧ read.withoutSpans = function.withoutSpans := by
  simp only [FunctionDecl.words, carry_append, carry_cons, carry_nil] at carried
  obtain ⟨word, _, rfl, isWord, nameToken, _, rfl, isName, opening, _, rfl, opens, ts, _, rfl,
    parametersCarried, closing, _, rfl, closes, us, _, rfl, typeCarried, doToken, _, rfl, isDo, vs,
    _, rfl, bodyCarried, endToken, _, rfl, isEnd, rfl⟩ := carried
  obtain ⟨read, spelled, same⟩ := block_of_carried function.body canonical.body bodyCarried
  refine ⟨_, .mk (Token.kind_of_word isWord) (Token.kind_of_name isName) (Token.kind_of_word opens)
    (parameters_of_carried _ parametersCarried) (Token.kind_of_word closes)
    (typeMark_of_carried typeCarried) (Token.kind_of_word isDo) spelled
    (Token.kind_of_word isEnd), ?_⟩
  simp only [FunctionDecl.withoutSpans, same, Token.value_of_name isName,
    canonical.undecorated]

theorem each_of_carried {α : Type} {spelled : α → List Token → Prop} {words : α → List Word}
    (plain : α → α) {good : α → Prop}
    (each : ∀ value ts, good value → Carry ts (words value) →
      ∃ read, spelled read ts ∧ plain read = plain value)
    (values : List α) (holds : ∀ value ∈ values, good value) {ts : List Token}
    (carried : Carry ts (values.flatMap words)) :
    ∃ read, EachSpelled spelled read ts ∧ read.map plain = values.map plain := by
  induction values generalizing ts with
  | nil =>
      cases carry_nil.mp carried
      exact ⟨[], .nil, rfl⟩
  | cons first rest inductionHypothesis =>
      obtain ⟨firstHolds, restHolds⟩ := List.forall_mem_cons.mp holds
      rw [List.flatMap_cons] at carried
      obtain ⟨ts, us, rfl, firstCarried, restCarried⟩ := carry_append.mp carried
      obtain ⟨firstRead, firstSpelled, firstSame⟩ := each first ts firstHolds firstCarried
      obtain ⟨restRead, restSpelled, restSame⟩ := inductionHypothesis restHolds restCarried
      refine ⟨_, .cons firstSpelled restSpelled, ?_⟩
      rw [List.map_cons, List.map_cons, firstSame, restSame]

theorem Source.spelled_of_carried {source : Source} (canonical : source.Canonical)
    {ts : List Token} (carried : Carry ts source.words) :
    ∃ read, SourceSpelled read ts ∧ read.withoutSpans = source.withoutSpans := by
  obtain ⟨ts, us, rfl, globalsCarried, functionsCarried⟩ := carry_append.mp carried
  obtain ⟨globals, globalsSpelled, globalsSame⟩ :=
    each_of_carried GlobalDecl.withoutSpans
      (fun global _ isCanonical carried => global.spelled_of_carried isCanonical carried)
      source.globals canonical.globals globalsCarried
  obtain ⟨functions, functionsSpelled, functionsSame⟩ :=
    each_of_carried FunctionDecl.withoutSpans
      (fun function _ isCanonical carried => function.spelled_of_carried isCanonical carried)
      source.functions canonical.functions functionsCarried
  refine ⟨_, .mk globalsSpelled functionsSpelled, ?_⟩
  simp only [Source.withoutSpans, globalsSame, functionsSame]

/-- The text of a canonical tree, whatever the blanks between its words, is read as the same
tree up to places. -/
theorem Source.parse_render {source : Source} (canonical : source.Canonical)
    (spacing : Spacing) :
    ∃ read, Source.parse (source.render spacing) = .ok read ∧
      read.withoutSpans = source.withoutSpans := by
  obtain ⟨tokens, last, scanned, carried, isEnd⟩ :=
    Token.scanFrom_write spacing source.words (Source.words_wellFormed canonical) 0 0
  obtain ⟨read, spelled, same⟩ := Source.spelled_of_carried canonical carried
  refine ⟨read, ?_, same⟩
  have scannedText : Token.scan (source.render spacing) = .ok (tokens ++ [last]) := by
    unfold Token.scan Source.render
    rw [String.toList_ofList, scanned]
  unfold Source.parse
  rw [scannedText]
  exact Parse.accepts_of_spelled tokens isEnd spelled

/-- `VAL text = "é\"\n";` and `VAR rest: Decimal = 0.05 * (1.5 - 0.25);`, each in a line. -/
def Source.roundTripSample : Source :=
  { globals :=
      [{ name := "text"
         mutable := false
         isList := false
         typeName := none
         value := some (.literal (.string "é\"\n") .none none)
         span := .none
         target := none },
       { name := "rest"
         mutable := true
         isList := false
         typeName := some "Decimal"
         value :=
           some
             (.binary .multiply
               (.literal (.decimal { digits := 5, scale := 2 }) .none none)
               (.group
                 (.binary .subtract
                   (.literal (.decimal { digits := 15, scale := 1 }) .none none)
                   (.literal (.decimal { digits := 25, scale := 2 }) .none none)
                   .none none)
                 .none none)
               .none none)
         span := .none
         target := none }]
    functions := []
    span := .none }

theorem Source.roundTripSample_canonical : Source.roundTripSample.Canonical := by
  have textName : IsName "text" :=
    ⟨⟨'t', ['e', 'x', 't'], rfl, rfl, List.all_eq_true.mp rfl⟩, by decide +kernel⟩
  have restName : IsName "rest" :=
    ⟨⟨'r', ['e', 's', 't'], rfl, rfl, List.all_eq_true.mp rfl⟩, by decide +kernel⟩
  have decimalName : IsName "Decimal" :=
    ⟨⟨'D', ['e', 'c', 'i', 'm', 'a', 'l'], rfl, rfl, List.all_eq_true.mp rfl⟩, by decide +kernel⟩
  have isType : OptionName (some "Decimal") := by
    rintro name ⟨⟩
    exact decimalName
  refine ⟨List.forall_mem_cons.mpr ⟨?_, List.forall_mem_singleton.mpr ?_⟩, ?_⟩
  · refine .immutable textName ?_ ⟨trivial, rfl⟩
    rintro name ⟨⟩
  · refine .mutable restName isType ?_
    rintro e ⟨⟩
    have scaled {digits scale : Int} (nonnegative : 0 ≤ digits) (positive : 1 ≤ scale)
        (inRange : Numeral.isScale scale = true) :
        Expr.Canonical 3 (.literal (.decimal { digits := digits, scale := scale }) .none none) :=
      ⟨⟨nonnegative, positive, inRange⟩, rfl⟩
    exact ⟨by decide, scaled (by decide) (by decide) rfl,
      ⟨⟨by decide, scaled (by decide) (by decide) rfl, scaled (by decide) (by decide) rfl, rfl⟩,
        rfl⟩, rfl⟩
  · exact fun _ member => absurd member List.not_mem_nil

theorem Source.parse_render_sample :
    Source.roundTripSample.Canonical ∧
      ∃ read, Source.parse (Source.roundTripSample.render .single) = .ok read ∧
        read.withoutSpans = Source.roundTripSample.withoutSpans :=
  ⟨Source.roundTripSample_canonical, Source.parse_render Source.roundTripSample_canonical .single⟩

end ScriptLang
