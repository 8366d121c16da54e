import ScriptLang.Proofs.Grammar
import ScriptLang.Proofs.Spelled

/-!
Derivations spell trees.

A derivation says only which kinds of tokens follow each other.  Tokens of these kinds whose
texts are well formed spell a tree: each rule of the grammar builds the tree of its symbol from
the trees of the symbols on its right side.
-/

namespace ScriptLang
namespace Grammar

/-! ### Phrases whose symbols have a meaning -/

inductive Repeated (holds : List Token → Prop) : List Token → Prop where
  | nil : Repeated holds []
  | cons {ts us : List Token} (first : holds ts) (others : Repeated holds us) :
      Repeated holds (ts ++ us)

mutual

/-- The tokens are made up as the phrase says, with a meaning given to each symbol. -/
def Phrase.Holds (means : Symbol → List Token → Prop) : Phrase → List Token → Prop
  | .token kind, ts => ∃ token, ts = [token] ∧ token.kind = kind ∧ token.WellFormed
  | .symbol name, ts => means name ts
  | .sequence parts, ts => Phrase.HoldsInTurn means parts ts
  | .choice first others, ts => first.Holds means ts ∨ Phrase.HoldsSomewhere means others ts
  | .optional part, ts => ts = [] ∨ part.Holds means ts
  | .many part, ts => Repeated (part.Holds means) ts

def Phrase.HoldsInTurn (means : Symbol → List Token → Prop) :
    List Phrase → List Token → Prop
  | [], ts => ts = []
  | part :: parts, ts =>
      ∃ us vs, ts = us ++ vs ∧ part.Holds means us ∧ Phrase.HoldsInTurn means parts vs

def Phrase.HoldsSomewhere (means : Symbol → List Token → Prop) :
    List Phrase → List Token → Prop
  | [], _ => False
  | option :: others, ts => option.Holds means ts ∨ Phrase.HoldsSomewhere means others ts

end

theorem Phrase.holdsSomewhere_of_mem {means : Symbol → List Token → Prop} {option : Phrase}
    {options : List Phrase} {ts : List Token} (member : option ∈ options)
    (holds : option.Holds means ts) : Phrase.HoldsSomewhere means options ts := by
  induction member with
  | head => exact .inl holds
  | tail _ _ inductionHypothesis => exact .inr inductionHypothesis

/-- A meaning of the symbols that every rule respects is the meaning of all derivations. -/
theorem Derives.holds {means : Symbol → List Token → Prop}
    (respects : ∀ (name : Symbol) (ts : List Token), name.rule.Holds means ts → means name ts)
    {phrase : Phrase} {kinds : List Kind} (derives : Derives phrase kinds) {ts : List Token}
    (kindsEq : ts.map Token.kind = kinds) (wellFormed : ∀ token ∈ ts, token.WellFormed) :
    phrase.Holds means ts := by
  induction derives generalizing ts with
  | token kind =>
      obtain ⟨token, rfl, rfl⟩ := List.map_eq_singleton_iff.mp kindsEq
      exact ⟨token, rfl, rfl, wellFormed token List.mem_cons_self⟩
  | symbol _ inductionHypothesis =>
      exact respects _ _ (inductionHypothesis kindsEq wellFormed)
  | done => exact List.map_eq_nil_iff.mp kindsEq
  | next _ _ firstHypothesis restHypothesis =>
      obtain ⟨us, vs, rfl, firstEq, restEq⟩ := List.map_eq_append_iff.mp kindsEq
      exact ⟨us, vs, rfl,
        firstHypothesis firstEq fun token member =>
          wellFormed token (List.mem_append_left _ member),
        restHypothesis restEq fun token member =>
          wellFormed token (List.mem_append_right _ member)⟩
  | choice member _ inductionHypothesis =>
      have holds := inductionHypothesis kindsEq wellFormed
      rcases List.mem_cons.mp member with rfl | member
      · exact .inl holds
      · exact .inr (Phrase.holdsSomewhere_of_mem member holds)
  | absent => exact .inl (List.map_eq_nil_iff.mp kindsEq)
  | present _ inductionHypothesis => exact .inr (inductionHypothesis kindsEq wellFormed)
  | none =>
      rw [List.map_eq_nil_iff.mp kindsEq]
      exact Repeated.nil
  | again _ _ firstHypothesis restHypothesis =>
      obtain ⟨us, vs, rfl, firstEq, restEq⟩ := List.map_eq_append_iff.mp kindsEq
      exact Repeated.cons
        (firstHypothesis firstEq fun token member =>
          wellFormed token (List.mem_append_left _ member))
        (restHypothesis restEq fun token member =>
          wellFormed token (List.mem_append_right _ member))

/-! ### The trees that symbols mean -/

/-- The tokens spell a tree of the sort that the symbol stands for. -/
def Symbol.Means : Symbol → List Token → Prop
  | source, ts =>
      ∃ source us last, ts = us ++ [last] ∧ last.kind = .eof ∧ SourceSpelled source us
  | global, ts => ∃ g, GlobalSpelled g ts
  | list, ts | mutable, ts | immutable, ts =>
      ∃ word name typeName value us, ts = word :: name :: us ∧ name.kind = .identifier ∧
        GlobalBodySpelled word.kind typeName value us
  | function, ts => ∃ f, FunctionSpelled f ts
  | parameter, ts => ∃ p, ParameterSpelled p ts
  | block, ts => ∃ b, Spelled (.block b) ts
  | statement, ts => ∃ s, Spelled (.statement s) ts
  | expression, ts => ∃ e, Spelled (.expression 0 e) ts
  | logical, ts => ∃ e, Spelled (.expression 0 e) ts
  | comparison, ts => ∃ e, Spelled (.expression 1 e) ts
  | additive, ts => ∃ e, Spelled (.expression 2 e) ts
  | multiplicative, ts => ∃ e, Spelled (.expression 3 e) ts
  | primary, ts => ∃ e, ∀ bound, Spelled (.expression bound e) ts

section

variable {ts : List Token}

theorem holds_items (holds : (Phrase.separated (.symbol .expression)).Holds Symbol.Means ts) :
    ∃ es, Spelled (.items es) ts := by
  have others {us : List Token}
      (repeated : Repeated
        ((Phrase.sequence [.token .comma, .symbol .expression]).Holds Symbol.Means) us) :
      ∃ es, Spelled (.moreItems es) us := by
    induction repeated with
    | nil => exact ⟨[], .noMoreItems⟩
    | cons first _ inductionHypothesis =>
        obtain ⟨_, _, rfl, ⟨comma, rfl, isComma, -⟩, _, _, rfl, ⟨e, spelled⟩, rfl⟩ := first
        obtain ⟨es, othersSpelled⟩ := inductionHypothesis
        rw [List.append_nil]
        exact ⟨e :: es, .moreItems isComma spelled othersSpelled⟩
  rcases holds with rfl | ⟨_, _, rfl, ⟨e, spelled⟩, _, _, rfl, repeated, rfl⟩
  · exact ⟨[], .noItems⟩
  · obtain ⟨es, othersSpelled⟩ := others repeated
    rw [List.append_nil]
    exact ⟨e :: es, .items spelled othersSpelled⟩

theorem holds_typeMark (holds : Phrase.typeMark.Holds Symbol.Means ts) :
    ∃ typeName, TypeMarkSpelled typeName ts := by
  rcases holds with rfl | ⟨_, _, rfl, ⟨colon, rfl, isColon, -⟩, _, _, rfl,
    ⟨name, rfl, isName, -⟩, rfl⟩
  · exact ⟨none, .none⟩
  · exact ⟨some name.value, .some isColon isName⟩

theorem holds_initializer (holds : Phrase.initializer.Holds Symbol.Means ts) :
    ∃ value, Spelled (.initializer value) ts := by
  rcases holds with rfl | ⟨_, _, rfl, ⟨equals, rfl, isEquals, -⟩, _, _, rfl, ⟨e, spelled⟩, rfl⟩
  · exact ⟨none, .noInitializer⟩
  · rw [List.append_nil]
    exact ⟨some e, .initializer isEquals spelled⟩

theorem means_parameter (holds : Symbol.parameter.rule.Holds Symbol.Means ts) :
    Symbol.parameter.Means ts := by
  obtain ⟨_, _, rfl, ⟨name, rfl, isName, -⟩, _, _, rfl, ⟨colon, rfl, isColon, -⟩, _, _, rfl,
    ⟨typeName, rfl, isType, -⟩, rfl⟩ := holds
  exact ⟨_, .mk isName isColon isType⟩

theorem holds_parameters (holds : (Phrase.separated (.symbol .parameter)).Holds Symbol.Means ts) :
    ∃ ps, ParametersSpelled ps ts := by
  have others {us : List Token}
      (repeated : Repeated
        ((Phrase.sequence [.token .comma, .symbol .parameter]).Holds Symbol.Means) us) :
      ∃ ps, MoreParametersSpelled ps us := by
    induction repeated with
    | nil => exact ⟨[], .nil⟩
    | cons first _ inductionHypothesis =>
        obtain ⟨_, _, rfl, ⟨comma, rfl, isComma, -⟩, _, _, rfl, ⟨p, spelled⟩, rfl⟩ := first
        obtain ⟨ps, othersSpelled⟩ := inductionHypothesis
        rw [List.append_nil]
        exact ⟨p :: ps, .cons isComma spelled othersSpelled⟩
  rcases holds with rfl | ⟨_, _, rfl, ⟨p, spelled⟩, _, _, rfl, repeated, rfl⟩
  · exact ⟨[], .nil⟩
  · obtain ⟨ps, othersSpelled⟩ := others repeated
    rw [List.append_nil]
    exact ⟨p :: ps, .cons spelled othersSpelled⟩

theorem means_list (holds : Symbol.list.rule.Holds Symbol.Means ts) : Symbol.list.Means ts := by
  obtain ⟨_, _, rfl, ⟨word, rfl, isWord, -⟩, _, _, rfl, ⟨name, rfl, isName, -⟩, _, _, rfl,
    ⟨colon, rfl, isColon, -⟩, _, _, rfl, ⟨typeName, rfl, isType, -⟩, _, _, rfl,
    ⟨equals, rfl, isEquals, -⟩, _, _, rfl, ⟨opening, rfl, opens, -⟩, us, _, rfl, items, _, _,
    rfl, ⟨closing, rfl, closes, -⟩, rfl⟩ := holds
  obtain ⟨es, inner⟩ := holds_items items
  have body := GlobalBodySpelled.list isColon isType isEquals opens inner closes
  rw [← isWord] at body
  exact ⟨word, name, _, _, _, rfl, isName, body⟩

theorem means_mutable (holds : Symbol.mutable.rule.Holds Symbol.Means ts) :
    Symbol.mutable.Means ts := by
  obtain ⟨_, _, rfl, ⟨word, rfl, isWord, -⟩, _, _, rfl, ⟨name, rfl, isName, -⟩, _, _, rfl,
    isMark, us, _, rfl, isInitializer, rfl⟩ := holds
  obtain ⟨typeName, typeMark⟩ := holds_typeMark isMark
  obtain ⟨value, initial⟩ := holds_initializer isInitializer
  have body := GlobalBodySpelled.mutable typeMark initial
  rw [← isWord] at body
  rw [List.append_nil]
  exact ⟨word, name, typeName, value, _, rfl, isName, body⟩

theorem means_immutable (holds : Symbol.immutable.rule.Holds Symbol.Means ts) :
    Symbol.immutable.Means ts := by
  obtain ⟨_, _, rfl, ⟨word, rfl, isWord, -⟩, _, _, rfl, ⟨name, rfl, isName, -⟩, _, _, rfl,
    isMark, _, _, rfl, ⟨equals, rfl, isEquals, -⟩, us, _, rfl, ⟨value, initial⟩, rfl⟩ :=
      holds
  obtain ⟨typeName, typeMark⟩ := holds_typeMark isMark
  have body := GlobalBodySpelled.immutable typeMark isEquals initial
  rw [← isWord] at body
  rw [List.append_nil]
  exact ⟨word, name, typeName, some value, _, rfl, isName, body⟩

theorem means_global (holds : Symbol.global.rule.Holds Symbol.Means ts) :
    Symbol.global.Means ts := by
  obtain ⟨_, _, rfl, declares, _, _, rfl, ⟨semicolon, rfl, ends, -⟩, rfl⟩ := holds
  obtain ⟨word, name, typeName, value, us, rfl, isName, body⟩ |
    ⟨word, name, typeName, value, us, rfl, isName, body⟩ |
    ⟨word, name, typeName, value, us, rfl, isName, body⟩ | impossible := declares
  · exact ⟨_, .mk isName body ends⟩
  · exact ⟨_, .mk isName body ends⟩
  · exact ⟨_, .mk isName body ends⟩
  · exact impossible.elim

theorem means_function (holds : Symbol.function.rule.Holds Symbol.Means ts) :
    Symbol.function.Means ts := by
  obtain ⟨_, _, rfl, ⟨word, rfl, isWord, -⟩, _, _, rfl, ⟨name, rfl, isName, -⟩, _, _, rfl,
    ⟨opening, rfl, opens, -⟩, us, _, rfl, parameters, _, _, rfl, ⟨closing, rfl, closes, -⟩,
    vs, _, rfl, isMark, _, _, rfl, ⟨doWord, rfl, isDo, -⟩, ws, _, rfl, ⟨body, bodySpelled⟩,
    _, _, rfl, ⟨endWord, rfl, isEnd, -⟩, rfl⟩ := holds
  obtain ⟨ps, inner⟩ := holds_parameters parameters
  obtain ⟨typeName, typeMark⟩ := holds_typeMark isMark
  exact ⟨_, .mk isWord isName opens inner closes typeMark isDo bodySpelled isEnd⟩

theorem exists_each {α : Type} {spelled : α → List Token → Prop}
    (repeated : Repeated (fun ts => ∃ value, spelled value ts) ts) :
    ∃ values, EachSpelled spelled values ts := by
  induction repeated with
  | nil => exact ⟨[], .nil⟩
  | cons first _ inductionHypothesis =>
      obtain ⟨value, valueSpelled⟩ := first
      obtain ⟨values, othersSpelled⟩ := inductionHypothesis
      exact ⟨value :: values, .cons valueSpelled othersSpelled⟩

theorem means_source (holds : Symbol.source.rule.Holds Symbol.Means ts) :
    Symbol.source.Means ts := by
  obtain ⟨us, _, rfl, globals, vs, _, rfl, functions, _, _, rfl, ⟨last, rfl, isEnd, -⟩, rfl⟩ :=
    holds
  obtain ⟨gs, globalsSpelled⟩ := exists_each globals
  obtain ⟨fs, functionsSpelled⟩ := exists_each functions
  refine ⟨_, us ++ vs, last, ?_, isEnd, .mk globalsSpelled functionsSpelled⟩
  rw [List.append_nil, List.append_assoc]

theorem means_block (holds : Symbol.block.rule.Holds Symbol.Means ts) : Symbol.block.Means ts := by
  have repeated : Repeated (fun ts => ∃ s, Spelled (.statement s) ts) ts := holds
  induction repeated with
  | nil => exact ⟨[], .noStatements⟩
  | cons first others inductionHypothesis =>
      obtain ⟨s, spelled⟩ := first
      obtain ⟨b, othersSpelled⟩ := inductionHypothesis others
      exact ⟨s :: b, .statements spelled othersSpelled⟩

theorem holds_cases {us : List Token} {word : Token} {body : List Stmt}
    (repeated : Repeated (Phrase.case.Holds Symbol.Means) ts) (isWord : word.kind = .defaultWord)
    (bodySpelled : Spelled (.block body) us) : ∃ cs, Spelled (.cases cs) (ts ++ word :: us) := by
  induction repeated with
  | nil => exact ⟨_, .defaultCase isWord bodySpelled⟩
  | cons first _ inductionHypothesis =>
      obtain ⟨_, _, rfl, ⟨word, rfl, isCase, -⟩, vs, _, rfl, ⟨value, spelled⟩, _, _, rfl,
        ⟨colon, rfl, isColon, -⟩, ws, _, rfl, ⟨body, caseSpelled⟩, rfl⟩ := first
      obtain ⟨cs, othersSpelled⟩ := inductionHypothesis
      have allSpelled := Spelled.case isCase spelled isColon caseSpelled othersSpelled
      rw [List.append_assoc, List.append_nil]
      exact ⟨_, allSpelled⟩

theorem means_statement (holds : Symbol.statement.rule.Holds Symbol.Means ts) :
    Symbol.statement.Means ts := by
  rcases holds with declares | switches | decides | loops | returns | simple | impossible
  · obtain ⟨_, _, rfl, ⟨word, rfl, isWord, -⟩, _, _, rfl, ⟨name, rfl, isName, -⟩, _, _, rfl,
      isMark, us, _, rfl, isInitializer, _, _, rfl, ⟨semicolon, rfl, ends, -⟩, rfl⟩ :=
        declares
    obtain ⟨typeName, typeMark⟩ := holds_typeMark isMark
    obtain ⟨value, initial⟩ := holds_initializer isInitializer
    exact ⟨_, .declaration isWord isName typeMark initial ends⟩
  · obtain ⟨_, _, rfl, ⟨word, rfl, isWord, -⟩, us, _, rfl, ⟨e, subject⟩, vs, _, rfl, cases, _, _,
      rfl, ⟨defaultWord, rfl, isDefault, -⟩, ws, _, rfl, ⟨body, bodySpelled⟩, _, _, rfl,
      ⟨endWord, rfl, isEnd, -⟩, rfl⟩ := switches
    obtain ⟨cs, casesSpelled⟩ := holds_cases cases isDefault bodySpelled
    have spelled := Spelled.switch isWord subject casesSpelled isEnd
    rw [List.append_assoc] at spelled
    exact ⟨_, spelled⟩
  · obtain ⟨_, _, rfl, ⟨word, rfl, isWord, -⟩, us, _, rfl, ⟨e, test⟩, _, _, rfl,
      ⟨doWord, rfl, isDo, -⟩, vs, _, rfl, ⟨thenBlock, thenSpelled⟩, ws, _, rfl, alternative, _,
      _, rfl, ⟨endWord, rfl, isEnd, -⟩, rfl⟩ := decides
    have elseSpelled : ∃ b, Spelled (.alternative b) ws := by
      rcases alternative with rfl | ⟨_, _, rfl, ⟨elseWord, rfl, isElse, -⟩, _, _, rfl,
        ⟨b, spelled⟩, rfl⟩
      · exact ⟨[], .noAlternative⟩
      · rw [List.append_nil]
        exact ⟨b, .alternative isElse spelled⟩
    obtain ⟨b, elseSpelled⟩ := elseSpelled
    exact ⟨_, .conditional isWord test isDo thenSpelled elseSpelled isEnd⟩
  · obtain ⟨_, _, rfl, ⟨word, rfl, isWord, -⟩, us, _, rfl, ⟨e, test⟩, _, _, rfl,
      ⟨doWord, rfl, isDo, -⟩, vs, _, rfl, ⟨body, bodySpelled⟩, _, _, rfl,
      ⟨endWord, rfl, isEnd, -⟩, rfl⟩ := loops
    exact ⟨_, .loop isWord test isDo bodySpelled isEnd⟩
  · obtain ⟨_, _, rfl, ⟨word, rfl, isWord, -⟩, us, _, rfl, ⟨e, spelled⟩, _, _, rfl,
      ⟨semicolon, rfl, ends, -⟩, rfl⟩ := returns
    exact ⟨_, .result isWord spelled ends⟩
  · obtain ⟨us, _, rfl, ⟨e, spelled⟩, vs, _, rfl, isInitializer, _, _, rfl,
      ⟨semicolon, rfl, ends, -⟩, rfl⟩ := simple
    obtain ⟨value, initial⟩ := holds_initializer isInitializer
    cases initial with
    | noInitializer => exact ⟨_, .expressionStatement spelled ends⟩
    | initializer isEquals valueSpelled =>
        exact ⟨_, .assignment spelled isEquals valueSpelled ends⟩
  · exact impossible.elim

/-! ### Expressions -/

theorem holds_operator {first : Kind} {others : List Kind}
    (holds : (Phrase.choice (.token first) (others.map .token)).Holds Symbol.Means ts) :
    ∃ token, ts = [token] ∧ token.kind ∈ first :: others := by
  have somewhere {others : List Kind}
      (holds : Phrase.HoldsSomewhere Symbol.Means (others.map .token) ts) :
      ∃ token, ts = [token] ∧ token.kind ∈ others := by
    induction others with
    | nil => exact holds.elim
    | cons kind others inductionHypothesis =>
        rcases holds with ⟨token, tokensEq, kindEq, -⟩ | holds
        · exact ⟨token, tokensEq, kindEq ▸ List.mem_cons_self⟩
        · obtain ⟨token, tokensEq, member⟩ := inductionHypothesis holds
          exact ⟨token, tokensEq, List.mem_cons_of_mem _ member⟩
  rcases holds with ⟨token, tokensEq, kindEq, -⟩ | holds
  · exact ⟨token, tokensEq, kindEq ▸ List.mem_cons_self⟩
  · obtain ⟨token, tokensEq, member⟩ := somewhere holds
    exact ⟨token, tokensEq, List.mem_cons_of_mem _ member⟩

theorem means_level (this tighter : Symbol) (bound : Nat) (first : Kind) (others : List Kind)
    (thisMeans : ∀ us, this.Means us → ∃ e, Spelled (.expression bound e) us)
    (tighterMeans : ∀ us, tighter.Means us → ∃ e, Spelled (.expression (bound + 1) e) us)
    (ranks : ∀ kind ∈ first :: others,
      ∃ op, BinaryOp.ofKind? kind = some op ∧ op.rank = bound + 1)
    (holds : (Phrase.level this tighter (.choice (.token first) (others.map .token))).Holds
      Symbol.Means ts) :
    ∃ e, Spelled (.expression bound e) ts := by
  rcases holds with ⟨us, _, rfl, left, _, _, rfl, operator, vs, _, rfl, right, rfl⟩ |
    single | impossible
  · obtain ⟨leftTree, leftSpelled⟩ := thisMeans us left
    obtain ⟨rightTree, rightSpelled⟩ := tighterMeans vs right
    obtain ⟨token, rfl, member⟩ := holds_operator operator
    obtain ⟨op, isOp, rankEq⟩ := ranks token.kind member
    have binds : bound < op.rank := by omega
    rw [← rankEq] at rightSpelled
    have leftTight : Spelled (.expression (op.rank - 1) leftTree) us := by
      rw [rankEq]
      exact leftSpelled
    rw [List.append_nil]
    exact ⟨_, .binary isOp binds leftTight rightSpelled⟩
  · obtain ⟨e, spelled⟩ := tighterMeans ts single
    exact ⟨e, spelled.weaken (Nat.le_succ bound)⟩
  · exact impossible.elim

theorem holds_constant {kind : Kind} (isLiteral : Parse.isConstant kind = true)
    (holds : (Phrase.token kind).Holds Symbol.Means ts) : Symbol.primary.Means ts := by
  obtain ⟨token, rfl, rfl, wellFormed⟩ := holds
  obtain ⟨value, reads⟩ := Parse.literalOf_of_wellFormed isLiteral wellFormed
  exact ⟨_, fun bound => .literal reads⟩

theorem means_primary (holds : Symbol.primary.rule.Holds Symbol.Means ts) :
    Symbol.primary.Means ts := by
  rcases holds with constant | constant | constant | constant | constant | constant | constant |
    group | named | called | impossible
  · exact holds_constant rfl constant
  · exact holds_constant rfl constant
  · exact holds_constant rfl constant
  · exact holds_constant rfl constant
  · exact holds_constant rfl constant
  · exact holds_constant rfl constant
  · exact holds_constant rfl constant
  · obtain ⟨_, _, rfl, ⟨opening, rfl, opens, -⟩, us, _, rfl, ⟨e, spelled⟩, _, _, rfl,
      ⟨closing, rfl, closes, -⟩, rfl⟩ := group
    exact ⟨_, fun bound => .group opens closes spelled⟩
  · obtain ⟨_, _, rfl, ⟨name, rfl, isName, -⟩, _, _, rfl, index, rfl⟩ := named
    rcases index with rfl | ⟨_, _, rfl, ⟨opening, rfl, opens, -⟩, us, _, rfl, ⟨e, spelled⟩, _, _,
      rfl, ⟨closing, rfl, closes, -⟩, rfl⟩
    · exact ⟨_, fun bound => .access isName⟩
    · rw [List.append_nil]
      exact ⟨_, fun bound => .element isName opens closes spelled⟩
  · obtain ⟨_, _, rfl, ⟨name, rfl, isName, -⟩, _, _, rfl, ⟨opening, rfl, opens, -⟩, us, _, rfl,
      items, _, _, rfl, ⟨closing, rfl, closes, -⟩, rfl⟩ := called
    obtain ⟨es, inner⟩ := holds_items items
    exact ⟨_, fun bound => .call isName opens closes inner⟩
  · exact impossible.elim

end

theorem Symbol.means_of_rule (name : Symbol) (ts : List Token)
    (holds : name.rule.Holds Symbol.Means ts) : name.Means ts := by
  cases name with
  | source => exact means_source holds
  | global => exact means_global holds
  | list => exact means_list holds
  | mutable => exact means_mutable holds
  | immutable => exact means_immutable holds
  | function => exact means_function holds
  | parameter => exact means_parameter holds
  | block => exact means_block holds
  | statement => exact means_statement holds
  | expression => exact holds
  | logical =>
      exact means_level logical comparison 0 .and [.or] (fun _ means => means)
        (fun _ means => means) (by decide) holds
  | comparison =>
      exact means_level comparison additive 1 .less [.greater, .equals, .notEquals]
        (fun _ means => means) (fun _ means => means) (by decide) holds
  | additive =>
      exact means_level additive multiplicative 2 .plus [.dash] (fun _ means => means)
        (fun _ means => means) (by decide) holds
  | multiplicative =>
      refine means_level multiplicative primary 3 .star [.slash, .caret] (fun _ means => means)
        ?_ (by decide) holds
      rintro us ⟨e, spelled⟩
      exact ⟨e, spelled 4⟩
  | primary => exact means_primary holds

/-- Well-formed tokens of the kinds of a derived list spell a program. -/
theorem Derives.source_spelled {ts : List Token}
    (derives : Derives (.symbol .source) (ts.map Token.kind))
    (wellFormed : ∀ token ∈ ts, token.WellFormed) :
    ∃ source us last, ts = us ++ [last] ∧ last.kind = .eof ∧ SourceSpelled source us :=
  derives.holds Symbol.means_of_rule rfl wellFormed

end Grammar
end ScriptLang
