import ScriptLang.Proofs.ReadTrees
import ScriptLang.Proofs.RenderedWords

/-!
What is read from scanned tokens is canonical.

Tokens of a text carry well-formed words, so a tree that they spell has names that are no reserved
words, numbers without a sign, and operators where their powers admit them.
-/

namespace ScriptLang

/-! ### Words that are scanned -/

namespace Word

/-- Some text has a token that carries the word. -/
def Scanned (word : Word) : Prop :=
  ∃ text tokens, Token.scan text = .ok tokens ∧ word ∈ tokens.map Token.word

/-- The words that are scanned are the well-formed ones and the one that ends every source. -/
theorem scanned_iff {word : Word} : word.Scanned ↔ word = endOfSource ∨ word.WellFormed := by
  constructor
  · rintro ⟨text, tokens, scanned, member⟩
    obtain ⟨body, rfl, tiles⟩ := Token.tiles_of_scan scanned
    obtain ⟨token, tokenMember, rfl⟩ := List.mem_map.mp member
    rcases List.mem_append.mp tokenMember with inBody | isLast
    · exact .inr (tiles.written token inBody).1
    · exact .inl (congrArg Token.word (List.mem_singleton.mp isLast))
  · rintro (rfl | wellFormed)
    · refine ⟨"", [Token.endOfSource 0], ?_, List.mem_singleton_self _⟩
      unfold Token.scan
      rw [String.toList_empty, Token.scanFrom]
    · obtain ⟨tokens, stop, scanned, wordsEq⟩ :=
        Token.scanFrom_writtenOut (.word wellFormed word.writtenAs_text .nil .nil) 0
      rw [List.append_nil] at scanned
      refine ⟨String.ofList word.text, tokens ++ [Token.endOfSource stop], ?_, ?_⟩
      · unfold Token.scan
        rw [String.toList_ofList, scanned]
      · rw [List.map_append, wordsEq]
        exact List.mem_append_left _ (List.mem_singleton_self _)

theorem Scanned.wellFormed {word : Word} (scanned : word.Scanned) (notEnd : word.kind ≠ .eof) :
    word.WellFormed := by
  rcases scanned_iff.mp scanned with rfl | wellFormed
  · exact absurd rfl notEnd
  · exact wellFormed

end Word

/-! ### Constants -/

theorem Literal.canonical_of_literalOf {token : Token} {value : Literal}
    (wellFormed : token.word.WellFormed) (reads : Parse.literalOf token = .ok value) :
    value.Canonical := by
  obtain ⟨kind, text, span⟩ := token
  cases kind with
  | integer =>
      have digits : IsDigits text.toList := wellFormed
      simp only [Parse.literalOf, Numeral.integer?_eq digits] at reads
      cases reads
      exact Int.natCast_nonneg _
  | decimal =>
      obtain ⟨whole, fraction, wholeDigits, fractionDigits, textEq⟩ := wellFormed
      have textEq : text.toList = whole ++ '.' :: fraction := textEq
      simp only [Parse.literalOf, textEq, Numeral.decimal?_point wholeDigits fractionDigits]
        at reads
      by_cases inRange : Numeral.isScale fraction.length = true
      · rw [if_pos inRange] at reads
        cases reads
        have positive : (1 : Int) ≤ fraction.length :=
          Int.ofNat_le.mpr (List.length_pos_iff.mpr fractionDigits.1)
        exact ⟨Int.natCast_nonneg _, positive, inRange⟩
      · rw [if_neg inRange] at reads
        cases reads
  | character =>
      obtain ⟨c, textEq⟩ := wellFormed
      have textEq : text.toList = [c] := textEq
      simp only [Parse.literalOf, textEq] at reads
      cases reads
      trivial
  | string | trueWord | falseWord | nilWord =>
      cases reads
      trivial
  | _ => cases reads

/-! ### Trees -/

def Piece.Canonical : Piece → Prop
  | .expression bound e => e.Canonical bound
  | .items es | .moreItems es => AllCanonical es
  | .initializer value => OptionCanonical value
  | .statement s => s.Canonical
  | .block b | .alternative b => BlockCanonical b
  | .cases cs => CasesCanonical cs

theorem Token.isName {token : Token} (wellFormed : token.word.WellFormed)
    (isIdentifier : token.kind = .identifier) : IsName token.value := by
  obtain ⟨kind, text, span⟩ := token
  cases isIdentifier
  exact wellFormed

theorem TypeMarkSpelled.optionName {typeName : Option String} {ts : List Token}
    (typeMark : TypeMarkSpelled typeName ts) (wellFormed : ∀ token ∈ ts, token.word.WellFormed) :
    OptionName typeName := by
  cases typeMark with
  | none =>
      rintro name ⟨⟩
  | @some colon name isColon isName =>
      simp only [List.forall_mem_cons] at wellFormed
      intro other nameEq
      cases nameEq
      exact Token.isName wellFormed.2.1 isName

theorem Spelled.canonical {piece : Piece} {ts : List Token} (spelled : Spelled piece ts)
    (wellFormed : ∀ token ∈ ts, token.word.WellFormed) : piece.Canonical := by
  induction spelled with
  | literal reads =>
      exact ⟨Literal.canonical_of_literalOf (List.forall_mem_cons.mp wellFormed).1 reads, rfl⟩
  | access isName =>
      exact ⟨Token.isName (List.forall_mem_cons.mp wellFormed).1 isName, rfl, rfl⟩
  | element isName _ _ _ index | call isName _ _ _ index =>
      simp only [List.forall_mem_cons, List.forall_mem_append] at wellFormed
      obtain ⟨name, -, inner, -⟩ := wellFormed
      exact ⟨Token.isName name isName, index inner, rfl, rfl⟩
  | group _ _ _ inner =>
      simp only [List.forall_mem_cons, List.forall_mem_append] at wellFormed
      exact ⟨inner wellFormed.2.1, rfl⟩
  | binary _ binds _ _ left right =>
      simp only [List.forall_mem_cons, List.forall_mem_append] at wellFormed
      exact ⟨binds, left wellFormed.1, right wellFormed.2.2, rfl⟩
  | noItems | noMoreItems | noStatements | noAlternative => trivial
  | items _ _ first others | statements _ _ first others =>
      obtain ⟨firstWellFormed, othersWellFormed⟩ := List.forall_mem_append.mp wellFormed
      exact ⟨first firstWellFormed, others othersWellFormed⟩
  | moreItems _ _ _ first others =>
      simp only [List.forall_mem_cons, List.forall_mem_append] at wellFormed
      exact ⟨first wellFormed.2.1, others wellFormed.2.2⟩
  | noInitializer =>
      rintro e ⟨⟩
  | initializer _ _ value =>
      intro e valueEq
      cases valueEq
      exact value (List.forall_mem_cons.mp wellFormed).2
  | declaration _ isName typeMark _ _ initial =>
      simp only [List.forall_mem_cons, List.forall_mem_append] at wellFormed
      obtain ⟨-, name, typeName, value, -⟩ := wellFormed
      exact ⟨Token.isName name isName, typeMark.optionName typeName, initial value, rfl⟩
  | expressionStatement _ _ value =>
      exact value (List.forall_mem_append.mp wellFormed).1
  | assignment _ _ _ _ receiver value =>
      simp only [List.forall_mem_cons, List.forall_mem_append] at wellFormed
      exact ⟨receiver wellFormed.1, value wellFormed.2.2.1⟩
  | conditional _ _ _ _ _ _ test thenBlock elseBlock =>
      simp only [List.forall_mem_cons, List.forall_mem_append] at wellFormed
      obtain ⟨-, condition, -, thenTokens, elseTokens, -⟩ := wellFormed
      exact ⟨test condition, thenBlock thenTokens, elseBlock elseTokens⟩
  | switch _ _ _ _ subject cases =>
      simp only [List.forall_mem_cons, List.forall_mem_append] at wellFormed
      exact ⟨subject wellFormed.2.1, cases wellFormed.2.2.1⟩
  | loop _ _ _ _ _ test body =>
      simp only [List.forall_mem_cons, List.forall_mem_append] at wellFormed
      obtain ⟨-, condition, -, block, -⟩ := wellFormed
      exact ⟨test condition, body block⟩
  | result _ _ _ value =>
      simp only [List.forall_mem_cons, List.forall_mem_append] at wellFormed
      exact value wellFormed.2.1
  | defaultCase _ _ body =>
      exact ⟨body (List.forall_mem_cons.mp wellFormed).2, rfl⟩
  | case _ _ _ _ _ value body others =>
      simp only [List.cons_append, List.append_assoc, List.forall_mem_cons,
        List.forall_mem_append] at wellFormed
      obtain ⟨-, test, -, block, rest⟩ := wellFormed
      exact ⟨value test, body block, others rest⟩
  | alternative _ _ body => exact body (List.forall_mem_cons.mp wellFormed).2

theorem ParameterSpelled.canonical {parameter : Parameter} {ts : List Token}
    (spelled : ParameterSpelled parameter ts) (wellFormed : ∀ token ∈ ts, token.word.WellFormed) :
    parameter.Canonical := by
  cases spelled with
  | mk isName isColon isType =>
      simp only [List.forall_mem_cons] at wellFormed
      exact ⟨Token.isName wellFormed.1 isName, Token.isName wellFormed.2.2.1 isType⟩

theorem MoreParametersSpelled.canonical {parameters : List Parameter} {ts : List Token}
    (spelled : MoreParametersSpelled parameters ts)
    (wellFormed : ∀ token ∈ ts, token.word.WellFormed) :
    ∀ parameter ∈ parameters, parameter.Canonical := by
  induction spelled with
  | nil => exact List.forall_mem_nil _
  | cons _ first _ inductionHypothesis =>
      simp only [List.forall_mem_cons, List.forall_mem_append] at wellFormed
      obtain ⟨-, firstTokens, others⟩ := wellFormed
      exact List.forall_mem_cons.mpr ⟨first.canonical firstTokens, inductionHypothesis others⟩

theorem ParametersSpelled.canonical {parameters : List Parameter} {ts : List Token}
    (spelled : ParametersSpelled parameters ts)
    (wellFormed : ∀ token ∈ ts, token.word.WellFormed) :
    ∀ parameter ∈ parameters, parameter.Canonical := by
  cases spelled with
  | nil => exact List.forall_mem_nil _
  | cons first others =>
      obtain ⟨firstTokens, otherTokens⟩ := List.forall_mem_append.mp wellFormed
      exact List.forall_mem_cons.mpr ⟨first.canonical firstTokens, others.canonical otherTokens⟩

theorem GlobalSpelled.canonical {global : GlobalDecl} {ts : List Token}
    (spelled : GlobalSpelled global ts) (wellFormed : ∀ token ∈ ts, token.word.WellFormed) :
    global.Canonical := by
  cases spelled with
  | @mk word name semicolon typeName value ts isName body ends =>
      simp only [List.forall_mem_cons, List.forall_mem_append] at wellFormed
      obtain ⟨-, nameWellFormed, rest, -⟩ := wellFormed
      have isName := Token.isName nameWellFormed isName
      generalize word.kind = kind at body ⊢
      cases body with
      | list isColon isType isEquals opens inner closes =>
          simp only [List.forall_mem_cons, List.forall_mem_append] at rest
          obtain ⟨-, typeWellFormed, -, -, elements, -⟩ := rest
          exact .list isName (Token.isName typeWellFormed isType) (inner.canonical elements)
      | mutable typeMark initial =>
          obtain ⟨typeTokens, valueTokens⟩ := List.forall_mem_append.mp rest
          exact .mutable isName (typeMark.optionName typeTokens) (initial.canonical valueTokens)
      | immutable typeMark isEquals initial =>
          simp only [List.forall_mem_cons, List.forall_mem_append] at rest
          obtain ⟨typeTokens, -, valueTokens⟩ := rest
          exact .immutable isName (typeMark.optionName typeTokens) (initial.canonical valueTokens)

theorem FunctionSpelled.canonical {function : FunctionDecl} {ts : List Token}
    (spelled : FunctionSpelled function ts) (wellFormed : ∀ token ∈ ts, token.word.WellFormed) :
    function.Canonical := by
  cases spelled with
  | mk isWord isName opens inner closes typeMark isDo bodySpelled isEnd =>
      simp only [List.forall_mem_cons, List.forall_mem_append] at wellFormed
      obtain ⟨-, name, -, parameters, -, typeTokens, -, body, -⟩ := wellFormed
      exact
        { isName := Token.isName name isName
          parameters := inner.canonical parameters
          isType := typeMark.optionName typeTokens
          body := bodySpelled.canonical body
          undecorated := rfl }

theorem EachSpelled.wellFormed {α : Type} {spelled : α → List Token → Prop} {values : List α}
    {ts : List Token} (each : EachSpelled spelled values ts)
    (wellFormed : ∀ token ∈ ts, token.word.WellFormed) :
    EachSpelled (fun value us => spelled value us ∧ ∀ token ∈ us, token.word.WellFormed) values
      ts := by
  induction each with
  | nil => exact .nil
  | cons first _ inductionHypothesis =>
      obtain ⟨firstTokens, otherTokens⟩ := List.forall_mem_append.mp wellFormed
      exact .cons ⟨first, firstTokens⟩ (inductionHypothesis otherTokens)

theorem SourceSpelled.canonical {source : Source} {ts : List Token}
    (spelled : SourceSpelled source ts) (wellFormed : ∀ token ∈ ts, token.word.WellFormed) :
    source.Canonical := by
  cases spelled with
  | mk globals functions =>
      obtain ⟨globalTokens, functionTokens⟩ := List.forall_mem_append.mp wellFormed
      exact
        { globals :=
            (globals.wellFormed globalTokens).holds fun _ _ spelled => spelled.1.canonical spelled.2
          functions :=
            (functions.wellFormed functionTokens).holds fun _ _ spelled =>
              spelled.1.canonical spelled.2 }

/-- The tree of a program text is canonical: it can be written out and read back. -/
theorem Source.canonical_of_parse {text : String} {tree : Source}
    (parsed : Source.parse text = .ok tree) : tree.Canonical := by
  obtain ⟨tokens, wellFormed, spelled⟩ := Source.spelled_of_parse parsed
  exact spelled.canonical wellFormed

end ScriptLang
