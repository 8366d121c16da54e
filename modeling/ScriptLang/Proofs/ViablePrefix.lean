import ScriptLang.Proofs.Acceptance

/-!
Parsing fails at the first token that no program has there.

The tokens before the one at fault begin a program, and with that token they begin none.
-/

namespace ScriptLang

open Grammar

/-! ### Only the end of a program is an end of source -/

mutual

def Grammar.Phrase.isInner : Phrase → Bool
  | .token kind => kind != .eof
  | .symbol name => name != .source
  | .sequence parts => Phrase.areInner parts
  | .choice first others => first.isInner && Phrase.areInner others
  | .optional part | .many part => part.isInner

def Grammar.Phrase.areInner : List Phrase → Bool
  | [] => true
  | part :: parts => part.isInner && Phrase.areInner parts

end

theorem Grammar.Phrase.isInner_of_mem {option : Phrase} {options : List Phrase}
    (member : option ∈ options) (inner : Phrase.areInner options = true) :
    option.isInner = true := by
  induction member with
  | head =>
      rw [Phrase.areInner, Bool.and_eq_true] at inner
      exact inner.1
  | tail _ _ inductionHypothesis =>
      rw [Phrase.areInner, Bool.and_eq_true] at inner
      exact inductionHypothesis inner.2

theorem Grammar.Symbol.isInner_rule {name : Symbol} (notSource : name ≠ .source) :
    name.rule.isInner = true := by
  cases name with
  | source => exact absurd rfl notSource
  | _ => rfl

theorem Grammar.Derives.not_eof {phrase : Phrase} {kinds : List Kind}
    (derives : Derives phrase kinds) (inner : phrase.isInner = true) :
    ∀ kind ∈ kinds, kind ≠ .eof := by
  induction derives with
  | token kind =>
      intro other member
      rw [List.mem_singleton.mp member]
      exact bne_iff_ne.mp inner
  | symbol _ inductionHypothesis =>
      exact inductionHypothesis (Symbol.isInner_rule (bne_iff_ne.mp inner))
  | done | absent | none => exact fun kind member => absurd member List.not_mem_nil
  | next _ _ firstHypothesis restHypothesis =>
      rw [Phrase.isInner, Phrase.areInner, Bool.and_eq_true] at inner
      intro kind member
      rcases List.mem_append.mp member with member | member
      · exact firstHypothesis inner.1 kind member
      · exact restHypothesis inner.2 kind member
  | choice isOption _ inductionHypothesis =>
      exact inductionHypothesis (Phrase.isInner_of_mem isOption inner)
  | present _ inductionHypothesis => exact inductionHypothesis inner
  | again _ _ firstHypothesis restHypothesis =>
      intro kind member
      rcases List.mem_append.mp member with member | member
      · exact firstHypothesis inner kind member
      · exact restHypothesis inner kind member

/-! ### Tokens of any kind -/

/-- A token of the given kind, with a text that fits it. -/
def Token.sample (kind : Kind) : Token :=
  { kind := kind
    value := match kind with
      | .integer => "0"
      | .decimal => "0.0"
      | .character => "c"
      | _ => ""
    span := { start := 0, stop := 0 } }

theorem Token.wellFormed_sample (kind : Kind) : (Token.sample kind).WellFormed := by
  have zero : IsDigits ['0'] := .single rfl
  cases kind with
  | integer => exact zero
  | decimal => exact ⟨by decide, ['0'], ['0'], zero, zero, rfl⟩
  | character => exact ⟨'c', rfl⟩
  | _ => trivial

theorem Token.map_kind_sample (kinds : List Kind) :
    (kinds.map Token.sample).map Token.kind = kinds := by
  rw [List.map_map]
  exact List.map_id kinds

namespace Parse

theorem accepts_of_viable {ts : List Token} (wellFormed : ∀ token ∈ ts, token.WellFormed)
    (viable : Viable (.sequence [.many (.symbol .global), .many (.symbol .function)])
      (ts.map Token.kind)) :
    ∃ more tree, Token.EndsOnce (ts ++ more) ∧ (∀ token ∈ more, token.WellFormed) ∧
      ofTokens source (ts ++ more) = .ok tree := by
  obtain ⟨kinds, derives⟩ := viable
  have notEnd := derives.not_eof rfl
  have whole : Derives (.symbol .source) (ts.map Token.kind ++ kinds ++ [.eof]) :=
    .symbol (derives.append (.next (.token .eof) .done))
  let inner := kinds.map Token.sample
  let last := Token.sample .eof
  have endsOnce : Token.EndsOnce (ts ++ (inner ++ [last])) := by
    refine ⟨ts ++ inner, last, (List.append_assoc ..).symm, rfl, ?_⟩
    intro token member
    apply notEnd
    rw [← Token.map_kind_sample kinds, ← List.map_append]
    exact List.mem_map_of_mem member
  have samplesWellFormed : ∀ token ∈ inner ++ [last], token.WellFormed := by
    intro token member
    rcases List.mem_append.mp member with member | member
    · obtain ⟨kind, _, rfl⟩ := List.mem_map.mp member
      exact Token.wellFormed_sample kind
    · rw [List.mem_singleton.mp member]
      exact Token.wellFormed_sample .eof
  have kindsEq : (ts ++ (inner ++ [last])).map Token.kind =
      ts.map Token.kind ++ kinds ++ [.eof] := by
    rw [List.map_append, List.map_append, Token.map_kind_sample, List.append_assoc]
    rfl
  have allWellFormed : ∀ token ∈ ts ++ (inner ++ [last]), token.WellFormed := by
    intro token member
    rcases List.mem_append.mp member with member | member
    · exact wellFormed token member
    · exact samplesWellFormed token member
  obtain ⟨tree, accepts⟩ := accepts_of_derives endsOnce allWellFormed (kindsEq ▸ whole)
  exact ⟨inner ++ [last], tree, endsOnce, samplesWellFormed, accepts⟩

theorem not_accepts_of_failed {ts more : List Token} {first : Token} {c d : Cursor}
    {fault : Fault} {fuel : Nat} {tree : Source} (closed : c.Closed) (atStart : c.passed = [])
    (enough : 8 * c.remaining + 1 ≤ fuel) (failed : sourceWithin fuel c = .error fault d)
    (moves : c.Moves ts d) (firstEq : d.current = first)
    (endsOnce : Token.EndsOnce (ts ++ [first] ++ more)) :
    ofTokens source (ts ++ [first] ++ more) ≠ .ok tree := by
  intro accepts
  obtain ⟨before, last, tokensEq, isEnd, notEnd⟩ := endsOnce
  rw [tokensEq] at accepts
  have spelled := (spelled_of_accepts before isEnd notEnd accepts).1
  have along : Along c (ts ++ [first]) (before ++ [last]) := by
    refine ⟨closed, ?_, ?_⟩
    · rw [moves.rest, ← firstEq]
      exact (List.prefix_append_right_inj ts).mpr (List.prefix_append [d.current] d.ahead)
    · rw [← tokensEq]
      exact List.prefix_append _ _
  rcases source_follows spelled isEnd atStart along enough with ⟨_, e, result, _⟩ | passes
  · rw [failed] at result
    cases result
  · obtain ⟨us, later, long⟩ := Leads.of_error passes failed
    have total := moves.remaining
    have laterTotal := later.remaining
    rw [List.length_append, List.length_singleton] at long
    omega

/-- Where the parser fails, the tokens before the one at fault can be continued to a program,
while no program begins with these tokens and the one at fault. -/
theorem failure_at_first_misfit {tokens : List Token} {fault : Fault}
    (endsOnce : Token.EndsOnce tokens) (wellFormed : ∀ token ∈ tokens, token.WellFormed)
    (fails : ofTokens source tokens = .error fault) :
    ∃ i token, tokens[i]? = some token ∧ fault.offset = token.span.start ∧
      (∃ more tree, Token.EndsOnce (tokens.take i ++ more) ∧
        (∀ added ∈ more, added.WellFormed) ∧
        ofTokens source (tokens.take i ++ more) = .ok tree) ∧
      ∀ more tree, Token.EndsOnce (tokens.take (i + 1) ++ more) →
        ofTokens source (tokens.take (i + 1) ++ more) ≠ .ok tree := by
  obtain ⟨before, last, rfl, isEnd, notEnd⟩ := endsOnce
  obtain ⟨fuel, enough, sourceEq⟩ := ofTokens_source before isEnd
  have reads := source_reads_tokens before isEnd enough
  have closed := Cursor.closed_ofTokens before isEnd
  have restEq := Cursor.rest_ofTokens before isEnd
  have total := Cursor.remaining_eq (Cursor.ofTokens (before ++ [last]))
  rw [restEq, List.length_append, List.length_singleton] at total
  rw [sourceEq] at fails
  unfold ofTokens at fails
  split at fails
  · cases fails
  rename_i failedFault d failed
  cases fails
  obtain ⟨place, ts, moves, viable⟩ := Leads.of_error reads failed
  have tokensEq : before ++ [last] = ts ++ d.current :: d.ahead := by
    rw [← restEq, moves.rest]
    rfl
  have takeEq : (before ++ [last]).take ts.length = ts := by
    rw [tokensEq, List.take_left]
  have takeNext : (before ++ [last]).take (ts.length + 1) = ts ++ [d.current] := by
    rw [tokensEq, List.take_append, List.take_of_length_le (Nat.le_succ _),
      Nat.add_sub_cancel_left]
    rfl
  have currentWellFormed : d.current.WellFormed := by
    apply wellFormed
    rw [tokensEq]
    exact List.mem_append_right _ List.mem_cons_self
  have passedWellFormed : ∀ token ∈ ts, token.WellFormed := by
    intro token member
    apply wellFormed
    rw [tokensEq]
    exact List.mem_append_left _ member
  refine ⟨ts.length, d.current, ?_, place, ?_, ?_⟩
  · rw [tokensEq, List.getElem?_append_right (Nat.le_refl _), Nat.sub_self]
    rfl
  · rw [takeEq]
    exact accepts_of_viable passedWellFormed (viable currentWellFormed)
  · rw [takeNext]
    intro more tree endsOnce
    exact not_accepts_of_failed closed (Cursor.passed_ofTokens _) (by omega) failed moves rfl
      endsOnce

/-- The tokens of `VAL x;`, which lacks a value: the semicolon is at fault. -/
def valuelessTokens : List Token :=
  [{ kind := .valWord, value := "VAL", span := { start := 0, stop := 3 } },
    { kind := .identifier, value := "x", span := { start := 4, stop := 5 } },
    { kind := .semicolon, value := ";", span := { start := 5, stop := 6 } },
    Token.endOfSource 6]

theorem valuelessTokens_endsOnce : Token.EndsOnce valuelessTokens :=
  ⟨valuelessTokens.dropLast, Token.endOfSource 6, rfl, rfl, by decide⟩

theorem valuelessTokens_wellFormed : ∀ token ∈ valuelessTokens, token.WellFormed := by
  simp only [valuelessTokens, List.forall_mem_cons]
  exact ⟨trivial, trivial, trivial, trivial, fun token member => absurd member List.not_mem_nil⟩

theorem valuelessTokens_fail :
    ofTokens source valuelessTokens =
      .error { cause := .unexpectedTokenDetailed ";" "expected rhs in constant definition"
               offset := 5 } :=
  rfl

theorem failure_in_valuelessTokens :
    Token.EndsOnce valuelessTokens ∧ (∀ token ∈ valuelessTokens, token.WellFormed) ∧
      ∃ i token, valuelessTokens[i]? = some token ∧ 5 = token.span.start ∧
        (∃ more tree, Token.EndsOnce (valuelessTokens.take i ++ more) ∧
          (∀ added ∈ more, added.WellFormed) ∧
          ofTokens source (valuelessTokens.take i ++ more) = .ok tree) ∧
        ∀ more tree, Token.EndsOnce (valuelessTokens.take (i + 1) ++ more) →
          ofTokens source (valuelessTokens.take (i + 1) ++ more) ≠ .ok tree :=
  ⟨valuelessTokens_endsOnce, valuelessTokens_wellFormed,
    failure_at_first_misfit valuelessTokens_endsOnce valuelessTokens_wellFormed
      valuelessTokens_fail⟩

end Parse
end ScriptLang
