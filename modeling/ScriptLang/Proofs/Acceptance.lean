import ScriptLang.Proofs.Derivations
import ScriptLang.Proofs.ProgramReaders
import ScriptLang.Proofs.SpelledPrograms

/-!
The parser accepts exactly the grammar.

What is read is spelled by the tokens, and what is spelled by the tokens is read; so the tokens
of a program are those of a derivation, and the tree read is the only one that they spell.
-/

namespace ScriptLang

open Grammar

/-- The last token, and no other one, is an end of source. -/
def Token.EndsOnce (tokens : List Token) : Prop :=
  ∃ before last, tokens = before ++ [last] ∧ last.kind = .eof ∧
    ∀ token ∈ before, token.kind ≠ .eof

theorem Cursor.passed_ofTokens (tokens : List Token) : (Cursor.ofTokens tokens).passed = [] := by
  unfold Cursor.ofTokens
  dsimp only
  split
  · rfl
  · rfl

theorem Cursor.rest_ofTokens (before : List Token) {last : Token} (isEnd : last.kind = .eof) :
    (Cursor.ofTokens (before ++ [last])).rest = before ++ [last] := by
  unfold Cursor.ofTokens
  rw [List.getLast?_concat]
  dsimp only
  rw [if_pos isEnd, List.append_nil]
  cases before with
  | nil => rfl
  | cons first before => rfl

theorem Cursor.closed_ofTokens (before : List Token) {last : Token} (isEnd : last.kind = .eof) :
    (Cursor.ofTokens (before ++ [last])).Closed :=
  ⟨before, last, rest_ofTokens before isEnd, isEnd⟩

theorem Token.eq_of_append_eof {before ts us : List Token} {last token : Token}
    (notEnd : ∀ t ∈ before, t.kind ≠ .eof) (isEnd : token.kind = .eof)
    (tokensEq : before ++ [last] = ts ++ token :: us) : before = ts ∧ last = token ∧ us = [] := by
  rcases List.eq_nil_or_concat us with rfl | ⟨us, final, rfl⟩
  · obtain ⟨beforeEq, lastEq⟩ := List.append_inj' tokensEq rfl
    exact ⟨beforeEq, (List.cons.inj lastEq).1, rfl⟩
  · rw [List.concat_eq_append, ← List.cons_append, ← List.append_assoc] at tokensEq
    obtain ⟨beforeEq, -⟩ := List.append_inj' tokensEq rfl
    have member : token ∈ before := by
      rw [beforeEq]
      exact List.mem_append_right _ List.mem_cons_self
    exact absurd isEnd (notEnd token member)

namespace Parse

section

variable (before : List Token) {last : Token}

theorem ofTokens_source (isEnd : last.kind = .eof) :
    ∃ fuel, 8 * (before.length + 1) + 1 ≤ fuel ∧
      ofTokens source (before ++ [last]) = ofTokens (sourceWithin fuel) (before ++ [last]) := by
  have total := Cursor.remaining_eq (Cursor.ofTokens (before ++ [last]))
  rw [Cursor.rest_ofTokens before isEnd, List.length_append, List.length_singleton] at total
  have sourceEq (c : Cursor) : source c = sourceWithin (8 * (c.remaining + 1)) c := rfl
  refine ⟨8 * ((Cursor.ofTokens (before ++ [last])).remaining + 1), by omega, ?_⟩
  unfold ofTokens
  rw [sourceEq]

theorem source_reads_tokens (isEnd : last.kind = .eof) {fuel : Nat}
    (enough : 8 * (before.length + 1) + 1 ≤ fuel) :
    ReadsAs (.sequence [.many (.symbol .global), .many (.symbol .function)]) (sourceWithin fuel)
      (Cursor.ofTokens (before ++ [last])) fun source ts d =>
        SourceSpelled source ts ∧ d.current.kind = .eof := by
  have total := Cursor.remaining_eq (Cursor.ofTokens (before ++ [last]))
  rw [Cursor.rest_ofTokens _ isEnd, List.length_append, List.length_singleton] at total
  exact source_reads (Cursor.closed_ofTokens before isEnd) (Cursor.passed_ofTokens _) (by omega)

theorem spelled_of_accepts (isEnd : last.kind = .eof) (notEnd : ∀ t ∈ before, t.kind ≠ .eof)
    {tree : Source} (accepts : ofTokens source (before ++ [last]) = .ok tree) :
    SourceSpelled tree before ∧
      Derives (.symbol .source) ((before ++ [last]).map Token.kind) := by
  obtain ⟨fuel, enough, sourceEq⟩ := ofTokens_source before isEnd
  have reads := source_reads_tokens before isEnd enough
  rw [sourceEq] at accepts
  unfold ofTokens at accepts
  split at accepts
  · rename_i value d result
    cases accepts
    obtain ⟨ts, moves, derives, spelled, atEnd⟩ := Leads.of_ok reads result
    have restEq := moves.rest
    rw [Cursor.rest_ofTokens _ isEnd] at restEq
    obtain ⟨rfl, rfl, -⟩ := Token.eq_of_append_eof notEnd atEnd restEq
    refine ⟨spelled, ?_⟩
    have ending : Derives (.sequence [.token .eof]) [d.current.kind] := by
      rw [atEnd]
      exact .next (.token _) .done
    rw [List.map_append]
    exact .symbol (derives.append ending)
  · cases accepts

theorem along_ofTokens (isEnd : last.kind = .eof) :
    Along (Cursor.ofTokens (before ++ [last])) (before ++ [last]) (before ++ [last]) where
  closed := Cursor.closed_ofTokens before isEnd
  here := ⟨[], (List.append_nil _).trans (Cursor.rest_ofTokens before isEnd).symm⟩
  there := List.prefix_refl _

theorem not_passes_ofTokens {α : Type} {reader : Parse α} (isEnd : last.kind = .eof) :
    ¬Passes reader (Cursor.ofTokens (before ++ [last])) (before ++ [last]).length := by
  intro passes
  have short := passes.lt_remaining
  rw [Cursor.remaining_eq, Cursor.rest_ofTokens before isEnd] at short
  exact absurd short (Nat.lt_irrefl _)

theorem accepts_of_spelled (isEnd : last.kind = .eof) {tree : Source}
    (spelled : SourceSpelled tree before) : ofTokens source (before ++ [last]) = .ok tree := by
  obtain ⟨fuel, enough, sourceEq⟩ := ofTokens_source before isEnd
  have total := Cursor.remaining_eq (Cursor.ofTokens (before ++ [last]))
  rw [Cursor.rest_ofTokens before isEnd, List.length_append, List.length_singleton] at total
  have enoughHere : 8 * (Cursor.ofTokens (before ++ [last])).remaining + 1 ≤ fuel := by
    omega
  rw [sourceEq]
  unfold ofTokens
  rcases source_follows spelled isEnd (Cursor.passed_ofTokens _) (along_ofTokens before isEnd)
    enoughHere with ⟨_, d, result, _⟩ | passes
  · rw [result]
  · exact absurd passes (not_passes_ofTokens before isEnd)

end

theorem accepts_of_derives {tokens : List Token} (endsOnce : Token.EndsOnce tokens)
    (wellFormed : ∀ token ∈ tokens, token.WellFormed)
    (derives : Derives (.symbol .source) (tokens.map Token.kind)) :
    ∃ tree, ofTokens source tokens = .ok tree := by
  obtain ⟨before, last, rfl, isEnd, _⟩ := endsOnce
  obtain ⟨tree, ts, final, tokensEq, _, spelled⟩ := derives.source_spelled wellFormed
  obtain ⟨rfl, -⟩ := List.append_inj' tokensEq rfl
  exact ⟨tree, accepts_of_spelled before isEnd spelled⟩

/-- The parser accepts the tokens of a derivation, and no others. -/
theorem accepts_iff_derives {tokens : List Token} (endsOnce : Token.EndsOnce tokens)
    (wellFormed : ∀ token ∈ tokens, token.WellFormed) :
    (∃ tree, ofTokens source tokens = .ok tree) ↔
      Derives (.symbol .source) (tokens.map Token.kind) := by
  constructor
  · rintro ⟨tree, accepts⟩
    obtain ⟨before, last, rfl, isEnd, notEnd⟩ := endsOnce
    exact (spelled_of_accepts before isEnd notEnd accepts).2
  · exact accepts_of_derives endsOnce wellFormed

/-- The tokens of `VAL x = 1;`. -/
def constantTokens : List Token :=
  [{ kind := .valWord, value := "VAL", span := { start := 0, stop := 3 } },
    { kind := .identifier, value := "x", span := { start := 4, stop := 5 } },
    { kind := .assignment, value := "=", span := { start := 6, stop := 7 } },
    { kind := .integer, value := "1", span := { start := 8, stop := 9 } },
    { kind := .semicolon, value := ";", span := { start := 9, stop := 10 } },
    Token.endOfSource 10]

theorem constantTokens_endsOnce : Token.EndsOnce constantTokens :=
  ⟨constantTokens.dropLast, Token.endOfSource 10, rfl, rfl, by decide⟩

theorem constantTokens_wellFormed : ∀ token ∈ constantTokens, token.WellFormed := by
  simp only [constantTokens, List.forall_mem_cons]
  have one : IsDigits ['1'] := .single rfl
  exact ⟨trivial, trivial, trivial, one, trivial, trivial,
    fun token member => absurd member List.not_mem_nil⟩

theorem constantTokens_derived : Derives (.symbol .source) (constantTokens.map Token.kind) := by
  have one : Derives (.symbol .primary) [.integer] :=
    .symbol (.choice (.tail _ (.tail _ (.tail _ (.head _)))) (.token _))
  have product : Derives (.symbol .multiplicative) [.integer] :=
    .symbol (.choice (.tail _ (.head _)) one)
  have sum : Derives (.symbol .additive) [.integer] := .symbol (.choice (.tail _ (.head _)) product)
  have comparison : Derives (.symbol .comparison) [.integer] :=
    .symbol (.choice (.tail _ (.head _)) sum)
  have value : Derives (.symbol .expression) [.integer] :=
    .symbol (.symbol (.choice (.tail _ (.head _)) comparison))
  have constant : Derives (.symbol .immutable)
      [.valWord, .identifier, .assignment, .integer] :=
    .symbol (.next (.token _) (.next (.token _) (.skip .absent (.next (.token _)
      (.next value .done)))))
  have global : Derives (.symbol .global)
      [.valWord, .identifier, .assignment, .integer, .semicolon] :=
    .symbol (.next (.choice (.tail _ (.tail _ (.head _))) constant) (.next (.token _) .done))
  exact .symbol (.next (.again global .none) (.skip .none (.next (.token _) .done)))

theorem accepts_constantTokens :
    Token.EndsOnce constantTokens ∧ (∀ token ∈ constantTokens, token.WellFormed) ∧
      ∃ tree, ofTokens source constantTokens = .ok tree :=
  ⟨constantTokens_endsOnce, constantTokens_wellFormed,
    (accepts_iff_derives constantTokens_endsOnce constantTokens_wellFormed).mpr
      constantTokens_derived⟩

end Parse
end ScriptLang
