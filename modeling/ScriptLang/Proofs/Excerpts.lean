import ScriptLang.Proofs.Acceptance
import ScriptLang.Proofs.AppendedLines

/-!
Expressions on their own.

The bytes that some tokens of a text cover are a text with the same tokens, which start there as
much earlier as there are bytes before.  An expression that these tokens spell is read from them
again: the tokens around it had no part in how it was grouped.
-/

namespace ScriptLang

/-! ### Tokens on their own -/

namespace Token

variable {offset stop : Nat} {text rest : List Char}

theorem Passes.from_token {earlier later : List Token} {token : Token}
    (passes : Passes offset text (earlier ++ token :: later) stop rest) :
    ∃ before behind, text = before ++ behind ∧ token.span.start = offset + Text.byteSize before ∧
      Passes token.span.start behind (token :: later) stop rest := by
  generalize tokensEq : earlier ++ token :: later = tokens at passes
  induction passes generalizing earlier with
  | done =>
      exact absurd tokensEq (List.append_ne_nil_of_right_ne_nil _ (List.cons_ne_nil _ _))
  | @gap offset _ piece _ _ _ fits _ inductionHypothesis =>
      obtain ⟨before, behind, rfl, startEq, passes⟩ := inductionHypothesis tokensEq
      refine ⟨piece ++ before, behind, (List.append_assoc piece before behind).symm, ?_, passes⟩
      rw [startEq, Text.byteSize_append, Nat.add_assoc]
  | @token offset _ piece _ _ _ _ _ fits others inductionHypothesis =>
      cases earlier with
      | nil =>
          cases tokensEq
          exact ⟨[], _, rfl, rfl, .token fits others⟩
      | cons first earlier =>
          obtain ⟨before, behind, rfl, startEq, passes⟩ :=
            inductionHypothesis (List.cons.inj tokensEq).2
          refine ⟨piece ++ before, behind, (List.append_assoc piece before behind).symm, ?_,
            passes⟩
          rw [startEq, Text.byteSize_append, Nat.add_assoc]

theorem Passes.up_to {ts later : List Token} (nonempty : ts ≠ [])
    (passes : Passes offset text (ts ++ later) stop rest) :
    ∃ behind, Passes offset text ts (cover ts).stop behind := by
  generalize tokensEq : ts ++ later = tokens at passes
  induction passes generalizing ts with
  | done =>
      exact absurd tokensEq (List.append_ne_nil_of_left_ne_nil nonempty _)
  | gap fits _ inductionHypothesis =>
      obtain ⟨behind, passes⟩ := inductionHypothesis nonempty tokensEq
      exact ⟨behind, .gap fits passes⟩
  | token fits others inductionHypothesis =>
      obtain ⟨first, ts, rfl⟩ := List.exists_cons_of_ne_nil nonempty
      obtain ⟨rfl, restEq⟩ := List.cons.inj tokensEq
      cases ts with
      | nil =>
          exact ⟨_, .token fits .done⟩
      | cons second ts =>
          obtain ⟨behind, passes⟩ := inductionHypothesis (List.cons_ne_nil _ _) restEq
          exact ⟨behind, .token fits passes⟩

/-- The bytes that some tokens of a text cover are passed on their own, with these tokens. -/
theorem Passes.excerpt {earlier ts later : List Token} (nonempty : ts ≠ [])
    (passes : Passes 0 text (earlier ++ (ts ++ later)) stop rest) :
    ∃ covered behind, Text.Stands text (cover ts) covered behind ∧
      Passes (cover ts).start covered ts (cover ts).stop [] := by
  obtain ⟨first, others, rfl⟩ := List.exists_cons_of_ne_nil nonempty
  obtain ⟨before, onward, rfl, startEq, fromFirst⟩ := Passes.from_token passes
  obtain ⟨behind, upToLast⟩ := Passes.up_to nonempty fromFirst
  obtain ⟨covered, rfl, stopEq, cut⟩ := upToLast.cut
  have startEq : (cover (first :: others)).start = Text.byteSize before := by
    rw [← Nat.zero_add (Text.byteSize before)]
    exact startEq
  refine ⟨covered, behind, ⟨before, rfl, startEq, ?_⟩, cut⟩
  rw [← startEq]
  exact stopEq

/-- A text that is passed from a later offset on has the same tokens as a text of its own, as much
earlier. -/
theorem Passes.scan_alone {start : Nat} {ts : List Token} (passes : Passes start text ts stop []) :
    ∃ own, scan (String.ofList text) = .ok (own ++ [endOfSource (Text.byteSize text)]) ∧
      own.map (Token.relocated (· + start)) = ts := by
  have shifted := scanFrom_relocated start 0 text
  rw [Nat.zero_add, passes.scanFrom_eq] at shifted
  have ending : scanFrom stop [] = .ok [endOfSource stop] := by rw [scanFrom]
  rw [ending] at shifted
  generalize scanned : scanFrom 0 text = result at shifted
  cases shifted with
  | @ok tokens _ same =>
      rw [← String.toList_ofList (l := text)] at scanned
      obtain ⟨own, rfl, _⟩ := passes_of_scan scanned
      rw [List.map_append] at same
      obtain ⟨sameTokens, _⟩ := List.append_inj' same rfl
      rw [Text.utf8ByteSize_ofList] at scanned
      exact ⟨own, scanned, sameTokens.symm⟩

end Token

/-! ### Relocated spellings -/

section Relocated

variable (f : Nat → Nat)

theorem Token.relocated_back (distance : Nat) :
    Token.relocated (· - distance) ∘ Token.relocated (· + distance) = id := by
  funext token
  obtain ⟨kind, value, start, stop⟩ := token
  simp [Token.relocated, Span.relocated]

theorem Token.cover_relocated {ts : List Token} (nonempty : ts ≠ []) :
    Token.cover (ts.map (Token.relocated f)) = (Token.cover ts).relocated f := by
  unfold Token.cover Span.relocated
  rw [List.head?_map, List.getLast?_map, List.head?_eq_some_head nonempty,
    List.getLast?_eq_some_getLast nonempty]
  rfl

theorem Parse.literalOf_relocated_eq_ok {token : Token} {value : Literal}
    (reads : literalOf token = .ok value) : literalOf (token.relocated f) = .ok value := by
  have literals := literalOf_relocated (f := f) token
  rw [reads] at literals
  generalize literalOf (token.relocated f) = result at literals
  cases literals with
  | ok same => rw [same]

def Piece.SpelledRelocated : Piece → List Token → Prop
  | .expression bound e, ts => Spelled (.expression bound (e.relocated f)) ts
  | .items es, ts => Spelled (.items (relocatedExprs f es)) ts
  | .moreItems es, ts => Spelled (.moreItems (relocatedExprs f es)) ts
  | _, _ => True

theorem Spelled.relocated {piece : Piece} {ts : List Token} (spelled : Spelled piece ts) :
    piece.SpelledRelocated f (ts.map (Token.relocated f)) := by
  induction spelled with
  | literal reads => exact .literal (Parse.literalOf_relocated_eq_ok f reads)
  | @access _ name isName => exact @Spelled.access _ (name.relocated f) isName
  | @element _ name _ _ _ _ isName opens closes _ inner =>
      rw [Piece.SpelledRelocated, Expr.relocated,
        ← Token.cover_relocated f (List.cons_ne_nil _ _), List.map_cons, List.map_cons,
        List.map_append]
      exact @Spelled.element _ (name.relocated f) _ _ _ _ isName opens closes inner
  | @call _ name _ _ _ _ isName opens closes _ inner =>
      rw [Piece.SpelledRelocated, Expr.relocated,
        ← Token.cover_relocated f (List.cons_ne_nil _ _), List.map_cons, List.map_cons,
        List.map_append]
      exact @Spelled.call _ (name.relocated f) _ _ _ _ isName opens closes inner
  | group opens closes _ inner =>
      rw [Piece.SpelledRelocated, Expr.relocated,
        ← Token.cover_relocated f (List.cons_ne_nil _ _), List.map_cons, List.map_append]
      exact .group opens closes inner
  | binary isOp binds leftSpelled _ left right =>
      have nonempty := List.append_ne_nil_of_left_ne_nil leftSpelled.expression_ne_nil
      rw [Piece.SpelledRelocated, Expr.relocated, ← Token.cover_relocated f (nonempty _),
        List.map_append, List.map_cons]
      exact .binary isOp binds left right
  | noItems => exact .noItems
  | items _ _ first others =>
      rw [List.map_append]
      exact .items first others
  | noMoreItems => exact .noMoreItems
  | moreItems isComma _ _ first others =>
      rw [List.map_cons, List.map_append]
      exact .moreItems isComma first others
  | _ => exact True.intro

end Relocated

/-! ### Expressions read again -/

namespace Parse

theorem expression_of_spelled (before : List Token) (last : Token) (isEnd : last.kind = .eof)
    {e : Expr} (spelled : Spelled (.expression 0 e) before) :
    ∃ d, expression .default (Cursor.ofTokens (before ++ [last])) = .ok e d ∧ d.rest = [last] := by
  have extends_ : Extends 0 e before := spelled.readable
  have ahead : Ahead (Ends 0) [last] := by
    apply ahead_cons
    rw [isEnd]
    decide
  rcases extends_.value _ _ [last] (8 * ((Cursor.ofTokens (before ++ [last])).remaining + 1))
    (along_ofTokens before isEnd) (by omega) ahead with ⟨_, d, result, moves⟩ | passes
  · have restEq := moves.rest
    rw [Cursor.rest_ofTokens before isEnd] at restEq
    exact ⟨d, result, (List.append_cancel_left restEq).symm⟩
  · exact absurd passes (not_passes_ofTokens before isEnd)

end Parse

theorem Spelled.expression_unique {ts : List Token} {e e' : Expr}
    (spelled : Spelled (.expression 0 e) ts) (spelled' : Spelled (.expression 0 e') ts) :
    e = e' := by
  obtain ⟨d, read, _⟩ := Parse.expression_of_spelled ts (.endOfSource 0) rfl spelled
  obtain ⟨d', read', _⟩ := Parse.expression_of_spelled ts (.endOfSource 0) rfl spelled'
  rw [read] at read'
  cases read'
  rfl

/-- The bytes of the span are a text of their own.  From all of its tokens an expression is read,
and that is the given one, but for the bytes before the span. -/
def Expr.ReadsAlone (text : List Char) (e : Expr) : Prop :=
  ∃ covered behind tokens alone d, Text.Stands text e.span covered behind ∧
    Token.scan (String.ofList covered) = .ok tokens ∧
    Parse.expression .default (Cursor.ofTokens tokens) = .ok alone d ∧
    d.rest = [Token.endOfSource (Text.byteSize covered)] ∧
    alone.relocated (· + e.span.start) = e

theorem Spelled.readsAlone {text rest : List Char} {stop : Nat} {earlier ts later : List Token}
    {e : Expr} (passes : Token.Passes 0 text (earlier ++ (ts ++ later)) stop rest)
    (spelled : Spelled (.expression 0 e) ts) : e.ReadsAlone text := by
  have nonempty := spelled.expression_ne_nil
  obtain ⟨covered, behind, stands, onItsOwn⟩ := passes.excerpt nonempty
  obtain ⟨own, scanned, ownEq⟩ := onItsOwn.scan_alone
  rw [← spelled.span_eq_cover] at stands ownEq
  -- Taken back to the start of the text, the tokens are those of the excerpt.
  have back : ts.map (Token.relocated (· - e.span.start)) = own := by
    rw [← ownEq, List.map_map, Token.relocated_back, List.map_id]
  have alone : Spelled (.expression 0 (e.relocated (· - e.span.start))) own := by
    rw [← back]
    exact spelled.relocated _
  obtain ⟨d, read, atEnd⟩ := Parse.expression_of_spelled own (.endOfSource _) rfl alone
  refine ⟨covered, behind, _, _, d, stands, scanned, read, atEnd, ?_⟩
  have forth : Spelled (.expression 0 _) ts := ownEq ▸ alone.relocated (· + e.span.start)
  exact forth.expression_unique spelled

end ScriptLang
