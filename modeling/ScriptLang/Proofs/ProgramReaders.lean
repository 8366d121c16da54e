import ScriptLang.Parse.Source
import ScriptLang.Proofs.StatementReaders

/-!
What the readers of declarations and programs read.
-/

namespace ScriptLang
namespace Parse

open Grammar

variable {fuel : Nat} {c : Cursor}

/-! ### Globals -/

theorem list_reads (closed : c.Closed) (enough : 8 * c.remaining ≤ fuel) :
    ReadsAs
      (.sequence [.token .openBracket, .separated (.symbol .expression), .token .closeBracket])
      (listWithin fuel) c fun e ts _ =>
        ∃ opening closing elements us, ts = opening :: (us ++ [closing]) ∧
          opening.kind = .openBracket ∧ Spelled (.items elements) us ∧
          closing.kind = .closeBracket ∧ e = .list elements (Token.cover ts) none := by
  unfold listWithin
  refine .next (expect_reads closed (by decide)) ?_
  rintro opening _ d openMoves ⟨rfl, opens⟩
  have dClosed := openMoves.closed closed
  have total := openMoves.remaining
  rw [List.length_singleton] at total
  refine .next ((expressionsRead fuel).items d .closeBracket dClosed (by omega)) ?_
  intro elements ts e innerMoves inner
  refine .next (expect_reads (innerMoves.closed dClosed) (by decide)) ?_
  rintro closing _ f closeMoves ⟨rfl, closes⟩
  refine .covered (openMoves.trans (innerMoves.trans closeMoves)) ?_
  exact ⟨opening, closing, elements, ts, rfl, opens, inner, closes, rfl⟩

theorem listBody_reads {opening : Token} (isWord : opening.kind = .listWord)
    (closed : c.Closed) (enough : 8 * c.remaining ≤ fuel) :
    ReadsAs
      (.sequence [.token .colon, .token .identifier, .token .assignment, .token .openBracket,
        .separated (.symbol .expression), .token .closeBracket])
      (globalBodyWithin fuel opening) c fun body ts _ =>
        GlobalBodySpelled .listWord body.1 body.2 ts := by
  unfold globalBodyWithin
  rw [isWord]
  refine .next (expect_reads closed (by decide)) ?_
  rintro colon _ d colonMoves ⟨rfl, isColon⟩
  have dClosed := colonMoves.closed closed
  have dShorter := colonMoves.remaining_le
  refine .next (identifier_reads dClosed) ?_
  rintro _ _ e typeMoves ⟨typeName, rfl, isType, rfl⟩
  have eClosed := typeMoves.closed dClosed
  have eShorter := typeMoves.remaining_le
  refine .next (expect_reads eClosed (by decide)) ?_
  rintro equals _ f equalsMoves ⟨rfl, isEquals⟩
  have fShorter := equalsMoves.remaining_le
  apply ReadsAs.map (list_reads (equalsMoves.closed eClosed) (by omega))
  rintro _ _ g _ ⟨bracket, closing, elements, us, rfl, opens, inner, closes, rfl⟩
  exact .list isColon isType isEquals opens inner closes

theorem mutableBody_reads {opening : Token} (isWord : opening.kind = .varWord)
    (closed : c.Closed) (enough : 8 * c.remaining ≤ fuel) :
    ReadsAs (.sequence [.typeMark, .initializer]) (globalBodyWithin fuel opening) c
      fun body ts _ => GlobalBodySpelled .varWord body.1 body.2 ts := by
  unfold globalBodyWithin
  rw [isWord]
  refine .next (typeAnnotation_reads closed) ?_
  intro typeName ts d markMoves typeMark
  have shorter := markMoves.remaining_le
  apply ReadsAs.last
  apply ReadsAs.map (initializer_reads (markMoves.closed closed) (by omega))
  intro value us e _ initial
  exact .mutable typeMark initial

theorem immutableBody_reads {opening : Token} (isWord : opening.kind = .valWord)
    (closed : c.Closed) (enough : 8 * c.remaining ≤ fuel) :
    ReadsAs (.sequence [.typeMark, .token .assignment, .symbol .expression])
      (globalBodyWithin fuel opening) c fun body ts _ =>
        GlobalBodySpelled .valWord body.1 body.2 ts := by
  unfold globalBodyWithin
  rw [isWord]
  refine .next (typeAnnotation_reads closed) ?_
  intro typeName ts d markMoves typeMark
  have dClosed := markMoves.closed closed
  have dShorter := markMoves.remaining_le
  refine .next (expectOr_reads dClosed (by decide)) ?_
  rintro equals _ e equalsMoves ⟨rfl, isEquals⟩
  have total := equalsMoves.remaining
  rw [List.length_singleton] at total
  apply ReadsAs.last
  apply ReadsAs.map ((expressionsRead fuel).value (equalsMoves.closed dClosed) (by omega))
  intro value us f _ initial
  have spelled := GlobalBodySpelled.immutable typeMark isEquals initial
  exact spelled

/-- A global of any sort, once it is known how to read what follows its name. -/
theorem global_reads_of_body {word : Kind} {parts : List Phrase} (isWord : c.current.kind = word)
    (notEnd : word ≠ .eof)
    (covers : ∀ kinds,
      Derives (.sequence (.token word :: .token .identifier :: parts)) kinds →
        Derives (.choice (.symbol .list) [.symbol .mutable, .symbol .immutable]) kinds)
    (body : ∀ (opening : Token) (d : Cursor), opening.kind = word → d.Closed →
      8 * d.remaining ≤ fuel →
      ReadsAs (.sequence parts) (globalBodyWithin fuel opening) d fun body ts _ =>
        GlobalBodySpelled word body.1 body.2 ts)
    (closed : c.Closed) (enough : 8 * c.remaining ≤ fuel) :
    ReadsAs (.symbol .global) (globalWithin fuel) c fun g ts _ => GlobalSpelled g ts := by
  unfold globalWithin
  have atGlobal (kinds : List Kind)
      (derives : Derives
        (.sequence (.token word :: .token .identifier :: parts ++ [.token .semicolon])) kinds) :
      Derives (.symbol .global) kinds := by
    obtain ⟨left, right, rfl, first, rest⟩ := derives.split
    exact .symbol (.next (covers left first) rest)
  apply ReadsAs.imp _ atGlobal
  refine .next (advance_reads closed isWord notEnd) ?_
  rintro opening _ d wordMoves ⟨rfl, isWord⟩
  have dClosed := wordMoves.closed closed
  have dShorter := wordMoves.remaining_le
  refine .next (identifier_reads dClosed) ?_
  rintro _ _ e nameMoves ⟨name, rfl, isName, rfl⟩
  have eClosed := nameMoves.closed dClosed
  have eShorter := nameMoves.remaining_le
  refine ReadsAs.append (body opening e isWord eClosed (by omega)) ?_
  rintro ⟨typeName, value⟩ ts f bodyMoves bodySpelled
  refine .next (expect_reads (bodyMoves.closed eClosed) (by decide)) ?_
  rintro semicolon _ g endMoves ⟨rfl, ends⟩
  refine .covered (wordMoves.trans (nameMoves.trans (bodyMoves.trans endMoves))) ?_
  rw [← isWord] at bodySpelled
  have spelled := GlobalSpelled.mk isName bodySpelled ends
  exact spelled

theorem global_reads (starts : startsGlobal c.current.kind = true) (closed : c.Closed)
    (enough : 8 * c.remaining ≤ fuel) :
    ReadsAs (.symbol .global) (globalWithin fuel) c fun g ts _ => GlobalSpelled g ts := by
  unfold startsGlobal at starts
  split at starts
  · rename_i isWord
    refine global_reads_of_body isWord (by decide) ?_
      (fun _ _ isWord closed enough => listBody_reads isWord closed enough) closed enough
    exact fun kinds derives => .choice (.head _) (.symbol derives)
  · rename_i isWord
    refine global_reads_of_body isWord (by decide) ?_
      (fun _ _ isWord closed enough => mutableBody_reads isWord closed enough) closed enough
    exact fun kinds derives => .choice (.tail _ (.head _)) (.symbol derives)
  · rename_i isWord
    refine global_reads_of_body isWord (by decide) ?_
      (fun _ _ isWord closed enough => immutableBody_reads isWord closed enough) closed enough
    exact fun kinds derives => .choice (.tail _ (.tail _ (.head _))) (.symbol derives)
  · cases starts

/-! ### Functions -/

theorem parameter_reads (closed : c.Closed) :
    ReadsAs (.symbol .parameter) parameter c fun p ts _ => ParameterSpelled p ts := by
  unfold parameter
  apply ReadsAs.symbol
  refine .next (identifier_reads closed) ?_
  rintro _ _ d nameMoves ⟨name, rfl, isName, rfl⟩
  have dClosed := nameMoves.closed closed
  refine .next (expect_reads dClosed (by decide)) ?_
  rintro colon _ e colonMoves ⟨rfl, isColon⟩
  apply ReadsAs.last
  apply ReadsAs.map (identifier_reads (colonMoves.closed dClosed))
  rintro _ _ f _ ⟨typeName, rfl, isType, rfl⟩
  exact .mk isName isColon isType

theorem moreParameters_reads (closed : c.Closed) (enough : c.remaining < fuel) :
    ReadsAs (.many (.sequence [.token .comma, .symbol .parameter])) (moreParametersWithin fuel) c
      fun ps ts _ => MoreParametersSpelled ps ts := by
  induction fuel generalizing c with
  | zero => omega
  | succ fuel inductionHypothesis =>
      rw [moreParametersWithin]
      apply ReadsAs.peek
      split
      · rename_i isComma
        apply ReadsAs.imp _ fun _ derives =>
          Derives.sequence_one.mp
            (Derives.again_append [.token .comma, .symbol .parameter] [] derives)
        refine .next (advance_reads closed isComma (by decide)) ?_
        rintro comma _ d commaMoves ⟨rfl, isComma⟩
        have dClosed := commaMoves.closed closed
        have total := commaMoves.remaining
        rw [List.length_singleton] at total
        refine .next (parameter_reads dClosed) ?_
        intro first ts e firstMoves firstSpelled
        have shorter := firstMoves.remaining_le
        apply ReadsAs.last
        apply ReadsAs.map (inductionHypothesis (firstMoves.closed dClosed) (by omega))
        intro others us f _ othersSpelled
        have spelled := MoreParametersSpelled.cons isComma firstSpelled othersSpelled
        exact spelled
      · exact .none .nil

theorem parameters_reads (closed : c.Closed) (enough : c.remaining < fuel) :
    ReadsAs (.separated (.symbol .parameter)) (parametersWithin fuel) c fun ps ts _ =>
      ParametersSpelled ps ts := by
  unfold parametersWithin
  apply ReadsAs.peek
  split
  · exact .absent .nil
  · apply ReadsAs.present
    refine .next (parameter_reads closed) ?_
    intro first ts d firstMoves firstSpelled
    have shorter := firstMoves.remaining_le
    apply ReadsAs.last
    apply ReadsAs.map (moreParameters_reads (firstMoves.closed closed) (by omega))
    intro others us e _ othersSpelled
    exact .cons firstSpelled othersSpelled

theorem function_reads (closed : c.Closed) (enough : 8 * c.remaining ≤ fuel) :
    ReadsAs (.symbol .function) (functionWithin fuel) c fun f ts _ => FunctionSpelled f ts := by
  unfold functionWithin
  apply ReadsAs.symbol
  refine .next (expect_reads closed (by decide)) ?_
  rintro word _ d wordMoves ⟨rfl, isWord⟩
  have dClosed := wordMoves.closed closed
  have total := wordMoves.remaining
  rw [List.length_singleton] at total
  refine .next (identifier_reads dClosed) ?_
  rintro _ _ e nameMoves ⟨name, rfl, isName, rfl⟩
  have eClosed := nameMoves.closed dClosed
  have eShorter := nameMoves.remaining_le
  refine .next (expect_reads eClosed (by decide)) ?_
  rintro opening _ f openMoves ⟨rfl, opens⟩
  have fClosed := openMoves.closed eClosed
  have fShorter := openMoves.remaining_le
  refine .next (parameters_reads fClosed (by omega)) ?_
  intro parameters ts g innerMoves inner
  have gClosed := innerMoves.closed fClosed
  have gShorter := innerMoves.remaining_le
  refine .next (expect_reads gClosed (by decide)) ?_
  rintro closing _ h closeMoves ⟨rfl, closes⟩
  have hClosed := closeMoves.closed gClosed
  have hShorter := closeMoves.remaining_le
  refine .next (typeAnnotation_reads hClosed) ?_
  intro typeName us i markMoves typeMark
  have iClosed := markMoves.closed hClosed
  have iShorter := markMoves.remaining_le
  refine .next (expect_reads iClosed (by decide)) ?_
  rintro doWord _ j doMoves ⟨rfl, isDo⟩
  have jClosed := doMoves.closed iClosed
  have jShorter := doMoves.remaining_le
  refine .next ((statementsRead fuel).body jClosed (by omega)) ?_
  intro body vs k bodyMoves bodySpelled
  refine .next (expect_reads (bodyMoves.closed jClosed) (by decide)) ?_
  rintro endWord _ l endMoves ⟨rfl, isEnd⟩
  refine .covered (wordMoves.trans (nameMoves.trans (openMoves.trans (innerMoves.trans
    (closeMoves.trans (markMoves.trans (doMoves.trans
      (bodyMoves.trans endMoves)))))))) ?_
  have spelled :=
    FunctionSpelled.mk isWord isName opens inner closes typeMark isDo bodySpelled isEnd
  exact spelled

/-! ### Programs -/

theorem globals_read (closed : c.Closed) (enough : 8 * c.remaining + 1 ≤ fuel) :
    ReadsAs (.many (.symbol .global)) (globalsWithin fuel) c fun gs ts _ =>
      EachSpelled GlobalSpelled gs ts := by
  induction fuel generalizing c with
  | zero => omega
  | succ fuel inductionHypothesis =>
      rw [globalsWithin]
      apply ReadsAs.peek
      split
      · rename_i starts
        refine .again (global_reads starts closed (by omega)) ?_
        intro first ts d firstMoves firstSpelled
        have shorter := firstMoves.remaining_lt (firstSpelled.ne_nil)
        apply ReadsAs.map (inductionHypothesis (firstMoves.closed closed) (by omega))
        intro others us e _ othersSpelled
        exact .cons firstSpelled othersSpelled
      · exact .none .nil

theorem functions_read (closed : c.Closed) (enough : 8 * c.remaining + 1 ≤ fuel) :
    ReadsAs (.many (.symbol .function)) (functionsWithin fuel) c fun fs ts _ =>
      EachSpelled FunctionSpelled fs ts := by
  induction fuel generalizing c with
  | zero => omega
  | succ fuel inductionHypothesis =>
      rw [functionsWithin]
      apply ReadsAs.peek
      split
      · refine .again (function_reads closed (by omega)) ?_
        intro first ts d firstMoves firstSpelled
        have shorter := firstMoves.remaining_lt (firstSpelled.ne_nil)
        apply ReadsAs.map (inductionHypothesis (firstMoves.closed closed) (by omega))
        intro others us e _ othersSpelled
        exact .cons firstSpelled othersSpelled
      · exact .none .nil

theorem source_reads (closed : c.Closed) (atStart : c.passed = [])
    (enough : 8 * c.remaining + 1 ≤ fuel) :
    ReadsAs (.sequence [.many (.symbol .global), .many (.symbol .function)]) (sourceWithin fuel)
      c fun source ts d => SourceSpelled source ts ∧ d.current.kind = .eof := by
  unfold sourceWithin
  refine .next (globals_read closed enough) ?_
  intro globals ts d globalsMoves globalsSpelled
  have dClosed := globalsMoves.closed closed
  have shorter := globalsMoves.remaining_le
  refine .next (functions_read dClosed (by omega)) ?_
  intro functions us e functionsMoves functionsSpelled
  change ReadsAs _ (if (e.current.kind != .eof) = true then unexpected else _) e _
  split
  · exact Reads.unexpected (.nil _)
  · rename_i atEnd
    have isEnd : e.current.kind = .eof := by
      simpa using atEnd
    have moves := globalsMoves.trans functionsMoves
    have spelled := SourceSpelled.mk globalsSpelled functionsSpelled
    rw [moves.stop_cover_of_start atStart] at spelled
    rw [← List.append_nil us] at spelled
    exact ⟨[], .refl e, .done, spelled, isEnd⟩

end Parse
end ScriptLang
