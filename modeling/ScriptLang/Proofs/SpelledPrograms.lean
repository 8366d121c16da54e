import ScriptLang.Parse.Source
import ScriptLang.Proofs.SpelledStatements

/-!
Spelled declarations and programs are read.
-/

namespace ScriptLang
namespace Parse

variable {c : Cursor} {shared rest : List Token} {fuel : Nat}

/-! ### Globals -/

theorem list_follows {opening closing : Token} {elements : List Expr} {ts : List Token}
    (opens : opening.kind = .openBracket) (inner : Spelled (.items elements) ts)
    (closes : closing.kind = .closeBracket)
    (along : Along c shared (opening :: (ts ++ [closing]) ++ rest))
    (enough : 8 * c.remaining ≤ fuel) :
    Follows (listWithin fuel) c shared
      (.list elements (Token.cover (opening :: (ts ++ [closing]))) none)
      (opening :: (ts ++ [closing])) := by
  simp only [List.append_assoc, List.cons_append, List.nil_append] at along
  unfold listWithin
  refine Follows.bind along (expect_follows along opens (by decide)) ?_
  intro d fewer openMoves further
  have total := openMoves.remaining
  rw [List.length_singleton] at total
  refine Follows.bind further
    (inner.readable .closeBracket (.inr rfl) d fewer _ fuel further (by omega)
      (ahead_cons closes)) ?_
  intro e fewer innerMoves further
  refine Follows.bind further (expect_follows further closes (by decide)) ?_
  intro f fewer closeMoves further
  exact .covered (openMoves.trans (innerMoves.trans closeMoves))

theorem globalBody_follows {opening : Token} {typeName : Option String} {value : Option Expr}
    {ts : List Token} (body : GlobalBodySpelled opening.kind typeName value ts)
    (along : Along c shared (ts ++ rest)) (enough : 8 * c.remaining ≤ fuel)
    (ahead : Ahead (· = .semicolon) rest) :
    Follows (globalBodyWithin fuel opening) c shared (typeName, value) ts := by
  have endsAhead : Ahead (Ends 0) rest :=
    ahead.imp fun kind isSemicolon => by rw [isSemicolon]; decide
  unfold globalBodyWithin
  generalize opening.kind = word at body
  cases body with
  | @list colon elementType equals bracket closing elements ts isColon isType isEquals opens inner
      closes =>
      simp only [List.append_assoc, List.cons_append, List.nil_append] at along
      refine Follows.bind along (expect_follows along isColon (by decide)) ?_
      intro d fewer colonMoves further
      have dShorter := colonMoves.remaining_le
      refine Follows.bind further (identifier_follows further isType) ?_
      intro e fewer typeMoves further
      have eShorter := typeMoves.remaining_le
      refine Follows.bind further (expect_follows further isEquals (by decide)) ?_
      intro f fewer equalsMoves further
      have fShorter := equalsMoves.remaining_le
      have whole : Along f fewer ((bracket :: (ts ++ [closing])) ++ rest) := by
        simp only [List.append_assoc, List.cons_append, List.nil_append]
        exact further
      exact .map whole (list_follows opens inner closes whole (by omega))
  | mutable typeMark initial =>
      rw [List.append_assoc] at along
      refine Follows.bind along
        (typeMark_follows typeMark along (InitializerReadable.ahead initial ahead)) ?_
      intro d fewer markMoves further
      have shorter := markMoves.remaining_le
      exact .map further (initial.readable d fewer rest fuel further (by omega) ahead)
  | immutable typeMark isEquals initial =>
      simp only [List.append_assoc, List.cons_append] at along
      refine Follows.bind along
        (typeMark_follows typeMark along (ahead_cons (by rw [isEquals]; decide))) ?_
      intro d fewer markMoves further
      have dShorter := markMoves.remaining_le
      refine Follows.bind further (expectOr_follows further isEquals (by decide)) ?_
      intro e fewer equalsMoves further
      have total := equalsMoves.remaining
      rw [List.length_singleton] at total
      have extends_ : Extends 0 _ _ := initial.readable
      exact .map further (extends_.value e fewer rest fuel further (by omega) endsAhead)

theorem global_follows {g : GlobalDecl} {ts : List Token} (spelled : GlobalSpelled g ts)
    (along : Along c shared (ts ++ rest)) (enough : 8 * c.remaining ≤ fuel) :
    Follows (globalWithin fuel) c shared g ts := by
  cases spelled with
  | mk isName body ends =>
      simp only [List.append_assoc, List.cons_append, List.nil_append] at along
      have notEnd := body.word_ne_eof
      unfold globalWithin
      refine Follows.bind along (advance_follows along notEnd) ?_
      intro d fewer wordMoves further
      have dShorter := wordMoves.remaining_le
      refine Follows.bind further (identifier_follows further isName) ?_
      intro e fewer nameMoves further
      have eShorter := nameMoves.remaining_le
      refine Follows.bind further
        (globalBody_follows body further (by omega) (ahead_cons ends)) ?_
      intro f fewer bodyMoves further
      refine Follows.bind further (expect_follows further ends (by decide)) ?_
      intro g fewer endMoves further
      exact .covered (wordMoves.trans (nameMoves.trans (bodyMoves.trans endMoves)))

/-! ### Functions -/

theorem parameter_follows {p : Parameter} {ts : List Token} (spelled : ParameterSpelled p ts)
    (along : Along c shared (ts ++ rest)) : Follows parameter c shared p ts := by
  cases spelled with
  | @mk name colon typeName isName isColon isType =>
      change Follows _ c shared _ ([name] ++ ([colon] ++ [typeName]))
      unfold parameter
      refine (identifier_follows along isName).bind along ?_
      intro d fewer _ further
      have further : Along d fewer ([colon] ++ ([typeName] ++ rest)) := further
      refine (expect_follows further isColon (by decide)).bind further ?_
      intro e fewer _ further
      exact .map further (identifier_follows further isType)

theorem moreParameters_follow {ps : List Parameter} {ts : List Token}
    (spelled : MoreParametersSpelled ps ts) (along : Along c shared (ts ++ rest))
    (enough : c.remaining < fuel) (closes : Ahead (· = .closeParen) rest) :
    Follows (moreParametersWithin fuel) c shared ps ts := by
  induction spelled generalizing c shared fuel with
  | nil =>
      cases fuel with
      | zero => omega
      | succ fuel =>
          have along : Along c shared rest := along
          apply along.look
          intro isNext
          rw [moreParametersWithin]
          apply Follows.peek
          rw [closes _ isNext, if_neg (by decide)]
          exact .pure
  | cons isComma firstSpelled _ inductionHypothesis =>
      cases fuel with
      | zero => omega
      | succ fuel =>
          simp only [List.append_assoc, List.cons_append] at along
          apply along.look_cons
          intro here
          rw [moreParametersWithin]
          apply Follows.peek
          rw [here, if_pos isComma]
          refine Follows.bind along (advance_follows along (by rw [isComma]; decide)) ?_
          intro d fewer commaMoves further
          have total := commaMoves.remaining
          rw [List.length_singleton] at total
          refine Follows.bind further (parameter_follows firstSpelled further) ?_
          intro e fewer firstMoves further
          have shorter := firstMoves.remaining_le
          exact .map further (inductionHypothesis further (by omega))

theorem parameters_follow {ps : List Parameter} {ts : List Token}
    (spelled : ParametersSpelled ps ts) (along : Along c shared (ts ++ rest))
    (enough : c.remaining < fuel) (closes : Ahead (· = .closeParen) rest) :
    Follows (parametersWithin fuel) c shared ps ts := by
  cases spelled with
  | nil =>
      have along : Along c shared rest := along
      apply along.look
      intro isNext
      unfold parametersWithin
      apply Follows.peek
      rw [if_pos (closes _ isNext)]
      exact .pure
  | cons firstSpelled othersSpelled =>
      rw [List.append_assoc] at along
      have begins := firstSpelled
      cases begins with
      | mk isName isColon isType =>
          apply along.look_cons
          intro here
          unfold parametersWithin
          apply Follows.peek
          rw [here, isName, if_neg (by decide)]
          refine Follows.bind along (parameter_follows firstSpelled along) ?_
          intro d fewer moves further
          have shorter := moves.remaining_le
          exact .map further (moreParameters_follow othersSpelled further (by omega) closes)

set_option synthInstance.maxSize 256 in
theorem function_follows {f : FunctionDecl} {ts : List Token} (spelled : FunctionSpelled f ts)
    (along : Along c shared (ts ++ rest)) (enough : 8 * c.remaining ≤ fuel) :
    Follows (functionWithin fuel) c shared f ts := by
  cases spelled with
  | mk isWord isName opens inner closes typeMark isDo bodySpelled isEnd =>
      simp only [List.append_assoc, List.cons_append, List.nil_append] at along
      unfold functionWithin
      refine Follows.bind along (expect_follows along isWord (by decide)) ?_
      intro d fewer wordMoves further
      have total := wordMoves.remaining
      rw [List.length_singleton] at total
      refine Follows.bind further (identifier_follows further isName) ?_
      intro e fewer nameMoves further
      have eShorter := nameMoves.remaining_le
      refine Follows.bind further (expect_follows further opens (by decide)) ?_
      intro f fewer openMoves further
      have fShorter := openMoves.remaining_le
      refine Follows.bind further
        (parameters_follow inner further (by omega) (ahead_cons closes)) ?_
      intro g fewer innerMoves further
      have gShorter := innerMoves.remaining_le
      refine Follows.bind further (expect_follows further closes (by decide)) ?_
      intro h fewer closeMoves further
      have hShorter := closeMoves.remaining_le
      refine Follows.bind further
        (typeMark_follows typeMark further (ahead_cons (by rw [isDo]; decide))) ?_
      intro i fewer markMoves further
      have iShorter := markMoves.remaining_le
      refine Follows.bind further (expect_follows further isDo (by decide)) ?_
      intro j fewer doMoves further
      have jShorter := doMoves.remaining_le
      refine Follows.bind further
        (bodySpelled.readable [.endWord] (by decide) j fewer _ fuel further (by omega)
          (ahead_cons (by rw [isEnd]; decide))) ?_
      intro k fewer bodyMoves further
      refine Follows.bind further (expect_follows further isEnd (by decide)) ?_
      intro l fewer endMoves further
      exact .covered (wordMoves.trans (nameMoves.trans (openMoves.trans (innerMoves.trans
        (closeMoves.trans (markMoves.trans (doMoves.trans
          (bodyMoves.trans endMoves))))))))

/-! ### Programs -/

theorem globals_follow {gs : List GlobalDecl} {ts : List Token}
    (spelled : EachSpelled GlobalSpelled gs ts) (along : Along c shared (ts ++ rest))
    (enough : 8 * c.remaining + 1 ≤ fuel)
    (ends : Ahead (fun kind => startsGlobal kind = false) rest) :
    Follows (globalsWithin fuel) c shared gs ts := by
  induction spelled generalizing c shared fuel with
  | nil =>
      cases fuel with
      | zero => omega
      | succ fuel =>
          have along : Along c shared rest := along
          apply along.look
          intro isNext
          rw [globalsWithin]
          apply Follows.peek
          rw [ends _ isNext, if_neg (by decide)]
          exact .pure
  | cons firstSpelled _ inductionHypothesis =>
      cases fuel with
      | zero => omega
      | succ fuel =>
          rw [List.append_assoc] at along
          obtain ⟨word, others, startEq, starts⟩ := firstSpelled.starts
          have beginning := along
          rw [startEq] at beginning
          apply beginning.look_cons
          intro here
          rw [globalsWithin]
          apply Follows.peek
          rw [here, if_pos starts]
          refine Follows.bind along (global_follows firstSpelled along (by omega)) ?_
          intro d fewer moves further
          have shorter := moves.remaining_lt firstSpelled.ne_nil
          exact .map further (inductionHypothesis further (by omega))

theorem functions_follow {fs : List FunctionDecl} {ts : List Token}
    (spelled : EachSpelled FunctionSpelled fs ts) (along : Along c shared (ts ++ rest))
    (enough : 8 * c.remaining + 1 ≤ fuel) (ends : Ahead (· ≠ .funWord) rest) :
    Follows (functionsWithin fuel) c shared fs ts := by
  induction spelled generalizing c shared fuel with
  | nil =>
      cases fuel with
      | zero => omega
      | succ fuel =>
          have along : Along c shared rest := along
          apply along.look
          intro isNext
          rw [functionsWithin]
          apply Follows.peek
          rw [if_neg (ends _ isNext)]
          exact .pure
  | cons firstSpelled _ inductionHypothesis =>
      cases fuel with
      | zero => omega
      | succ fuel =>
          rw [List.append_assoc] at along
          obtain ⟨word, others, startEq, isWord⟩ := firstSpelled.starts
          have beginning := along
          rw [startEq] at beginning
          apply beginning.look_cons
          intro here
          rw [functionsWithin]
          apply Follows.peek
          rw [here, if_pos isWord]
          refine Follows.bind along (function_follows firstSpelled along (by omega)) ?_
          intro d fewer moves further
          have shorter := moves.remaining_lt firstSpelled.ne_nil
          exact .map further (inductionHypothesis further (by omega))

theorem source_follows {source : Source} {ts : List Token} {last : Token}
    (spelled : SourceSpelled source ts) (isEnd : last.kind = .eof) (atStart : c.passed = [])
    (along : Along c shared (ts ++ [last])) (enough : 8 * c.remaining + 1 ≤ fuel) :
    Follows (sourceWithin fuel) c shared source ts := by
  cases spelled with
  | @mk globals functions ts us globalsSpelled functionsSpelled =>
      rw [List.append_assoc] at along
      have functionsAhead : Ahead (fun kind => startsGlobal kind = false) (us ++ [last]) := by
        cases functionsSpelled with
        | nil => exact ahead_cons (by rw [isEnd]; rfl)
        | cons firstSpelled _ =>
            obtain ⟨word, others, rfl, isWord⟩ := firstSpelled.starts
            exact ahead_cons (by rw [isWord]; rfl)
      unfold sourceWithin
      refine Follows.bind along (globals_follow globalsSpelled along enough functionsAhead) ?_
      intro d fewer globalsMoves further
      have shorter := globalsMoves.remaining_le
      rw [← List.append_nil us]
      refine Follows.bind further (functions_follow functionsSpelled further (by omega)
        (ahead_cons (by rw [isEnd]; decide))) ?_
      intro e fewer functionsMoves further
      apply further.look_cons
      intro here
      change Follows (if (e.current.kind != .eof) = true then unexpected else _) e fewer _ _
      rw [here, isEnd, if_neg (by decide), List.append_nil,
        (globalsMoves.trans functionsMoves).stop_cover_of_start atStart]
      exact .pure

end Parse
end ScriptLang
