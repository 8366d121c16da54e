import Mathlib.Logic.Relation
import ScriptLang.Proofs.CanonicalReads
import ScriptLang.Proofs.RoundTrip
import ScriptLang.Proofs.ViablePrefix

/-!
Operators stand where their powers put them.

The words of an expression that is read are those of the tokens passed for it, none more and none
less.  Outside of brackets all of its operators bind tighter than the power it is read at; on the
left of an operator stand only operators that bind at least as tightly, on its right only ones that
bind more tightly.  The reader stops where no such operator follows.
-/

namespace ScriptLang

open Grammar

/-! ### Words up to the spelling of numbers -/

/-- The words are the same, or numerals of one kind that are read as the same number. -/
inductive Word.Agrees : Word → Word → Prop where
  | same (word : Word) : Agrees word word
  | integer {text other : String} {n : Int} (reads : Numeral.integer? text.toList = some n)
      (readsOther : Numeral.integer? other.toList = some n) :
      Agrees { kind := .integer, value := text } { kind := .integer, value := other }
  | decimal {text other : String} {d : Decimal} (reads : Numeral.decimal? text.toList = some d)
      (readsOther : Numeral.decimal? other.toList = some d) :
      Agrees { kind := .decimal, value := text } { kind := .decimal, value := other }

/-- The tokens carry the words, up to the spelling of numbers. -/
def Resemble (tokens : List Token) (words : List Word) : Prop :=
  List.Forall₂ Word.Agrees (tokens.map Token.word) words

section

variable {token : Token} {tokens others : List Token} {words more : List Word}

namespace Resemble

theorem nil : Resemble [] [] :=
  List.Forall₂.nil

theorem cons {word : Word} (agrees : token.word.Agrees word) (rest : Resemble tokens words) :
    Resemble (token :: tokens) (word :: words) :=
  List.Forall₂.cons agrees rest

theorem append (first : Resemble tokens words) (second : Resemble others more) :
    Resemble (tokens ++ others) (words ++ more) := by
  unfold Resemble
  rw [List.map_append]
  exact List.rel_append first second

end Resemble

theorem Word.WellFormed.agrees_fixed {kind : Kind} (wellFormed : token.word.WellFormed)
    (isKind : token.kind = kind) (isFixed : kind.spelling?.isSome = true) :
    token.word.Agrees (.fixed kind) := by
  obtain ⟨tokenKind, text, span⟩ := token
  cases isKind
  have wordEq : Word.fixed tokenKind = { kind := tokenKind, value := text } := by
    cases tokenKind with
    | eof | identifier | integer | decimal | character | string => cases isFixed
    | _ =>
        have spelled := Option.some.inj wellFormed
        exact congrArg (Word.mk _) spelled
  rw [wordEq]
  exact .same _

theorem Word.agrees_name (isName : token.kind = .identifier) :
    token.word.Agrees (.name token.value) := by
  have wordEq : token.word = .name token.value := by
    unfold Token.word Word.name
    rw [isName]
  rw [wordEq]
  exact .same _

theorem Word.WellFormed.agrees_literal {value : Literal} (wellFormed : token.word.WellFormed)
    (reads : Parse.literalOf token = .ok value) : token.word.Agrees value.word := by
  have canonical := Literal.canonical_of_literalOf wellFormed reads
  obtain ⟨kind, text, span⟩ := token
  cases kind with
  | integer =>
      simp only [Parse.literalOf] at reads
      split at reads
      · rename_i n isNumber
        cases reads
        exact .integer isNumber (Numeral.integer?_display canonical)
      · cases reads
  | decimal =>
      simp only [Parse.literalOf] at reads
      split at reads
      · rename_i d isNumber
        cases reads
        obtain ⟨nonnegative, positive, inRange⟩ := canonical
        obtain ⟨whole, fraction, -, -, textEq, readBack⟩ :=
          Value.display_decimal nonnegative positive inRange
        exact .decimal isNumber (textEq ▸ readBack)
      · cases reads
  | character =>
      obtain ⟨c, textEq⟩ := wellFormed
      have textEq : text.toList = [c] := textEq
      simp only [Parse.literalOf, textEq] at reads
      cases reads
      have valueEq : text = c.toString :=
        String.toList_inj.mp (textEq.trans (String.toList_singleton c).symm)
      rw [valueEq]
      exact .same _
  | string =>
      cases reads
      exact .same _
  | trueWord | falseWord | nilWord =>
      cases reads
      exact wellFormed.agrees_fixed rfl rfl
  | _ => cases reads

end

/-! ### The words of what is read -/

theorem BinaryOp.kind_eq {kind : Kind} {op : BinaryOp}
    (isOp : BinaryOp.ofKind? kind = some op) : kind = op.kind := by
  cases kind with
  | and | or | less | greater | equals | notEquals | plus | dash | star | slash | caret =>
      cases isOp
      rfl
  | _ => cases isOp

theorem BinaryOp.kind_isFixed (op : BinaryOp) : op.kind.spelling?.isSome = true := by
  cases op with
  | _ => rfl

def Piece.words? : Piece → Option (List Word)
  | .expression _ e => some e.words
  | .items es => some (itemWords es)
  | .moreItems es => some (moreItemWords es)
  | .initializer _ | .statement _ | .block _ | .cases _ | .alternative _ => none

theorem Spelled.resemble {piece : Piece} {ts : List Token} (spelled : Spelled piece ts)
    (wellFormed : ∀ token ∈ ts, token.word.WellFormed) {words : List Word}
    (wordsEq : piece.words? = some words) : Resemble ts words := by
  induction spelled generalizing words with
  | literal reads =>
      cases wordsEq
      exact .cons ((List.forall_mem_singleton.mp wellFormed).agrees_literal reads) .nil
  | access isName =>
      cases wordsEq
      exact .cons (Word.agrees_name isName) .nil
  | element isName opens closes _ inner | call isName opens closes _ inner =>
      cases wordsEq
      simp only [List.forall_mem_cons, List.forall_mem_append] at wellFormed
      obtain ⟨-, opening, inside, closing, -⟩ := wellFormed
      have ending := Resemble.cons (closing.agrees_fixed closes rfl) .nil
      exact .cons (Word.agrees_name isName)
        (.cons (opening.agrees_fixed opens rfl) ((inner inside rfl).append ending))
  | group opens closes _ inner =>
      cases wordsEq
      simp only [List.forall_mem_cons, List.forall_mem_append] at wellFormed
      obtain ⟨opening, inside, closing, -⟩ := wellFormed
      have ending := Resemble.cons (closing.agrees_fixed closes rfl) .nil
      exact .cons (opening.agrees_fixed opens rfl) ((inner inside rfl).append ending)
  | @binary _ _ op _ _ _ _ isOp _ _ _ left right =>
      cases wordsEq
      simp only [List.forall_mem_cons, List.forall_mem_append] at wellFormed
      obtain ⟨leftTokens, operator, rightTokens⟩ := wellFormed
      have isOperator := operator.agrees_fixed (BinaryOp.kind_eq isOp) op.kind_isFixed
      exact (left leftTokens rfl).append (.cons isOperator (right rightTokens rfl))
  | noItems | noMoreItems =>
      cases wordsEq
      exact .nil
  | items _ _ first others =>
      cases wordsEq
      obtain ⟨firstTokens, otherTokens⟩ := List.forall_mem_append.mp wellFormed
      exact (first firstTokens rfl).append (others otherTokens rfl)
  | moreItems isComma _ _ first others =>
      cases wordsEq
      simp only [List.forall_mem_cons, List.forall_mem_append] at wellFormed
      obtain ⟨comma, firstTokens, otherTokens⟩ := wellFormed
      exact .cons (comma.agrees_fixed isComma rfl)
        ((first firstTokens rfl).append (others otherTokens rfl))
  | _ => cases wordsEq

/-! ### The order of operators in a tree -/

theorem allCanonical_iff {es : List Expr} : AllCanonical es ↔ ∀ e ∈ es, e.Canonical 0 := by
  induction es with
  | nil => exact iff_of_true trivial (List.forall_mem_nil _)
  | cons first rest inductionHypothesis =>
      rw [AllCanonical, inductionHypothesis, List.forall_mem_cons]

namespace Expr

/-- The second expression is a side of the operator of the first one. -/
inductive Side : Expr → Expr → Prop where
  | left {op : BinaryOp} {left right : Expr} {span : Span} {ty : Option Ty} :
      Side (.binary op left right span ty) left
  | right {op : BinaryOp} {left right : Expr} {span : Span} {ty : Option Ty} :
      Side (.binary op left right span ty) right

inductive Encloses : Expr → Expr → Prop where
  | group {inner : Expr} {span : Span} {ty : Option Ty} : Encloses (.group inner span ty) inner
  | element {name : String} {index : Expr} {span : Span} {ty : Option Ty}
      {target : Option Variable} : Encloses (.element name index span ty target) index
  | call {name : String} {arguments : List Expr} {argument : Expr} {span : Span}
      {ty : Option Ty} {callee : Option Callee} (member : argument ∈ arguments) :
      Encloses (.call name arguments span ty callee) argument
  | list {elements : List Expr} {element : Expr} {span : Span} {ty : Option Ty}
      (member : element ∈ elements) : Encloses (.list elements span ty) element

/-- The second expression is a part of the first one, outside of all brackets. -/
def Exposes : Expr → Expr → Prop :=
  Relation.ReflTransGen Side

def Contains : Expr → Expr → Prop :=
  Relation.ReflTransGen fun outer inner => outer.Side inner ∨ outer.Encloses inner

/-- Outside of brackets, operators bind tighter than the bound; everywhere, an operator groups to
the left with those of its own rank, and takes tighter ones as its sides. -/
structure Ordered (bound : Nat) (e : Expr) : Prop where
  binds : ∀ {op left right span ty}, e.Exposes (.binary op left right span ty) → bound < op.rank
  left : ∀ {op inner first second innerSpan innerTy right span ty},
    e.Contains (.binary op (.binary inner first second innerSpan innerTy) right span ty) →
      op.rank ≤ inner.rank
  right : ∀ {op inner first second innerSpan innerTy left span ty},
    e.Contains (.binary op left (.binary inner first second innerSpan innerTy) span ty) →
      op.rank < inner.rank

namespace Canonical

variable {bound : Nat} {e part outer inner : Expr}

theorem side (canonical : outer.Canonical bound) (isSide : outer.Side inner) :
    ∃ within, bound ≤ within ∧ inner.Canonical within := by
  cases isSide with
  | left =>
      obtain ⟨binds, left, -, -⟩ := canonical
      exact ⟨_, Nat.le_sub_one_of_lt binds, left⟩
  | right =>
      obtain ⟨binds, -, right, -⟩ := canonical
      exact ⟨_, Nat.le_of_lt binds, right⟩

theorem enclosed (canonical : outer.Canonical bound) (encloses : outer.Encloses inner) :
    inner.Canonical 0 := by
  cases encloses with
  | group => exact canonical.1
  | element => exact canonical.2.1
  | call member => exact allCanonical_iff.mp canonical.2.1 _ member
  | list => exact canonical.elim

theorem exposed (canonical : e.Canonical bound) (exposes : e.Exposes part) :
    ∃ within, bound ≤ within ∧ part.Canonical within := by
  induction exposes with
  | refl => exact ⟨bound, Nat.le_refl _, canonical⟩
  | tail _ isSide inductionHypothesis =>
      obtain ⟨within, le, outerCanonical⟩ := inductionHypothesis
      obtain ⟨closer, closerLe, innerCanonical⟩ := outerCanonical.side isSide
      exact ⟨closer, Nat.le_trans le closerLe, innerCanonical⟩

theorem contained (canonical : e.Canonical bound) (contains : e.Contains part) :
    ∃ within, part.Canonical within := by
  induction contains with
  | refl => exact ⟨bound, canonical⟩
  | tail _ isPart inductionHypothesis =>
      obtain ⟨within, outerCanonical⟩ := inductionHypothesis
      rcases isPart with isSide | encloses
      · obtain ⟨closer, -, innerCanonical⟩ := outerCanonical.side isSide
        exact ⟨closer, innerCanonical⟩
      · exact ⟨0, outerCanonical.enclosed encloses⟩

theorem ordered (canonical : e.Canonical bound) : e.Ordered bound where
  binds := by
    intro op left right span ty exposes
    obtain ⟨within, le, binds, -⟩ := canonical.exposed exposes
    exact Nat.lt_of_le_of_lt le binds
  left := by
    intro op inner first second innerSpan innerTy right span ty contains
    obtain ⟨within, -, leftCanonical, -⟩ := canonical.contained contains
    exact Nat.le_of_pred_lt leftCanonical.1
  right := by
    intro op inner first second innerSpan innerTy left span ty contains
    obtain ⟨within, -, -, rightCanonical, -⟩ := canonical.contained contains
    exact rightCanonical.1

end Canonical
end Expr

/-! ### Reading at any position -/

theorem Cursor.tokens_ofTokens (tokens : List Token) :
    ∃ before last, (ofTokens tokens).tokens = before ++ [last] ∧ last.kind = .eof ∧
      ∀ token ∈ before ++ [last], token ∈ tokens ∨ token.word = Word.endOfSource := by
  rcases List.eq_nil_or_concat tokens with rfl | ⟨before, last, rfl⟩
  · exact ⟨[], Token.endOfSource 0, rfl, rfl, List.forall_mem_singleton.mpr (.inr rfl)⟩
  rw [List.concat_eq_append]
  have tokensEq (c : Cursor) (atStart : c.passed = []) : c.tokens = c.rest := by
    unfold tokens rest
    rw [atStart]
    rfl
  by_cases isEnd : last.kind = .eof
  · refine ⟨before, last, ?_, isEnd, fun token member => .inl member⟩
    rw [tokensEq _ (passed_ofTokens _), rest_ofTokens before isEnd]
  · refine ⟨before ++ [last], Token.endOfSource last.span.stop, ?_, rfl, ?_⟩
    · unfold ofTokens
      rw [List.getLast?_concat]
      dsimp only
      rw [if_neg isEnd]
      cases before with
      | nil => rfl
      | cons first before => rfl
    · refine List.forall_mem_append.mpr ⟨fun token member => .inl member, ?_⟩
      exact List.forall_mem_singleton.mpr (.inr rfl)

namespace Parse

theorem expression_spelled {tokens : List Token} {c d : Cursor}
    (position : c.tokens = (Cursor.ofTokens tokens).tokens) {power : Power} {e : Expr}
    (read : expression power c = .ok e d) :
    ∃ passed, c.Moves passed d ∧ Derives (.symbol (.level power.rank)) (passed.map Token.kind) ∧
      Spelled (.expression power.rank e) passed ∧ nextRank d ≤ power.rank := by
  obtain ⟨before, last, tokensEq, isEnd, -⟩ := Cursor.tokens_ofTokens tokens
  have closed : c.Closed := by
    have allEq : c.passed.reverse ++ c.rest = before ++ [last] := position.trans tokensEq
    exact Cursor.closed_of_append allEq isEnd
  have reads := (expressionsRead (8 * (c.remaining + 1))).expression c power closed (by omega)
  exact Leads.of_ok reads read

/-- An expression is read, at any position and power, as the tree that the powers of its operators
describe, from all of the tokens that belong to it. -/
theorem expression_keepsPrecedence {tokens : List Token}
    (scanned : ∀ token ∈ tokens, token.word.Scanned) {c d : Cursor}
    (position : c.tokens = (Cursor.ofTokens tokens).tokens) {power : Power} {e : Expr}
    (read : expression power c = .ok e d) :
    ∃ passed, c.Moves passed d ∧ List.Forall₂ Word.Agrees (passed.map Token.word) e.words ∧
      e.Ordered power.rank ∧ (Power.ofKind d.current.kind).rank ≤ power.rank := by
  obtain ⟨passed, moves, derives, spelled, stops⟩ := expression_spelled position read
  have notSource : Symbol.level power.rank ≠ .source := by
    cases power with
    | _ => decide
  have notEnd := derives.not_eof (bne_iff_ne.mpr notSource)
  obtain ⟨before, last, tokensEq, isEnd, amongTokens⟩ := Cursor.tokens_ofTokens tokens
  have wellFormed : ∀ token ∈ passed, token.word.WellFormed := by
    intro token member
    have inRest : token ∈ c.rest := moves.rest ▸ List.mem_append_left _ member
    have inTokens : token ∈ before ++ [last] := by
      rw [← tokensEq, ← position]
      exact List.mem_append_right _ inRest
    -- The end of source that the cursor may add is a scanned word as well.
    have tokenScanned : token.word.Scanned := by
      rcases amongTokens token inTokens with isToken | isLast
      · exact scanned token isToken
      · exact Word.scanned_iff.mpr (.inl isLast)
    exact tokenScanned.wellFormed (notEnd _ (List.mem_map_of_mem member))
  have canonical : e.Canonical power.rank := spelled.canonical wellFormed
  exact ⟨passed, moves, spelled.resemble wellFormed rfl, canonical.ordered, stops⟩

/-- The words of `= 8 - 007 * f(1.50, f) - (2 || f) < f`. -/
def mixedWords : List Word :=
  [.fixed .assignment, { kind := .integer, value := "8" }, .fixed .dash,
    { kind := .integer, value := "007" }, .fixed .star, .name "f", .fixed .openParen,
    { kind := .decimal, value := "1.50" }, .fixed .comma, .name "f", .fixed .closeParen,
    .fixed .dash, .fixed .openParen, { kind := .integer, value := "2" }, .fixed .or, .name "f",
    .fixed .closeParen, .fixed .less, .name "f"]

def mixedTokens : List Token :=
  mixedWords.map fun word => { kind := word.kind, value := word.value, span := .none }

theorem expression_keepsPrecedence_mixed :
    (∀ token ∈ mixedTokens, token.word.Scanned) ∧
      (Cursor.ofTokens mixedTokens).next.tokens = (Cursor.ofTokens mixedTokens).tokens ∧
      ∃ e d, expression .relational (Cursor.ofTokens mixedTokens).next = .ok e d ∧
        ∃ passed, (Cursor.ofTokens mixedTokens).next.Moves passed d ∧
          List.Forall₂ Word.Agrees (passed.map Token.word) e.words ∧
          e.Ordered 2 ∧ (Power.ofKind d.current.kind).rank ≤ 2 := by
  have position := Cursor.tokens_next (Cursor.ofTokens mixedTokens)
  have isName : IsName "f" := ⟨⟨'f', [], rfl, rfl, List.forall_mem_nil _⟩, by decide +kernel⟩
  have wellFormed : ∀ word ∈ mixedWords, word.WellFormed := by
    have digits (text : String) (isDigits : IsDigits text.toList) :
        Word.WellFormed { kind := .integer, value := text } := isDigits
    have point : Word.WellFormed { kind := .decimal, value := "1.50" } :=
      ⟨['1'], ['5', '0'], by decide +kernel, by decide +kernel, rfl⟩
    simp only [mixedWords, List.forall_mem_cons, List.not_mem_nil, false_implies, implies_true,
      and_true]
    exact ⟨rfl, digits "8" (by decide +kernel), rfl, digits "007" (by decide +kernel), rfl, isName,
      rfl, point, rfl, isName, rfl, rfl, rfl, digits "2" (by decide +kernel), rfl, isName, rfl, rfl,
      isName⟩
  have scanned : ∀ token ∈ mixedTokens, token.word.Scanned := by
    intro token member
    obtain ⟨word, isWord, rfl⟩ := List.mem_map.mp member
    exact Word.scanned_iff.mpr (.inr (wellFormed word isWord))
  have read : ∃ e d, expression .relational (Cursor.ofTokens mixedTokens).next = .ok e d :=
    ⟨_, _, rfl⟩
  obtain ⟨e, d, read⟩ := read
  exact ⟨scanned, position, e, d, read, expression_keepsPrecedence scanned position read⟩

end Parse
end ScriptLang
