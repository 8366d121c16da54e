import ScriptLang.Proofs.Acceptance
import ScriptLang.Proofs.Erasure
import ScriptLang.Proofs.Tiling

/-!
Trees as they are read.

The tokens of a text are well formed and end once, so the tree that is read from them is what they
say.  Such a tree carries no decorations, and every switch in it ends with its default case.
-/

namespace ScriptLang

/-! ### The tokens of a text -/

/-- Scanned tokens are read as constants: no decimal of a text that is short has too many digits
behind its point. -/
theorem Token.wellFormed_of_scan {text : String} (short : text.utf8ByteSize < Numeral.textLimit)
    {tokens : List Token} (scanned : scan text = .ok tokens) :
    ∀ token ∈ tokens, token.WellFormed := by
  obtain ⟨body, rfl, tiles⟩ := tiles_of_scan scanned
  refine List.forall_mem_append.mpr ⟨?_, List.forall_mem_singleton.mpr trivial⟩
  intro token member
  obtain ⟨wellFormed, piece, behind, stands, written⟩ := tiles.written token member
  obtain ⟨before, textEq, _, _⟩ := stands
  obtain ⟨kind, value, span⟩ := token
  cases kind with
  | integer => exact wellFormed
  | character => exact wellFormed
  | decimal =>
      refine ⟨?_, wellFormed⟩
      have pieceEq : piece = value.toList := written
      have sizeEq := Text.byteSize_toList text
      have fits := Text.length_le_byteSize piece
      rw [textEq, Text.byteSize_append, Text.byteSize_append] at sizeEq
      rw [pieceEq, String.length_toList] at fits
      rw [pieceEq] at sizeEq
      have lengthLe : value.length ≤ text.utf8ByteSize := by omega
      exact Nat.lt_of_le_of_lt lengthLe short
  | _ => trivial

theorem Token.ne_eof_of_tiles {text : List Char} {range : Span} {body : List Token}
    (tiles : Tiles text range body) : ∀ token ∈ body, token.kind ≠ .eof := by
  intro token member isEnd
  have wellFormed := (tiles.written token member).1
  obtain ⟨kind, value, span⟩ := token
  cases isEnd
  exact wellFormed

theorem Source.passes_of_parse {text : String} {tree : Source}
    (parsed : Source.parse text = .ok tree) :
    ∃ tokens, Token.scan text = .ok (tokens ++ [Token.endOfSource text.utf8ByteSize]) ∧
      Token.Passes 0 text.toList tokens text.utf8ByteSize [] ∧ SourceSpelled tree tokens := by
  unfold Source.parse at parsed
  obtain ⟨tokens, scanned, read⟩ := bind_eq_ok.mp parsed
  obtain ⟨body, rfl, passes⟩ := Token.passes_of_scan scanned
  have notEnd := Token.ne_eof_of_tiles (passes.tiles [] rfl)
  exact ⟨body, scanned, passes, (Parse.spelled_of_accepts body rfl notEnd read).1⟩

theorem Source.spelled_of_parse {text : String} {tree : Source}
    (parsed : Source.parse text = .ok tree) :
    ∃ tokens, (∀ token ∈ tokens, token.word.WellFormed) ∧ SourceSpelled tree tokens := by
  obtain ⟨tokens, _, passes, spelled⟩ := Source.passes_of_parse parsed
  exact ⟨tokens, fun token member => ((passes.tiles [] rfl).written token member).1, spelled⟩

theorem EachSpelled.holds {α : Type} {spelled : α → List Token → Prop} {good : α → Prop}
    (each : ∀ value ts, spelled value ts → good value) {values : List α} {ts : List Token}
    (allSpelled : EachSpelled spelled values ts) : ∀ value ∈ values, good value := by
  induction allSpelled with
  | nil => exact List.forall_mem_nil _
  | cons first _ inductionHypothesis =>
      exact List.forall_mem_cons.mpr ⟨each _ _ first, inductionHypothesis⟩

/-! ### No decorations -/

def Piece.Undecorated : Piece → Prop
  | .expression _ e => e.erased = e
  | .items es | .moreItems es => erasedExprs es = es
  | .initializer value => value.map Expr.erased = value
  | .statement s => s.erased = s
  | .block b | .alternative b => erasedBlock b = b
  | .cases cs => erasedCases cs = cs

theorem Spelled.undecorated {piece : Piece} {ts : List Token} (spelled : Spelled piece ts) :
    piece.Undecorated := by
  induction spelled with
  | literal | access | noItems | noMoreItems | noInitializer | noStatements | noAlternative => rfl
  | element _ _ _ _ inner => exact congrArg (Expr.element _ · _ _ _) inner
  | call _ _ _ _ inner => exact congrArg (Expr.call _ · _ _ _) inner
  | group _ _ _ inner => exact congrArg (Expr.group · _ _) inner
  | binary _ _ _ _ left right => exact congrArg₂ (Expr.binary _ · · _ _) left right
  | items _ _ first others => exact congrArg₂ List.cons first others
  | moreItems _ _ _ first others => exact congrArg₂ List.cons first others
  | initializer _ _ value => exact congrArg some value
  | declaration _ _ _ _ _ initial => exact congrArg (Stmt.declaration _ _ · _ _) initial
  | expressionStatement _ _ value => exact congrArg (Stmt.expression · _) value
  | assignment _ _ _ _ receiver value => exact congrArg₂ (Stmt.assignment · · _) receiver value
  | @conditional _ _ _ condition thenBlock elseBlock _ _ _ _ _ _ _ _ _ test thenSame elseSame =>
      have conditionSame : condition.erased = condition := test
      have thenBlockSame : erasedBlock thenBlock = thenBlock := thenSame
      have elseBlockSame : erasedBlock elseBlock = elseBlock := elseSame
      change Stmt.erased _ = _
      rw [Stmt.erased, conditionSame, thenBlockSame, elseBlockSame]
  | switch _ _ _ _ subject cases => exact congrArg₂ (Stmt.switch · · _) subject cases
  | loop _ _ _ _ _ test body => exact congrArg₂ (Stmt.loop · · _) test body
  | result _ _ _ value => exact congrArg (Stmt.result · _) value
  | statements _ _ first others => exact congrArg₂ List.cons first others
  | defaultCase _ _ body => exact congrArg (fun body => [Case.mk none body _]) body
  | @case _ _ value body others _ _ _ _ _ _ _ _ valueSame bodySame othersSame =>
      have erasedValue : value.erased = value := valueSame
      have erasedBody : erasedBlock body = body := bodySame
      have erasedOthers : erasedCases others = others := othersSame
      change erasedCases (Case.mk (some value) body _ :: others) = _
      rw [erasedCases, Option.map_some, erasedValue, erasedBody, erasedOthers]
  | alternative _ _ body => exact body

theorem GlobalSpelled.undecorated {global : GlobalDecl} {ts : List Token}
    (spelled : GlobalSpelled global ts) : global.erased = global := by
  cases spelled with
  | @mk word _ _ typeName value _ _ body _ =>
      have valueSame : value.map Expr.erased = value := by
        generalize word.kind = kind at body
        cases body with
        | list _ _ _ _ inner _ =>
            exact congrArg (fun es => some (Expr.list es _ _)) inner.undecorated
        | mutable _ initial => exact initial.undecorated
        | immutable _ _ initial => exact congrArg some initial.undecorated
      unfold GlobalDecl.erased
      dsimp only
      rw [valueSame]

theorem FunctionSpelled.undecorated {function : FunctionDecl} {ts : List Token}
    (spelled : FunctionSpelled function ts) : function.erased = function := by
  cases spelled with
  | @mk _ _ _ _ _ _ _ _ body _ _ _ _ _ _ _ _ _ _ bodySpelled _ =>
      have bodySame : erasedBlock body = body := bodySpelled.undecorated
      unfold FunctionDecl.erased
      dsimp only
      rw [bodySame]

theorem SourceSpelled.undecorated {source : Source} {ts : List Token}
    (spelled : SourceSpelled source ts) : source.erased = source := by
  cases spelled with
  | mk globals functions =>
      have globalsSame := globals.holds fun _ _ spelled => spelled.undecorated
      have functionsSame := functions.holds fun _ _ spelled => spelled.undecorated
      unfold Source.erased
      dsimp only
      rw [List.map_congr_left globalsSame, List.map_congr_left functionsSame, List.map_id',
        List.map_id']

/-- The tree of a program text has no decorations. -/
theorem Source.erased_of_parse {text : String} {tree : Source}
    (parsed : Source.parse text = .ok tree) : tree.erased = tree := by
  obtain ⟨tokens, -, spelled⟩ := Source.spelled_of_parse parsed
  exact spelled.undecorated

/-! ### Default cases -/

def EndsInDefault (cases : List Case) : Prop :=
  ∃ last, cases.getLast? = some last ∧ last.value = none

mutual

def Stmt.Defaulted : Stmt → Prop
  | .conditional _ thenBlock elseBlock _ => BlockDefaulted thenBlock ∧ BlockDefaulted elseBlock
  | .switch _ cases _ => EndsInDefault cases ∧ CasesDefaulted cases
  | .loop _ body _ => BlockDefaulted body
  | .expression _ _ | .declaration _ _ _ _ _ | .assignment _ _ _ | .result _ _ => True

def BlockDefaulted : List Stmt → Prop
  | [] => True
  | first :: rest => first.Defaulted ∧ BlockDefaulted rest

def CasesDefaulted : List Case → Prop
  | [] => True
  | .mk _ body _ :: rest => BlockDefaulted body ∧ CasesDefaulted rest

end

def Piece.Defaulted : Piece → Prop
  | .statement s => s.Defaulted
  | .block b | .alternative b => BlockDefaulted b
  | .cases cs => EndsInDefault cs ∧ CasesDefaulted cs
  | .expression _ _ | .items _ | .moreItems _ | .initializer _ => True

theorem Spelled.defaulted {piece : Piece} {ts : List Token} (spelled : Spelled piece ts) :
    piece.Defaulted := by
  induction spelled with
  | conditional _ _ _ _ _ _ _ thenBlock elseBlock => exact ⟨thenBlock, elseBlock⟩
  | switch _ _ _ _ _ cases => exact cases
  | loop _ _ _ _ _ _ body => exact body
  | statements _ _ first others => exact ⟨first, others⟩
  | defaultCase _ _ body => exact ⟨⟨_, rfl, rfl⟩, body, trivial⟩
  | case _ _ _ _ _ _ body others =>
      obtain ⟨⟨last, lastEq, isDefault⟩, othersDefaulted⟩ := others
      refine ⟨⟨last, ?_, isDefault⟩, body, othersDefaulted⟩
      rw [List.getLast?_cons, lastEq]
      rfl
  | alternative _ _ body => exact body
  | _ => trivial

/-- In the tree of a program text, every switch ends with its default case. -/
theorem Source.defaulted_of_parse {text : String} {tree : Source}
    (parsed : Source.parse text = .ok tree) :
    ∀ function ∈ tree.functions, BlockDefaulted function.body := by
  obtain ⟨tokens, -, spelled⟩ := Source.spelled_of_parse parsed
  cases spelled with
  | mk globals functions =>
      refine functions.holds ?_
      intro function ts functionSpelled
      cases functionSpelled with
      | mk _ _ _ _ _ _ _ bodySpelled _ => exact bodySpelled.defaulted

end ScriptLang
