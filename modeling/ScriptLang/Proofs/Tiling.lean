import ScriptLang.Proofs.ErrorPlaces
import ScriptLang.Proofs.Words

/-!
Tokens tile the text.

The lexemes that the scanner passes stand one behind the other: those of tokens, each written as
its word is, and between them blanks and comments.  The scan stops only where no lexeme begins,
and what stands there has no part in the lexemes before.
-/

namespace ScriptLang

/-! ### How tokens and gaps stand in a text -/

/-- The byte is one of the span. -/
def Span.Holds (span : Span) (offset : Nat) : Prop :=
  span.start ≤ offset ∧ offset < span.stop

def Span.Before (first second : Span) : Prop :=
  first.stop ≤ second.start

namespace Text

/-- The bytes of the span are those of the piece, and the rest of the text stands behind it. -/
def Stands (text : List Char) (span : Span) (piece behind : List Char) : Prop :=
  ∃ before, text = before ++ (piece ++ behind) ∧ span.start = byteSize before ∧
    span.stop = byteSize before + byteSize piece

/-- Blanks, or a comment that runs to the end of its line. -/
def IsGap (piece behind : List Char) : Prop :=
  (piece ≠ [] ∧ ∀ c ∈ piece, isBlank c = true) ∨
    ∃ line, piece = '/' :: '/' :: line ∧ (∀ c ∈ line, c ≠ '\n') ∧
      ∀ c ∈ behind.head?, c = '\n'

theorem byteSize_pos {piece : List Char} (nonempty : piece ≠ []) : 0 < byteSize piece := by
  obtain ⟨c, tail, rfl⟩ := List.exists_cons_of_ne_nil nonempty
  exact Nat.lt_of_lt_of_le c.utf8Size_pos (Nat.le_add_right _ _)

end Text

/-- In the range, the tokens stand one behind the other where they are written, and what stands
between them is gaps. -/
structure Token.Tiles (text : List Char) (range : Span) (tokens : List Token) : Prop where
  written : ∀ token ∈ tokens, token.word.WellFormed ∧
    ∃ piece behind, Text.Stands text token.span piece behind ∧ token.word.WrittenAs piece
  within : ∀ token ∈ tokens, range.start ≤ token.span.start ∧
    token.span.start < token.span.stop ∧ token.span.stop ≤ range.stop
  ordered : tokens.Pairwise fun first second => first.span.Before second.span
  gaps : ∀ offset, range.Holds offset → (∀ token ∈ tokens, ¬token.span.Holds offset) →
    ∃ span piece behind, span.Holds offset ∧ Text.Stands text span piece behind ∧
      Text.IsGap piece behind ∧ range.start ≤ span.start ∧
        ∀ token ∈ tokens, token.span.Before span ∨ span.Before token.span

/-- No token, no blank and no comment begins the text. -/
def Text.IsStuck (text : List Char) : Prop :=
  ∀ piece behind, text = piece ++ behind →
    ¬IsGap piece behind ∧ ∀ word : Word, word.WellFormed → ¬word.WrittenAs piece

/-! ### Lexemes of tokens, and lexemes of gaps -/

namespace Word

theorem wellFormed_of_spelled {kind : Kind} {value : String}
    (spelled : kind.spelling? = some value) :
    WellFormed { kind := kind, value := value } ∧
      WrittenAs { kind := kind, value := value } value.toList := by
  cases kind with
  | eof | identifier | integer | decimal | character | string => cases spelled
  | _ => exact ⟨spelled, rfl⟩

theorem wellFormed_ofWord {text : String} {c : Char} {tail : List Char}
    (textEq : text.toList = c :: tail) (starts : Lexeme.isWordStart c = true)
    (continues : ∀ d ∈ tail, Lexeme.isWordChar d = true) :
    WellFormed { kind := Kind.ofWord text, value := text } ∧
      WrittenAs { kind := Kind.ofWord text, value := text } text.toList := by
  unfold Kind.ofWord
  cases found : Kind.reservedWords.find? fun kind => kind.spelling? == some text with
  | some kind =>
      have spelled := List.find?_some found
      exact wellFormed_of_spelled (eq_of_beq spelled)
  | none =>
      have free : ∀ kind ∈ Kind.reservedWords, kind.spelling? ≠ some text := by
        intro kind member same
        exact List.find?_eq_none.mp found kind member (beq_iff_eq.mpr same)
      exact ⟨⟨⟨c, tail, textEq, starts, continues⟩, free⟩, rfl⟩

end Word

namespace Lexeme

theorem Fits.written {kind : Kind} {value : String} {piece behind : List Char}
    (fits : Fits (some (kind, value)) piece behind) :
    Word.WellFormed { kind := kind, value := value } ∧
      Word.WrittenAs { kind := kind, value := value } piece := by
  cases fits with
  | word starts continues stops =>
      have written := Word.wellFormed_ofWord String.toList_ofList starts continues
      rwa [String.toList_ofList] at written
  | integer isDigits stops noFraction =>
      have valueDigits : IsDigits (String.ofList piece).toList := by
        rwa [String.toList_ofList]
      exact ⟨valueDigits, String.toList_ofList.symm⟩
  | decimal wholeDigits fractionDigits stops =>
      exact ⟨⟨_, _, wholeDigits, fractionDigits, String.toList_ofList⟩,
        String.toList_ofList.symm⟩
  | @character body _ c decodes =>
      have textEq := String.toList_singleton c
      exact ⟨⟨c, textEq⟩, body, rfl, textEq.symm ▸ decodes⟩
  | @string body _ text decodes =>
      exact ⟨trivial, body, rfl, String.toList_ofList.symm ▸ decodes⟩
  | mark isMark spelled single noComment => exact Word.wellFormed_of_spelled spelled

theorem Fits.isGap {piece behind : List Char} (fits : Fits none piece behind) :
    Text.IsGap piece behind := by
  cases fits with
  | blanks nonempty blank stops => exact .inl ⟨nonempty, blank⟩
  | comment oneLine stops =>
      refine .inr ⟨_, rfl, fun c member => bne_iff_ne.mp (oneLine c member), ?_⟩
      intro c first
      by_contra other
      have goesOn : (c != '\n') = false := stops c first
      rw [bne_iff_ne.mpr other] at goesOn
      cases goesOn

theorem begins_gap {c : Char} {tail behind : List Char} (isGap : Text.IsGap (c :: tail) behind) :
    Begins c (tail ++ behind) := by
  rcases isGap with ⟨_, blank⟩ | ⟨line, pieceEq, _⟩
  · exact begins_blanks (blank c List.mem_cons_self)
  · cases pieceEq
    exact begins_comment (line ++ behind)

/-- Where a word is written a lexeme begins, though it may be a longer one. -/
theorem begins_written {word : Word} (wellFormed : word.WellFormed) {piece : List Char}
    (written : word.WrittenAs piece) (behind : List Char) :
    ∃ c tail, piece = c :: tail ∧ Begins c (tail ++ behind) := by
  have fits := wellFormed.fits_written written .nil
  obtain ⟨c, tail, rfl, _⟩ := fits.read
  exact ⟨c, tail, rfl, fits.begins behind⟩

theorem isStuck_of_read {c : Char} {rest : List Char} {cause : Cause}
    (failed : Lexeme.read c rest = .error cause) : Text.IsStuck (c :: rest) := by
  have noLexeme : ¬Begins c rest := by
    intro begins
    obtain ⟨lexeme, found⟩ := begins.read
    rw [failed] at found
    cases found
  intro piece behind textEq
  constructor
  · intro isGap
    cases piece with
    | nil =>
        rcases isGap with ⟨nonempty, _⟩ | ⟨line, impossible, _⟩
        · exact nonempty rfl
        · cases impossible
    | cons d tail =>
        cases textEq
        exact noLexeme (begins_gap isGap)
  · intro word wellFormed written
    obtain ⟨d, tail, rfl, begins⟩ := begins_written wellFormed written behind
    cases textEq
    exact noLexeme begins

end Lexeme

/-! ### Passing lexemes -/

open Lexeme (Fits)

namespace Token

/-- From the first offset on, lexemes are passed up to the second one, where the rest is left;
the tokens are those of the lexemes. -/
inductive Passes : Nat → List Char → List Token → Nat → List Char → Prop where
  | done {offset : Nat} {rest : List Char} : Passes offset rest [] offset rest
  | gap {offset stop : Nat} {piece behind rest : List Char} {tokens : List Token}
      (fits : Fits none piece behind)
      (others : Passes (offset + Text.byteSize piece) behind tokens stop rest) :
      Passes offset (piece ++ behind) tokens stop rest
  | token {offset stop : Nat} {piece behind rest : List Char} {tokens : List Token}
      {kind : Kind} {value : String} (fits : Fits (some (kind, value)) piece behind)
      (others : Passes (offset + Text.byteSize piece) behind tokens stop rest) :
      Passes offset (piece ++ behind)
        ({ kind := kind
           value := value
           span := { start := offset, stop := offset + Text.byteSize piece } } :: tokens)
        stop rest

theorem scanFrom_passes (offset : Nat) (text : List Char) :
    Confined
      (fun stop => ∃ tokens c rest cause, Passes offset text tokens stop (c :: rest) ∧
        Lexeme.read c rest = .error cause)
      (scanFrom offset text)
      (fun tokens => ∃ body stop, Passes offset text body stop [] ∧
        tokens = body ++ [endOfSource stop]) := by
  cases text with
  | nil =>
      rw [scanFrom]
      exact ⟨[], offset, .done, rfl⟩
  | cons c rest =>
      cases found : Lexeme.read c rest with
      | error cause =>
          rw [scanFrom, found]
          exact ⟨[], c, rest, cause, .done, found⟩
      | ok lexeme =>
          obtain ⟨content, more⟩ := lexeme
          obtain ⟨tail, behind, restEq, _, fits⟩ := Lexeme.read_eq_ok.mp found
          have shorter : behind.length < (c :: rest).length := by
            rw [restEq, List.length_cons, List.length_append]
            omega
          have others := scanFrom_passes (offset + Text.byteSize (c :: tail)) behind
          have scanned := scanFrom_fits offset fits
          subst restEq
          rw [List.cons_append] at scanned
          rw [scanned]
          cases ended : scanFrom (offset + Text.byteSize (c :: tail)) behind with
          | error fault =>
              obtain ⟨tokens, d, left, cause, passes, failed⟩ := others.of_error ended
              cases content with
              | none => exact ⟨tokens, d, left, cause, .gap fits passes, failed⟩
              | some token => exact ⟨_ :: tokens, d, left, cause, .token fits passes, failed⟩
          | ok tokens =>
              obtain ⟨body, stop, passes, rfl⟩ := others.of_ok ended
              cases content with
              | none => exact ⟨body, stop, .gap fits passes, rfl⟩
              | some token => exact ⟨_ :: body, stop, .token fits passes, rfl⟩
termination_by text.length
decreasing_by exact shorter

namespace Passes

variable {offset stop : Nat} {text rest : List Char} {tokens : List Token}

theorem scanFrom_eq (passes : Passes offset text tokens stop rest) :
    scanFrom offset text = (scanFrom stop rest).map fun others => tokens ++ others := by
  induction passes with
  | @done offset rest =>
      cases scanFrom offset rest with
      | ok others => rfl
      | error fault => rfl
  | gap fits _ inductionHypothesis => rw [scanFrom_gap _ fits, inductionHypothesis]
  | @token _ stop _ _ rest _ _ _ fits _ inductionHypothesis =>
      rw [scanFrom_fits _ fits, inductionHypothesis]
      cases scanFrom stop rest with
      | ok others => rfl
      | error fault => rfl

theorem cut (passes : Passes offset text tokens stop rest) :
    ∃ before, text = before ++ rest ∧ stop = offset + Text.byteSize before ∧
      Passes offset before tokens stop [] := by
  induction passes with
  | done => exact ⟨[], rfl, rfl, .done⟩
  | @gap offset _ piece _ rest _ fits _ inductionHypothesis =>
      obtain ⟨before, rfl, stopEq, cut⟩ := inductionHypothesis
      refine ⟨piece ++ before, (List.append_assoc piece before rest).symm, ?_,
        .gap (fits.shortened (List.prefix_append before rest)) cut⟩
      rw [stopEq, Text.byteSize_append, Nat.add_assoc]
  | @token offset _ piece _ rest _ _ _ fits _ inductionHypothesis =>
      obtain ⟨before, rfl, stopEq, cut⟩ := inductionHypothesis
      refine ⟨piece ++ before, (List.append_assoc piece before rest).symm, ?_,
        .token (fits.shortened (List.prefix_append before rest)) cut⟩
      rw [stopEq, Text.byteSize_append, Nat.add_assoc]

end Passes

/-! ### Tiles -/

namespace Tiles

variable {text piece behind : List Char} {span : Span} {stop : Nat} {tokens : List Token}

theorem gap (tiles : Tiles text { start := span.stop, stop := stop } tokens)
    (stands : Text.Stands text span piece behind) (isGap : Text.IsGap piece behind) :
    Tiles text { start := span.start, stop := stop } tokens := by
  have le : span.start ≤ span.stop := by
    obtain ⟨_, _, startEq, stopEq⟩ := stands
    omega
  refine ⟨tiles.written, ?_, tiles.ordered, ?_⟩
  · intro token member
    obtain ⟨startLe, nonempty, stopLe⟩ := tiles.within token member
    exact ⟨Nat.le_trans le startLe, nonempty, stopLe⟩
  · rintro offset ⟨startLe, ltStop⟩ outside
    by_cases here : offset < span.stop
    · exact ⟨span, piece, behind, ⟨startLe, here⟩, stands, isGap, Nat.le_refl span.start,
        fun token member => .inr (tiles.within token member).1⟩
    · obtain ⟨other, piece, behind, holds, stands, isGap, startLe, apart⟩ :=
        tiles.gaps offset ⟨Nat.le_of_not_lt here, ltStop⟩ outside
      exact ⟨other, piece, behind, holds, stands, isGap, Nat.le_trans le startLe, apart⟩

theorem token (token : Token)
    (tiles : Tiles text { start := token.span.stop, stop := stop } tokens)
    (wellFormed : token.word.WellFormed) (written : token.word.WrittenAs piece)
    (stands : Text.Stands text token.span piece behind)
    (nonempty : token.span.start < token.span.stop) (within : token.span.stop ≤ stop) :
    Tiles text { start := token.span.start, stop := stop } (token :: tokens) := by
  refine ⟨?_, ?_, ?_, ?_⟩
  · exact List.forall_mem_cons.mpr ⟨⟨wellFormed, piece, behind, stands, written⟩, tiles.written⟩
  · refine List.forall_mem_cons.mpr ⟨⟨Nat.le_refl _, nonempty, within⟩, ?_⟩
    intro other member
    obtain ⟨startLe, otherNonempty, stopLe⟩ := tiles.within other member
    exact ⟨Nat.le_trans (Nat.le_of_lt nonempty) startLe, otherNonempty, stopLe⟩
  · exact List.pairwise_cons.mpr
      ⟨fun other member => (tiles.within other member).1, tiles.ordered⟩
  · rintro offset ⟨startLe, ltStop⟩ outside
    obtain ⟨notHere, outsideOthers⟩ := List.forall_mem_cons.mp outside
    have behindToken : token.span.stop ≤ offset :=
      Nat.le_of_not_lt fun here => notHere ⟨startLe, here⟩
    obtain ⟨span, piece, behind, holds, stands, isGap, spanStart, apart⟩ :=
      tiles.gaps offset ⟨behindToken, ltStop⟩ outsideOthers
    exact ⟨span, piece, behind, holds, stands, isGap,
      Nat.le_trans (Nat.le_of_lt nonempty) spanStart,
      List.forall_mem_cons.mpr ⟨.inl spanStart, apart⟩⟩

end Tiles

theorem Passes.le {offset stop : Nat} {text rest : List Char} {tokens : List Token}
    (passes : Passes offset text tokens stop rest) : offset ≤ stop := by
  obtain ⟨before, _, stopEq, _⟩ := passes.cut
  omega

theorem Passes.tiles {offset stop : Nat} {text rest : List Char} {tokens : List Token}
    (passes : Passes offset text tokens stop rest) (passed : List Char)
    (offsetEq : offset = Text.byteSize passed) :
    Tiles (passed ++ text) { start := offset, stop := stop } tokens := by
  -- By induction on the lexemes that are passed, with what stands before them.
  induction passes generalizing passed with
  | @done offset rest =>
      refine ⟨List.forall_mem_nil _, List.forall_mem_nil _, .nil, ?_⟩
      rintro byte ⟨startLe, ltStop⟩ _
      exact absurd ltStop (Nat.not_lt_of_le startLe)
  | @gap offset _ piece behind _ _ fits _ inductionHypothesis =>
      have others := inductionHypothesis (passed ++ piece) (by rw [offsetEq, Text.byteSize_append])
      rw [List.append_assoc] at others
      let span : Span := { start := offset, stop := offset + Text.byteSize piece }
      have stands : Text.Stands (passed ++ (piece ++ behind)) span piece behind :=
        ⟨passed, rfl, offsetEq, by rw [← offsetEq]⟩
      exact Tiles.gap others stands fits.isGap
  | @token offset _ piece behind _ _ kind value fits others inductionHypothesis =>
      let token : Token :=
        { kind := kind
          value := value
          span := { start := offset, stop := offset + Text.byteSize piece } }
      have tiles := inductionHypothesis (passed ++ piece) (by rw [offsetEq, Text.byteSize_append])
      rw [List.append_assoc] at tiles
      obtain ⟨c, tail, pieceEq, _⟩ := fits.read
      have nonempty : 0 < Text.byteSize piece :=
        Text.byteSize_pos (by rw [pieceEq]; exact List.cons_ne_nil c tail)
      obtain ⟨wellFormed, written⟩ := fits.written
      have stands : Text.Stands (passed ++ (piece ++ behind)) token.span piece behind :=
        ⟨passed, rfl, offsetEq, by rw [← offsetEq]⟩
      exact Tiles.token token tiles wellFormed written stands
        (Nat.lt_add_of_pos_right nonempty) others.le

theorem passes_of_scan {text : String} {tokens : List Token} (scanned : scan text = .ok tokens) :
    ∃ body, tokens = body ++ [endOfSource text.utf8ByteSize] ∧
      Passes 0 text.toList body text.utf8ByteSize [] := by
  obtain ⟨body, stop, passes, rfl⟩ := (scanFrom_passes 0 text.toList).of_ok scanned
  obtain ⟨before, textEq, stopEq, _⟩ := passes.cut
  have sizeEq : stop = text.utf8ByteSize := by
    rw [stopEq, Nat.zero_add, ← Text.byteSize_toList, textEq, List.append_nil]
  subst sizeEq
  exact ⟨body, rfl, passes⟩

theorem tiles_of_scan {text : String} {tokens : List Token} (scanned : scan text = .ok tokens) :
    ∃ body, tokens = body ++ [endOfSource text.utf8ByteSize] ∧
      Tiles text.toList { start := 0, stop := text.utf8ByteSize } body := by
  obtain ⟨body, tokensEq, passes⟩ := passes_of_scan scanned
  exact ⟨body, tokensEq, passes.tiles [] rfl⟩

/-- The tokens of a text tile it, with an end of source at its end.  A text without tokens has
an offset where nothing begins, and what stands before it has tokens. -/
theorem scan_tiles (text : String) :
    (∀ tokens, scan text = .ok tokens → ∃ body,
      tokens = body ++ [endOfSource text.utf8ByteSize] ∧
        Tiles text.toList { start := 0, stop := text.utf8ByteSize } body) ∧
      ∀ fault, scan text = .error fault → ∃ before rest,
        text.toList = before ++ rest ∧ fault.offset = Text.byteSize before ∧ rest ≠ [] ∧
          Text.IsStuck rest ∧ ∃ tokens, scan (String.ofList before) = .ok tokens := by
  constructor
  · intro tokens scanned
    exact tiles_of_scan scanned
  · intro fault scanned
    obtain ⟨tokens, c, rest, cause, passes, failed⟩ :=
      (scanFrom_passes 0 text.toList).of_error scanned
    obtain ⟨before, textEq, stopEq, cut⟩ := passes.cut
    refine ⟨before, c :: rest, textEq, ?_, List.cons_ne_nil c rest,
      Lexeme.isStuck_of_read failed, tokens ++ [endOfSource fault.offset], ?_⟩
    · rw [stopEq, Nat.zero_add]
    · rw [scan, String.toList_ofList, cut.scanFrom_eq, scanFrom]
      rfl

/-- Holds literals with an escape and with a character of two bytes, and a comment. -/
def tiled : String :=
  "x == '\\n' // é\n\"é\" 1.5"

/-- Holds a point without a digit behind it. -/
def torn : String :=
  "x = // é\n 1.x"

theorem scan_tiles_sample :
    (∃ body, scan tiled = .ok (body ++ [endOfSource tiled.utf8ByteSize]) ∧
      Tiles tiled.toList { start := 0, stop := tiled.utf8ByteSize } body) ∧
      ∃ fault before rest, scan torn = .error fault ∧ torn.toList = before ++ rest ∧
        fault.offset = Text.byteSize before ∧ Text.IsStuck rest := by
  have tiledScans : (scan tiled).isOk = true := by decide +kernel
  have tornFails : (scan torn).isOk = false := by decide +kernel
  constructor
  · cases scanned : scan tiled with
    | ok tokens =>
        obtain ⟨body, rfl, tiles⟩ := (scan_tiles tiled).1 tokens scanned
        exact ⟨body, rfl, tiles⟩
    | error fault =>
        rw [scanned] at tiledScans
        cases tiledScans
  · cases scanned : scan torn with
    | ok tokens =>
        rw [scanned] at tornFails
        cases tornFails
    | error fault =>
        obtain ⟨before, rest, textEq, offsetEq, _, stuck, _⟩ :=
          (scan_tiles torn).2 fault scanned
        exact ⟨fault, before, rest, rfl, textEq, offsetEq, stuck⟩

end Token
end ScriptLang
