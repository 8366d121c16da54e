import ScriptLang.Proofs.Lexemes

/-!
Words, and the text that they are written as.

A word is what a token says: its kind, and the text that it stands for.  Characters and strings
are written between quotes with the escapes of the scanner, all other words as they stand.
Words with blanks between them are scanned back one by one, in whichever way each is written.
-/

namespace ScriptLang

structure Word where
  kind : Kind
  value : String
  deriving DecidableEq, Repr

def Token.word (token : Token) : Word :=
  { kind := token.kind, value := token.value }

def Word.endOfSource : Word :=
  { kind := .eof, value := "EOF" }

/-! ### Escapes -/

namespace Literal

def escapeLetter? : Char → Option Char
  | '\x08' => some 'b'
  | '\n' => some 'n'
  | '\r' => some 'r'
  | '\t' => some 't'
  | '\'' => some '\''
  | '"' => some '"'
  | '\\' => some '\\'
  | _ => none

def escape (c : Char) : List Char :=
  match escapeLetter? c with
  | some letter => ['\\', letter]
  | none => [c]

theorem escaped?_of_letter {c letter : Char} (escapes : escapeLetter? c = some letter) :
    escaped? letter = some c := by
  unfold escapeLetter? at escapes
  split at escapes
  all_goals
    cases escapes
  all_goals rfl

theorem isRaw_of_no_letter {c quote : Char} (noEscape : escapeLetter? c = none)
    (isQuote : quote = '\'' ∨ quote = '"') : isRaw quote c = true := by
  have different (other letter : Char) (escapes : escapeLetter? other = some letter) :
      c ≠ other := by
    rintro rfl
    rw [noEscape] at escapes
    cases escapes
  have noBackslash := different '\\' '\\' rfl
  have noNewline := different '\n' 'n' rfl
  have noReturn := different '\r' 'r' rfl
  have noQuote : c ≠ quote := by
    rcases isQuote with rfl | rfl
    · exact different '\'' '\'' rfl
    · exact different '"' '"' rfl
  simp [isRaw, noQuote, noBackslash, noNewline, noReturn]

theorem escape_cases (c : Char) {quote : Char} (isQuote : quote = '\'' ∨ quote = '"') :
    (∃ letter, escape c = ['\\', letter] ∧ escaped? letter = some c) ∨
      escape c = [c] ∧ isRaw quote c = true := by
  unfold escape
  cases escapes : escapeLetter? c with
  | some letter => exact .inl ⟨letter, rfl, escaped?_of_letter escapes⟩
  | none => exact .inr ⟨rfl, isRaw_of_no_letter escapes isQuote⟩

theorem decodes_flatMap {quote : Char} {write : Char → List Char}
    (cases : ∀ c, (∃ letter, write c = ['\\', letter] ∧ escaped? letter = some c) ∨
      write c = [c] ∧ isRaw quote c = true) (text : List Char) :
    Decodes quote (text.flatMap write) text := by
  induction text with
  | nil => exact .nil
  | cons c text inductionHypothesis =>
      rw [List.flatMap_cons]
      rcases cases c with ⟨letter, escapeEq, stands⟩ | ⟨escapeEq, isRaw⟩
      · rw [escapeEq]
        exact .escape stands inductionHypothesis
      · rw [escapeEq]
        exact .raw isRaw inductionHypothesis

theorem decodes_escape (text : List Char) {quote : Char} (isQuote : quote = '\'' ∨ quote = '"') :
    Decodes quote (text.flatMap escape) text :=
  decodes_flatMap (fun c => escape_cases c isQuote) text

end Literal

/-! ### Words that are well formed -/

/-- A word of letters, digits and underscores that starts with no digit and is not reserved. -/
structure IsName (name : String) : Prop where
  spelled : ∃ first others, name.toList = first :: others ∧ Lexeme.isWordStart first = true ∧
    ∀ c ∈ others, Lexeme.isWordChar c = true
  free : ∀ kind ∈ Kind.reservedWords, kind.spelling? ≠ some name

theorem IsName.ofWord {name : String} (isName : IsName name) :
    Kind.ofWord name = .identifier := by
  unfold Kind.ofWord
  rw [List.find?_eq_none.mpr]
  · rfl
  · intro kind member same
    exact isName.free kind member (eq_of_beq same)

namespace Word

/-- A word with the text that the scanner gives to words of its kind. -/
def WellFormed (word : Word) : Prop :=
  match word.kind with
  | .eof => False
  | .identifier => IsName word.value
  | .integer => IsDigits word.value.toList
  | .decimal =>
      ∃ whole fraction, IsDigits whole ∧ IsDigits fraction ∧
        word.value.toList = whole ++ '.' :: fraction
  | .character => ∃ c, word.value.toList = [c]
  | .string => True
  | kind => kind.spelling? = some word.value

/-- How a word is written. -/
def text (word : Word) : List Char :=
  match word.kind with
  | .character => '\'' :: (word.value.toList.flatMap Literal.escape ++ ['\''])
  | .string => '"' :: (word.value.toList.flatMap Literal.escape ++ ['"'])
  | _ => word.value.toList

/-- How a word may be written: as it stands, or as a literal in quotes that decodes to it. -/
def WrittenAs (word : Word) (piece : List Char) : Prop :=
  match word.kind with
  | .character =>
      ∃ body, piece = '\'' :: (body ++ ['\'']) ∧ Literal.Decodes '\'' body word.value.toList
  | .string =>
      ∃ body, piece = '"' :: (body ++ ['"']) ∧ Literal.Decodes '"' body word.value.toList
  | _ => piece = word.value.toList

theorem writtenAs_text (word : Word) : word.WrittenAs word.text := by
  obtain ⟨kind, value⟩ := word
  cases kind with
  | character => exact ⟨_, rfl, Literal.decodes_escape value.toList (.inl rfl)⟩
  | string => exact ⟨_, rfl, Literal.decodes_escape value.toList (.inr rfl)⟩
  | _ => rfl

/-- The word of an operator, a punctuation mark or a reserved word. -/
def fixed (kind : Kind) : Word :=
  { kind := kind, value := kind.spelling?.getD "" }

end Word

/-! ### Blanks behind a word -/

namespace Text

def Breaks (rest : List Char) : Prop :=
  ∀ c ∈ rest.head?, isBlank c = true

theorem Breaks.nil : Breaks [] :=
  fun _ impossible => absurd impossible (Option.not_mem_none _)

theorem Breaks.stops {rest : List Char} (breaks : Breaks rest) {holds : Char → Bool}
    (noBlanks : ∀ c, holds c = true → isBlank c = false) : Stops holds rest := by
  intro c first
  by_contra goesOn
  have isBlank := breaks c first
  rw [noBlanks c (Bool.not_eq_false _ ▸ goesOn)] at isBlank
  cases isBlank

end Text

open Text (Breaks)

/-! ### Scanning one word -/

namespace Kind

theorem ofWord_reserved {kind : Kind} (isReserved : kind ∈ reservedWords) {spelling : String}
    (spelled : kind.spelling? = some spelling) :
    ofWord spelling = kind ∧
      ∃ c tail, spelling.toList = c :: tail ∧ Lexeme.isWordStart c = true ∧
        tail.all Lexeme.isWordChar = true := by
  cases kind with
  | eof | identifier | integer | decimal | character | string => cases spelled
  | _ =>
      cases spelled
      first
        | exact ⟨rfl, _, _, rfl, rfl, rfl⟩
        | exact absurd isReserved (by decide)

theorem mark_or_reserved {kind : Kind} {spelling : String}
    (spelled : kind.spelling? = some spelling) : kind ∈ marks ∨ kind ∈ reservedWords := by
  cases kind with
  | eof | identifier | integer | decimal | character | string => cases spelled
  | _ => decide

end Kind

namespace Lexeme

theorem fits_word {text : String} {c : Char} {tail behind : List Char}
    (textEq : text.toList = c :: tail) (starts : isWordStart c = true)
    (continues : ∀ d ∈ tail, isWordChar d = true) (breaks : Breaks behind) :
    Fits (some (Kind.ofWord text, text)) text.toList behind := by
  have fits := Fits.word starts continues
    (breaks.stops fun _ => Text.not_isBlank_of_isWordChar)
  rwa [← textEq, String.ofList_toList] at fits

theorem fits_fixed {kind : Kind} {spelling : String} (spelled : kind.spelling? = some spelling)
    {behind : List Char} (breaks : Breaks behind) :
    Fits (some (kind, spelling)) spelling.toList behind := by
  rcases Kind.mark_or_reserved spelled with isMark | isReserved
  · refine .mark isMark spelled (fun _ => breaks.stops ?_) (fun _ => breaks.stops ?_)
    · intro c isEquals
      rw [eq_of_beq isEquals]
      rfl
    · intro c isSlash
      rw [eq_of_beq isSlash]
      rfl
  · obtain ⟨kindEq, c, tail, textEq, starts, continues⟩ := Kind.ofWord_reserved isReserved spelled
    have fits := fits_word textEq starts (List.all_eq_true.mp continues) breaks
    rwa [kindEq] at fits

end Lexeme

namespace Word.WellFormed

variable {word : Word} {behind : List Char}

/-- A well-formed word, however it is written, is the lexeme that a text begins with when a blank
follows it. -/
theorem fits_written (wellFormed : word.WellFormed) {piece : List Char}
    (written : word.WrittenAs piece) (breaks : Breaks behind) :
    Lexeme.Fits (some (word.kind, word.value)) piece behind := by
  obtain ⟨kind, value⟩ := word
  have digitStops := breaks.stops fun _ => Text.not_isBlank_of_isDigit
  cases kind with
  | eof => exact wellFormed.elim
  | identifier =>
      cases written
      have isName : IsName value := wellFormed
      obtain ⟨c, tail, textEq, starts, continues⟩ := isName.spelled
      have fits := Lexeme.fits_word textEq starts continues breaks
      rwa [isName.ofWord] at fits
  | integer =>
      cases written
      have digits : IsDigits value.toList := wellFormed
      have fits := Lexeme.Fits.integer digits digitStops fun rest behindEq => by
        rw [behindEq] at breaks
        cases breaks '.' rfl
      rwa [String.ofList_toList] at fits
  | decimal =>
      cases written
      obtain ⟨whole, fraction, wholeDigits, fractionDigits, textEq⟩ := wellFormed
      have fits := Lexeme.Fits.decimal wholeDigits fractionDigits digitStops
      rwa [← textEq, String.ofList_toList] at fits
  | character =>
      obtain ⟨c, textEq⟩ := wellFormed
      obtain ⟨body, rfl, decodes⟩ := written
      have valueEq : c.toString = value := by
        apply String.toList_inj.mp
        exact (String.toList_singleton c).trans textEq.symm
      rw [textEq] at decodes
      rw [← valueEq]
      exact .character decodes
  | string =>
      obtain ⟨body, rfl, decodes⟩ := written
      have fits : Lexeme.Fits (some (.string, String.ofList value.toList))
          ('"' :: (body ++ ['"'])) behind := .string decodes
      rwa [String.ofList_toList] at fits
  | _ =>
      cases written
      exact Lexeme.fits_fixed wellFormed breaks

end Word.WellFormed

/-! ### Scanning words that are written out -/

/-- The text is some words one behind the other, each written in one of its ways, with blanks
before, between and behind them.  Only the last word may lack blanks behind it. -/
inductive WrittenOut : List Word → List Char → Prop where
  | nil : WrittenOut [] []
  | blanks {words : List Word} {run text : List Char} (blank : ∀ c ∈ run, Text.isBlank c = true)
      (others : WrittenOut words text) : WrittenOut words (run ++ text)
  | word {word : Word} {words : List Word} {piece text : List Char}
      (wellFormed : word.WellFormed) (written : word.WrittenAs piece) (breaks : Breaks text)
      (others : WrittenOut words text) : WrittenOut (word :: words) (piece ++ text)

namespace Token

theorem scanFrom_blank (offset : Nat) {c : Char} (isBlank : Text.isBlank c = true)
    (rest : List Char) : scanFrom offset (c :: rest) = scanFrom (offset + c.utf8Size) rest := by
  obtain ⟨run, behind, rfl, blank, stops⟩ := Text.exists_run Text.isBlank rest
  have whole := scanFrom_gap offset
    (.blanks (List.cons_ne_nil c run) (List.forall_mem_cons.mpr ⟨isBlank, blank⟩) stops)
  rw [List.cons_append, Text.byteSize, ← Nat.add_assoc] at whole
  rw [whole]
  by_cases alone : run = []
  · rw [alone]
    rfl
  · exact (scanFrom_gap (offset + c.utf8Size) (.blanks alone blank stops)).symm

theorem scanFrom_blanks (offset : Nat) {run : List Char}
    (blank : ∀ c ∈ run, Text.isBlank c = true) (rest : List Char) :
    scanFrom offset (run ++ rest) = scanFrom (offset + Text.byteSize run) rest := by
  induction run generalizing offset with
  | nil => rfl
  | cons c run inductionHypothesis =>
      obtain ⟨isBlank, othersBlank⟩ := List.forall_mem_cons.mp blank
      rw [List.cons_append, scanFrom_blank offset isBlank, inductionHypothesis _ othersBlank,
        Text.byteSize, Nat.add_assoc]

/-- Words that are written out are scanned back, with an end of source behind them. -/
theorem scanFrom_writtenOut {words : List Word} {text : List Char}
    (writtenOut : WrittenOut words text) (offset : Nat) :
    ∃ tokens stop, scanFrom offset text = .ok (tokens ++ [endOfSource stop]) ∧
      tokens.map Token.word = words := by
  induction writtenOut generalizing offset with
  | nil =>
      refine ⟨[], offset, ?_, rfl⟩
      rw [scanFrom]
      rfl
  | blanks blank _ inductionHypothesis =>
      rw [scanFrom_blanks offset blank]
      exact inductionHypothesis _
  | @word word words piece text wellFormed written breaks _ inductionHypothesis =>
      obtain ⟨tokens, stop, scanned, wordsEq⟩ :=
        inductionHypothesis (offset + Text.byteSize piece)
      let token : Token :=
        { kind := word.kind
          value := word.value
          span := { start := offset, stop := offset + Text.byteSize piece } }
      refine ⟨token :: tokens, stop, ?_, ?_⟩
      · rw [scanFrom_fits offset (wellFormed.fits_written written breaks), scanned]
        rfl
      · rw [List.map_cons, wordsEq]
        rfl

end Token

/-! ### Blanks to write between words -/

structure Spacing where
  blanks : Nat → List Char
  nonempty : ∀ i, blanks i ≠ []
  blank : ∀ i, ∀ c ∈ blanks i, Text.isBlank c = true

namespace Spacing

def single : Spacing where
  blanks := fun _ => [' ']
  nonempty := fun _ => List.cons_ne_nil _ _
  blank := fun _ => List.forall_mem_singleton.mpr rfl

instance : Inhabited Spacing := ⟨single⟩

/-- The text of the words, which are counted from `i`, with blanks behind each of them. -/
def write (spacing : Spacing) (i : Nat) : List Word → List Char
  | [] => []
  | word :: words => word.text ++ (spacing.blanks i ++ spacing.write (i + 1) words)

theorem breaks (spacing : Spacing) (i : Nat) (rest : List Char) :
    Breaks (spacing.blanks i ++ rest) := by
  intro c first
  obtain ⟨b, others, blanksEq⟩ := List.exists_cons_of_ne_nil (spacing.nonempty i)
  rw [blanksEq] at first
  cases first
  apply spacing.blank i
  rw [blanksEq]
  exact List.mem_cons_self

theorem writtenOut_write (spacing : Spacing) {words : List Word}
    (wellFormed : ∀ word ∈ words, word.WellFormed) (i : Nat) :
    WrittenOut words (spacing.write i words) := by
  induction words generalizing i with
  | nil => exact .nil
  | cons word words inductionHypothesis =>
      obtain ⟨wordWellFormed, othersWellFormed⟩ := List.forall_mem_cons.mp wellFormed
      exact .word wordWellFormed word.writtenAs_text (spacing.breaks i _)
        (.blanks (spacing.blank i) (inductionHypothesis othersWellFormed (i + 1)))

end Spacing

theorem Token.scanFrom_write (spacing : Spacing) (words : List Word)
    (wellFormed : ∀ word ∈ words, word.WellFormed) (i offset : Nat) :
    ∃ tokens last, scanFrom offset (spacing.write i words) = .ok (tokens ++ [last]) ∧
      tokens.map Token.word = words ∧ last.kind = .eof := by
  obtain ⟨tokens, stop, scanned, wordsEq⟩ :=
    scanFrom_writtenOut (spacing.writtenOut_write wellFormed i) offset
  exact ⟨tokens, endOfSource stop, scanned, wordsEq, rfl⟩

end ScriptLang
