import ScriptLang.Proofs.Numerals
import ScriptLang.Token.Scan

/-!
Lexemes.

What a beginning of a text is read as is told by its characters and by what stands behind it:
runs of characters go on as far as they can, literals are closed by their quote, and two marks
begin something longer.  The relation says so without the reader, and the reader reads exactly the
lexemes that it relates.
-/

namespace ScriptLang

/-! ### Runs of characters -/

namespace Text

/-- The text is at its end, or goes on with a character outside the class. -/
def Stops (holds : Char → Bool) (rest : List Char) : Prop :=
  ∀ c ∈ rest.head?, holds c = false

namespace Stops

variable {holds : Char → Bool} {run rest : List Char}

theorem nil : Stops holds [] :=
  fun _ impossible => absurd impossible (Option.not_mem_none _)

theorem takeWhile_append (stops : Stops holds rest) (all : ∀ c ∈ run, holds c = true) :
    (run ++ rest).takeWhile holds = run := by
  rw [List.takeWhile_append_of_pos all]
  cases rest with
  | nil => simp
  | cons c rest =>
      have ends : ¬holds c = true := by
        rw [stops c rfl]
        exact Bool.false_ne_true
      rw [List.takeWhile_cons_of_neg ends, List.append_nil]

theorem exists_of_not {c : Char} (goesOn : ¬Stops (· == c) rest) :
    ∃ behind, rest = c :: behind := by
  cases rest with
  | nil => exact absurd nil goesOn
  | cons d behind =>
      by_cases same : d = c
      · exact ⟨behind, by rw [same]⟩
      · refine absurd ?_ goesOn
        rintro _ ⟨⟩
        exact beq_eq_false_iff_ne.mpr same

theorem shortened {shorter : List Char} (stops : Stops holds rest) (isPrefix : shorter <+: rest) :
    Stops holds shorter := by
  obtain ⟨more, rfl⟩ := isPrefix
  cases shorter with
  | nil =>
      intro c impossible
      cases impossible
  | cons c shorter => exact stops

end Stops

theorem exists_run (holds : Char → Bool) (text : List Char) :
    ∃ run rest, text = run ++ rest ∧ (∀ c ∈ run, holds c = true) ∧ Stops holds rest := by
  refine ⟨text.takeWhile holds, text.dropWhile holds, List.takeWhile_append_dropWhile.symm,
    fun _ member => List.mem_takeWhile_imp member, ?_⟩
  intro c first
  have ends := List.head?_dropWhile_not holds text
  rw [Option.mem_def.mp first] at ends
  simpa using ends

theorem letter_range {c : Char} (isAlpha : c.isAlpha = true) :
    (65 ≤ c.toNat ∧ c.toNat ≤ 90) ∨ (97 ≤ c.toNat ∧ c.toNat ≤ 122) := by
  change (decide (65 ≤ c.val ∧ c.val ≤ 90) ||
    decide (97 ≤ c.val) && decide (c.val ≤ 122)) = true at isAlpha
  simp only [Bool.or_eq_true, Bool.and_eq_true, decide_eq_true_eq,
    UInt32.le_iff_toNat_le] at isAlpha
  exact isAlpha

theorem digit_range {c : Char} (isDigit : c.isDigit = true) : 48 ≤ c.toNat ∧ c.toNat ≤ 57 :=
  Char.isDigit_iff_toNat.mp isDigit

theorem not_isBlank_of_between {c : Char} (low : 48 ≤ c.toNat) (high : c.toNat ≤ 122) :
    isBlank c = false := by
  simp [isBlank]
  omega

theorem not_isBlank_of_isWordChar {c : Char} (isWordChar : Lexeme.isWordChar c = true) :
    isBlank c = false := by
  simp only [Lexeme.isWordChar, Bool.or_eq_true, beq_iff_eq] at isWordChar
  rcases isWordChar with (isAlpha | isDigit) | rfl
  · have range := letter_range isAlpha
    exact not_isBlank_of_between (by omega) (by omega)
  · have range := digit_range isDigit
    exact not_isBlank_of_between (by omega) (by omega)
  · rfl

theorem not_isBlank_of_isDigit {c : Char} (isDigit : c.isDigit = true) : isBlank c = false := by
  apply not_isBlank_of_isWordChar
  simp [Lexeme.isWordChar, isDigit]

end Text

/-! ### Literals -/

namespace Literal

/-- What stands between quotes, and the text that it stands for: a character stands for itself,
or for another one as the letter of an escape behind a backslash. -/
inductive Decodes (quote : Char) : List Char → List Char → Prop where
  | nil : Decodes quote [] []
  | raw {c : Char} {body text : List Char} (isRaw : isRaw quote c = true)
      (rest : Decodes quote body text) : Decodes quote (c :: body) (c :: text)
  | escape {letter c : Char} {body text : List Char} (stands : escaped? letter = some c)
      (rest : Decodes quote body text) : Decodes quote ('\\' :: letter :: body) (c :: text)

theorem ne_of_isRaw {quote c : Char} (raw : isRaw quote c = true) : c ≠ quote ∧ c ≠ '\\' := by
  simp only [isRaw, Bool.and_eq_true, bne_iff_ne] at raw
  exact ⟨raw.1.1.1, raw.1.1.2⟩

theorem Decodes.characterBody? {body : List Char} {value : Char}
    (decodes : Decodes '\'' body [value]) (behind : List Char) :
    characterBody? (body ++ '\'' :: behind) = some (value, body.length + 1) := by
  cases decodes with
  | raw isRaw rest =>
      cases rest
      change Literal.characterBody? (value :: '\'' :: behind) = some (value, 2)
      rw [Literal.characterBody?, if_pos isRaw]
      intro _ isBackslash
      exact absurd isBackslash (ne_of_isRaw isRaw).2
  | escape stands rest =>
      cases rest
      rename_i letter
      change (escaped? letter).map (fun value => (value, 3)) = some (value, 3)
      rw [stands]
      rfl

theorem characterBody?_eq_some {text : List Char} {value : Char} {count : Nat} :
    characterBody? text = some (value, count) ↔
      ∃ body behind, text = body ++ '\'' :: behind ∧ count = body.length + 1 ∧
        Decodes '\'' body [value] := by
  constructor
  · intro found
    unfold characterBody? at found
    split at found
    · rename_i letter behind
      obtain ⟨decoded, stands, pairEq⟩ := Option.map_eq_some_iff.mp found
      cases pairEq
      exact ⟨['\\', letter], behind, rfl, rfl, .escape stands .nil⟩
    · rename_i c behind _
      split at found
      · rename_i isRaw
        cases found
        exact ⟨[value], behind, rfl, rfl, .raw isRaw .nil⟩
      · cases found
    · cases found
  · rintro ⟨body, behind, rfl, rfl, decodes⟩
    exact decodes.characterBody? behind

theorem Decodes.stringBody? {body text : List Char} (decodes : Decodes '"' body text)
    (behind : List Char) :
    stringBody? (body ++ '"' :: behind) = some (text, body.length + 1) := by
  induction decodes with
  | nil => rfl
  | raw isRaw _ inductionHypothesis =>
      rw [List.cons_append, Literal.stringBody?, if_pos isRaw, inductionHypothesis]
      · rfl
      · exact fun isQuote => absurd isQuote (ne_of_isRaw isRaw).1
      · exact fun _ _ isBackslash => absurd isBackslash (ne_of_isRaw isRaw).2
  | escape stands _ inductionHypothesis =>
      rw [List.cons_append, List.cons_append, Literal.stringBody?, stands, inductionHypothesis]
      rfl

theorem stringBody?_eq_some {text value : List Char} {count : Nat} :
    stringBody? text = some (value, count) ↔
      ∃ body behind, text = body ++ '"' :: behind ∧ count = body.length + 1 ∧
        Decodes '"' body value := by
  constructor
  · intro found
    fun_induction stringBody? text generalizing value count with
    | case1 => cases found
    | case2 behind =>
        cases found
        exact ⟨[], behind, rfl, rfl, .nil⟩
    | case3 letter rest c inner innerCount innerEq stands inductionHypothesis =>
        cases found
        obtain ⟨body, behind, rfl, rfl, decodes⟩ := inductionHypothesis innerEq
        exact ⟨'\\' :: letter :: body, behind, rfl, rfl, .escape stands decodes⟩
    | case4 => cases found
    | case5 c rest _ _ isRaw inductionHypothesis =>
        obtain ⟨⟨inner, innerCount⟩, innerEq, pairEq⟩ := Option.map_eq_some_iff.mp found
        cases pairEq
        obtain ⟨body, behind, rfl, rfl, decodes⟩ := inductionHypothesis innerEq
        exact ⟨c :: body, behind, rfl, rfl, .raw isRaw decodes⟩
    | case6 => cases found
  · rintro ⟨body, behind, rfl, rfl, decodes⟩
    exact decodes.stringBody? behind

end Literal

/-! ### Lexemes -/

namespace Lexeme

open Literal (Decodes)
open Text (Stops)

/-- The lexeme that a text begins with, by its content, its characters and those behind it. -/
inductive Fits : Option (Kind × String) → List Char → List Char → Prop where
  | word {c : Char} {tail behind : List Char} (starts : isWordStart c = true)
      (continues : ∀ d ∈ tail, isWordChar d = true) (stops : Stops isWordChar behind) :
      Fits (some (Kind.ofWord (String.ofList (c :: tail)), String.ofList (c :: tail)))
        (c :: tail) behind
  | integer {digits behind : List Char} (isDigits : IsDigits digits)
      (stops : Stops Char.isDigit behind)
      (noFraction : ∀ rest, behind = '.' :: rest → Stops Char.isDigit rest) :
      Fits (some (.integer, String.ofList digits)) digits behind
  | decimal {whole fraction behind : List Char} (wholeDigits : IsDigits whole)
      (fractionDigits : IsDigits fraction) (stops : Stops Char.isDigit behind) :
      Fits (some (.decimal, String.ofList (whole ++ '.' :: fraction)))
        (whole ++ '.' :: fraction) behind
  | blanks {run behind : List Char} (nonempty : run ≠ [])
      (blank : ∀ c ∈ run, Text.isBlank c = true) (stops : Stops Text.isBlank behind) :
      Fits none run behind
  | comment {line behind : List Char} (oneLine : ∀ c ∈ line, (c != '\n') = true)
      (stops : Stops (· != '\n') behind) : Fits none ('/' :: '/' :: line) behind
  | character {body behind : List Char} {value : Char} (decodes : Decodes '\'' body [value]) :
      Fits (some (.character, value.toString)) ('\'' :: (body ++ ['\''])) behind
  | string {body behind value : List Char} (decodes : Decodes '"' body value) :
      Fits (some (.string, String.ofList value)) ('"' :: (body ++ ['"'])) behind
  | mark {kind : Kind} {spelling : String} {behind : List Char} (isMark : kind ∈ Kind.marks)
      (spelled : kind.spelling? = some spelling)
      (single : kind = .assignment → Stops (· == '=') behind)
      (noComment : kind = .slash → Stops (· == '/') behind) :
      Fits (some (kind, spelling)) spelling.toList behind

/-- What a lexeme is does not change when the text is cut anywhere behind it. -/
theorem Fits.shortened {content : Option (Kind × String)} {piece behind shorter : List Char}
    (fits : Fits content piece behind) (isPrefix : shorter <+: behind) :
    Fits content piece shorter := by
  cases fits with
  | word starts continues stops => exact .word starts continues (stops.shortened isPrefix)
  | integer isDigits stops noFraction =>
      refine .integer isDigits (stops.shortened isPrefix) ?_
      rintro rest rfl
      obtain ⟨more, rfl⟩ := isPrefix
      exact (noFraction (rest ++ more) rfl).shortened (List.prefix_append rest more)
  | decimal wholeDigits fractionDigits stops =>
      exact .decimal wholeDigits fractionDigits (stops.shortened isPrefix)
  | blanks nonempty blank stops => exact .blanks nonempty blank (stops.shortened isPrefix)
  | comment oneLine stops => exact .comment oneLine (stops.shortened isPrefix)
  | character decodes => exact .character decodes
  | string decodes => exact .string decodes
  | mark isMark spelled single noComment =>
      exact .mark isMark spelled (fun isAssignment => (single isAssignment).shortened isPrefix)
        (fun isSlash => (noComment isSlash).shortened isPrefix)

/-! ### Reading a lexeme that fits -/

variable {c : Char} {tail behind : List Char}

theorem isWordChar_of_isWordStart (starts : isWordStart c = true) : isWordChar c = true := by
  simp only [isWordStart, isWordChar, Bool.or_eq_true] at starts ⊢
  exact starts.imp .inl id

theorem not_isWordStart_of_isDigit (isDigit : c.isDigit = true) : ¬isWordStart c = true := by
  intro starts
  simp only [isWordStart, Bool.or_eq_true, beq_iff_eq] at starts
  have digits := Text.digit_range isDigit
  rcases starts with isAlpha | rfl
  · have letters := Text.letter_range isAlpha
    omega
  · cases isDigit

theorem read_word (starts : isWordStart c = true) (continues : ∀ d ∈ tail, isWordChar d = true)
    (stops : Stops isWordChar behind) :
    read c (tail ++ behind) =
      .ok { content := some (Kind.ofWord (String.ofList (c :: tail)), String.ofList (c :: tail))
            more := tail.length } := by
  rw [read, if_pos starts, word, stops.takeWhile_append continues]

theorem read_integer (digits : IsDigits (c :: tail)) (stops : Stops Char.isDigit behind)
    (noFraction : ∀ rest, behind = '.' :: rest → Stops Char.isDigit rest) :
    read c (tail ++ behind) =
      .ok { content := some (.integer, String.ofList (c :: tail)), more := tail.length } := by
  obtain ⟨isDigit, tailDigits⟩ := List.forall_mem_cons.mp digits.2
  rw [read, if_neg (not_isWordStart_of_isDigit isDigit), if_pos isDigit, number,
    stops.takeWhile_append tailDigits]
  dsimp only
  rw [List.drop_left]
  split
  · rename_i rest
    have noDigits : rest.takeWhile Char.isDigit = [] :=
      (noFraction rest rfl).takeWhile_append (List.forall_mem_nil _)
    rw [noDigits]
    rfl
  · rfl

theorem read_decimal {fraction : List Char} (wholeDigits : IsDigits (c :: tail))
    (fractionDigits : IsDigits fraction) (stops : Stops Char.isDigit behind) :
    read c (tail ++ '.' :: fraction ++ behind) =
      .ok { content := some (.decimal, String.ofList (c :: tail ++ '.' :: fraction))
            more := (tail ++ '.' :: fraction).length } := by
  obtain ⟨isDigit, tailDigits⟩ := List.forall_mem_cons.mp wholeDigits.2
  have pointStops : Stops Char.isDigit ('.' :: (fraction ++ behind)) := by
    rintro c ⟨⟩
    rfl
  have someFraction : ¬fraction.isEmpty = true := by
    rw [List.isEmpty_iff]
    exact fractionDigits.1
  have lengthEq : (tail ++ '.' :: fraction).length = tail.length + 1 + fraction.length := by
    rw [List.length_append, List.length_cons]
    omega
  rw [lengthEq, List.append_assoc, List.cons_append, read,
    if_neg (not_isWordStart_of_isDigit isDigit), if_pos isDigit, number,
    pointStops.takeWhile_append tailDigits]
  dsimp only
  rw [List.drop_left]
  simp only [stops.takeWhile_append fractionDigits.2, if_neg someFraction]

theorem read_blanks (isBlank : Text.isBlank c = true)
    (blank : ∀ d ∈ tail, Text.isBlank d = true) (stops : Stops Text.isBlank behind) :
    read c (tail ++ behind) = .ok { content := none, more := tail.length } := by
  have noWord : ¬isWordStart c = true := by
    intro starts
    rw [Text.not_isBlank_of_isWordChar (isWordChar_of_isWordStart starts)] at isBlank
    cases isBlank
  have noDigit : ¬c.isDigit = true := by
    intro isDigit
    rw [Text.not_isBlank_of_isDigit isDigit] at isBlank
    cases isBlank
  rw [read, if_neg noWord, if_neg noDigit, if_pos isBlank, stops.takeWhile_append blank]

theorem read_comment {line : List Char} (oneLine : ∀ c ∈ line, (c != '\n') = true)
    (stops : Stops (· != '\n') behind) :
    read '/' ('/' :: line ++ behind) =
      .ok { content := none, more := ('/' :: line).length } := by
  have noBlank : ¬Text.isBlank '/' = true := by decide
  have isComment : ('/' == '/' && ('/' :: line ++ behind).head? == some '/') = true := by simp
  have all : ∀ c ∈ '/' :: line, (c != '\n') = true :=
    List.forall_mem_cons.mpr ⟨rfl, oneLine⟩
  rw [read, if_neg (by decide), if_neg (by decide), if_neg noBlank, if_pos isComment,
    stops.takeWhile_append all]

theorem read_character {body : List Char} {value : Char} (decodes : Decodes '\'' body [value]) :
    read '\'' (body ++ ['\''] ++ behind) =
      .ok { content := some (.character, value.toString), more := (body ++ ['\'']).length } := by
  have noBlank : ¬Text.isBlank '\'' = true := by decide
  rw [List.append_assoc, List.singleton_append, read, if_neg (by decide), if_neg (by decide),
    if_neg noBlank, if_neg (by simp), if_pos (by decide), decodes.characterBody?,
    List.length_append, List.length_singleton]

theorem read_string {body value : List Char} (decodes : Decodes '"' body value) :
    read '"' (body ++ ['"'] ++ behind) =
      .ok { content := some (.string, String.ofList value), more := (body ++ ['"']).length } := by
  have noBlank : ¬Text.isBlank '"' = true := by decide
  rw [List.append_assoc, List.singleton_append, read, if_neg (by decide), if_neg (by decide),
    if_neg noBlank, if_neg (by simp), if_neg (by decide), if_pos (by decide),
    decodes.stringBody?, List.length_append, List.length_singleton]

theorem mark?_eq {kind : Kind} (isMark : kind ∈ Kind.marks) {spelling : String}
    (spelled : kind.spelling? = some spelling)
    (single : kind = .assignment → Stops (· == '=') behind) :
    mark? (spelling.toList ++ behind) =
      some { content := some (kind, spelling), more := spelling.toList.length - 1 } := by
  cases kind with
  | assignment =>
      cases spelled
      cases behind with
      | nil => rfl
      | cons b behind =>
          have noEquals : (b == '=') = false := single rfl b rfl
          have noLonger : "==".toList.isPrefixOf ("=".toList ++ b :: behind) = false := by
            change ('=' == '=' && ('=' == b && true)) = false
            simp [(beq_eq_false_iff_ne.mp noEquals).symm]
          unfold mark? Kind.marks
          simp only [List.findSome?, Kind.spelling?, noLonger]
          rfl
  | eof | identifier | integer | decimal | character | string => cases spelled
  | _ =>
      cases spelled
      first
        | rfl
        | exact absurd isMark (by decide)

/-- No mark starts like a lexeme of another sort; only the slash alone starts like a comment. -/
theorem markStart {kind : Kind} (isMark : kind ∈ Kind.marks) {spelling : String}
    (spelled : kind.spelling? = some spelling) :
    ∃ c tail, spelling.toList = c :: tail ∧
      (isWordStart c || c.isDigit || Text.isBlank c || c == '\'' || c == '"') = false ∧
        (c = '/' → kind = .slash ∧ tail = []) := by
  cases kind with
  | eof | identifier | integer | decimal | character | string => cases spelled
  | _ =>
      cases spelled
      first
        | exact ⟨_, _, rfl, rfl, by decide⟩
        | exact absurd isMark (by decide)

theorem read_mark {kind : Kind} (isMark : kind ∈ Kind.marks) {spelling : String}
    (spelled : kind.spelling? = some spelling)
    (single : kind = .assignment → Stops (· == '=') behind)
    (noComment : kind = .slash → Stops (· == '/') behind) :
    ∃ c tail, spelling.toList = c :: tail ∧
      read c (tail ++ behind) =
        .ok { content := some (kind, spelling), more := tail.length } := by
  obtain ⟨c, tail, textEq, noOther, ofSlash⟩ := markStart isMark spelled
  have found := mark?_eq isMark spelled single
  simp only [Bool.or_eq_false_iff] at noOther
  obtain ⟨⟨⟨⟨noWord, noDigit⟩, noBlank⟩, noCharacter⟩, noString⟩ := noOther
  have noComment : ¬(c == '/' && (tail ++ behind).head? == some '/') = true := by
    intro isComment
    obtain ⟨isSlash, slashFollows⟩ := Bool.and_eq_true_iff.mp isComment
    obtain ⟨isSlashMark, rfl⟩ := ofSlash (eq_of_beq isSlash)
    rw [List.nil_append] at slashFollows
    cases noComment isSlashMark '/' (eq_of_beq slashFollows)
  refine ⟨c, tail, textEq, ?_⟩
  rw [textEq] at found
  rw [read, if_neg (by simp [noWord]), if_neg (by simp [noDigit]), if_neg (by simp [noBlank]),
    if_neg noComment, if_neg (by simp [noCharacter]), if_neg (by simp [noString]),
    ← List.cons_append, found]
  simp

theorem Fits.read {content : Option (Kind × String)} {piece behind : List Char}
    (fits : Fits content piece behind) :
    ∃ c tail, piece = c :: tail ∧
      Lexeme.read c (tail ++ behind) = .ok { content := content, more := tail.length } := by
  cases fits with
  | word starts continues stops => exact ⟨_, _, rfl, read_word starts continues stops⟩
  | integer isDigits stops noFraction =>
      obtain ⟨c, tail, rfl⟩ := List.exists_cons_of_ne_nil isDigits.1
      exact ⟨c, tail, rfl, read_integer isDigits stops noFraction⟩
  | decimal wholeDigits fractionDigits stops =>
      obtain ⟨c, tail, rfl⟩ := List.exists_cons_of_ne_nil wholeDigits.1
      exact ⟨c, _, rfl, read_decimal wholeDigits fractionDigits stops⟩
  | blanks nonempty blank stops =>
      obtain ⟨c, tail, rfl⟩ := List.exists_cons_of_ne_nil nonempty
      obtain ⟨isBlank, tailBlank⟩ := List.forall_mem_cons.mp blank
      exact ⟨c, tail, rfl, read_blanks isBlank tailBlank stops⟩
  | comment oneLine stops => exact ⟨_, _, rfl, read_comment oneLine stops⟩
  | character decodes => exact ⟨_, _, rfl, read_character decodes⟩
  | string decodes => exact ⟨_, _, rfl, read_string decodes⟩
  | mark isMark spelled single noComment => exact read_mark isMark spelled single noComment

/-! ### What is read fits -/

/-- Behind a character, the text begins with the rest of a lexeme. -/
def Begins (c : Char) (rest : List Char) : Prop :=
  ∃ content tail behind, rest = tail ++ behind ∧ Fits content (c :: tail) behind

theorem Begins.read {rest : List Char} (begins : Begins c rest) :
    ∃ lexeme, Lexeme.read c rest = .ok lexeme := by
  obtain ⟨content, tail, behind, rfl, fits⟩ := begins
  obtain ⟨_, _, pieceEq, found⟩ := fits.read
  cases pieceEq
  exact ⟨_, found⟩

theorem begins_word {rest : List Char} (starts : isWordStart c = true) : Begins c rest := by
  obtain ⟨tail, behind, restEq, continues, stops⟩ := Text.exists_run isWordChar rest
  exact ⟨_, tail, behind, restEq, .word starts continues stops⟩

theorem begins_number {rest : List Char} (isDigit : c.isDigit = true) : Begins c rest := by
  obtain ⟨tail, behind, rfl, tailDigits, stops⟩ := Text.exists_run Char.isDigit rest
  have digits : IsDigits (c :: tail) :=
    ⟨List.cons_ne_nil c tail, List.forall_mem_cons.mpr ⟨isDigit, tailDigits⟩⟩
  by_cases hasFraction : ∃ d others, behind = '.' :: d :: others ∧ d.isDigit = true
  · obtain ⟨d, others, rfl, isDigit⟩ := hasFraction
    obtain ⟨fraction, rest, rfl, fractionDigits, fractionStops⟩ :=
      Text.exists_run Char.isDigit others
    have fits := Fits.decimal digits
      ⟨List.cons_ne_nil d fraction, List.forall_mem_cons.mpr ⟨isDigit, fractionDigits⟩⟩
      fractionStops
    exact ⟨_, tail ++ '.' :: d :: fraction, rest, by simp, fits⟩
  · refine ⟨_, tail, behind, rfl, .integer digits stops ?_⟩
    rintro rest rfl d first
    obtain ⟨others, rfl⟩ := List.head?_eq_some_iff.mp first
    exact Bool.eq_false_iff.mpr fun isDigit => hasFraction ⟨d, others, rfl, isDigit⟩

theorem begins_blanks {rest : List Char} (isBlank : Text.isBlank c = true) : Begins c rest := by
  obtain ⟨tail, behind, restEq, blank, stops⟩ := Text.exists_run Text.isBlank rest
  exact ⟨none, tail, behind, restEq,
    .blanks (List.cons_ne_nil c tail) (List.forall_mem_cons.mpr ⟨isBlank, blank⟩) stops⟩

theorem begins_comment (rest : List Char) : Begins '/' ('/' :: rest) := by
  obtain ⟨line, behind, rfl, oneLine, stops⟩ := Text.exists_run (· != '\n') rest
  exact ⟨none, '/' :: line, behind, rfl, .comment oneLine stops⟩

/-- Behind one equals sign another one may stand, and behind one slash another one. -/
theorem begins_mark {kind : Kind} (isMark : kind ∈ Kind.marks) {spelling : String}
    (spelled : kind.spelling? = some spelling) (textEq : spelling.toList = c :: tail)
    (behind : List Char) : Begins c (tail ++ behind) := by
  by_cases doubled : kind = .assignment ∧ ¬Stops (· == '=') behind ∨
      kind = .slash ∧ ¬Stops (· == '/') behind
  · rcases doubled with ⟨rfl, goesOn⟩ | ⟨rfl, goesOn⟩
    · obtain ⟨rest, rfl⟩ := Stops.exists_of_not goesOn
      obtain rfl : "=" = spelling := Option.some.inj spelled
      have equalsEq : ['='] = c :: tail := textEq
      cases equalsEq
      have fits : Fits (some (.equals, "==")) "==".toList rest :=
        .mark (by decide) rfl nofun nofun
      exact ⟨_, ['='], rest, rfl, fits⟩
    · obtain ⟨rest, rfl⟩ := Stops.exists_of_not goesOn
      obtain rfl : "/" = spelling := Option.some.inj spelled
      have slashEq : ['/'] = c :: tail := textEq
      cases slashEq
      exact begins_comment rest
  · refine ⟨some (kind, spelling), tail, behind, rfl, ?_⟩
    rw [← textEq]
    refine .mark isMark spelled (fun isAssignment => ?_) (fun isSlash => ?_)
    · by_contra goesOn
      exact doubled (.inl ⟨isAssignment, goesOn⟩)
    · by_contra goesOn
      exact doubled (.inr ⟨isSlash, goesOn⟩)

/-- Where a text begins like a lexeme, a lexeme begins, though it may be another one. -/
theorem Fits.begins {content : Option (Kind × String)} (fits : Fits content (c :: tail) behind)
    (rest : List Char) : Begins c (tail ++ rest) := by
  generalize pieceEq : c :: tail = piece at fits
  cases fits with
  | word starts continues stops =>
      cases pieceEq
      exact begins_word starts
  | integer isDigits stops noFraction =>
      subst pieceEq
      exact begins_number (isDigits.2 c List.mem_cons_self)
  | decimal wholeDigits fractionDigits stops =>
      obtain ⟨d, whole, rfl⟩ := List.exists_cons_of_ne_nil wholeDigits.1
      cases pieceEq
      exact begins_number (wholeDigits.2 c List.mem_cons_self)
  | blanks nonempty blank stops =>
      subst pieceEq
      exact begins_blanks (blank c List.mem_cons_self)
  | @comment line _ oneLine stops =>
      cases pieceEq
      exact begins_comment (line ++ rest)
  | character decodes =>
      cases pieceEq
      exact ⟨_, _, rest, rfl, .character decodes⟩
  | string decodes =>
      cases pieceEq
      exact ⟨_, _, rest, rfl, .string decodes⟩
  | mark isMark spelled single noComment => exact begins_mark isMark spelled pieceEq.symm rest

theorem exists_mark {text : List Char} {lexeme : Lexeme} (found : mark? text = some lexeme) :
    ∃ kind spelling behind, kind ∈ Kind.marks ∧ kind.spelling? = some spelling ∧
      text = spelling.toList ++ behind ∧ (kind = .assignment → Stops (· == '=') behind) := by
  have whole := found
  unfold mark? at found
  obtain ⟨kind, isMark, kindEq⟩ := List.exists_of_findSome?_eq_some found
  split at kindEq
  · rename_i spelling spelled
    split at kindEq
    · rename_i isPrefix
      obtain ⟨behind, rfl⟩ := List.isPrefixOf_iff_prefix.mp isPrefix
      refine ⟨kind, spelling, behind, isMark, spelled, rfl, ?_⟩
      rintro rfl c first
      by_contra isEquals
      obtain ⟨others, rfl⟩ := List.head?_eq_some_iff.mp first
      cases eq_of_beq (Bool.not_eq_false _ ▸ isEquals)
      cases spelled
      cases kindEq
      cases whole
    · cases kindEq
  · cases kindEq

theorem begins_of_read {rest : List Char} {lexeme : Lexeme}
    (found : Lexeme.read c rest = .ok lexeme) : Begins c rest := by
  have whole := found
  unfold Lexeme.read at found
  split at found
  · exact begins_word ‹_›
  split at found
  · exact begins_number ‹_›
  split at found
  · exact begins_blanks ‹_›
  split at found
  · rename_i isComment
    obtain ⟨isSlash, slashFollows⟩ := Bool.and_eq_true_iff.mp isComment
    obtain ⟨others, rfl⟩ := List.head?_eq_some_iff.mp (eq_of_beq slashFollows)
    rw [eq_of_beq isSlash]
    exact begins_comment others
  rename_i noComment
  split at found
  · rename_i isQuote
    rw [eq_of_beq isQuote]
    split at found
    · rename_i bodyEq
      obtain ⟨body, behind, rfl, _, decodes⟩ := Literal.characterBody?_eq_some.mp bodyEq
      exact ⟨_, body ++ ['\''], behind, by simp, .character decodes⟩
    · cases found
  split at found
  · rename_i isQuote
    rw [eq_of_beq isQuote]
    split at found
    · rename_i bodyEq
      obtain ⟨body, behind, rfl, _, decodes⟩ := Literal.stringBody?_eq_some.mp bodyEq
      exact ⟨_, body ++ ['"'], behind, by simp, .string decodes⟩
    · cases found
  · split at found
    · rename_i markEq
      obtain ⟨kind, spelling, behind, isMark, spelled, textEq, single⟩ := exists_mark markEq
      obtain ⟨d, tail, spellingEq, _, ofSlash⟩ := markStart isMark spelled
      rw [spellingEq] at textEq
      cases textEq
      refine ⟨some (kind, spelling), tail, behind, rfl, ?_⟩
      rw [← spellingEq]
      refine .mark isMark spelled single ?_
      rintro rfl d first
      obtain rfl : "/" = spelling := Option.some.inj spelled
      have slashEq : ['/'] = c :: tail := spellingEq
      cases slashEq
      refine Bool.eq_false_iff.mpr fun isSlash => noComment ?_
      rw [eq_of_beq isSlash] at first
      simpa using first
    · cases found

/-- The reader reads what fits, and nothing else. -/
theorem read_eq_ok {rest : List Char} {lexeme : Lexeme} :
    Lexeme.read c rest = .ok lexeme ↔
      ∃ tail behind, rest = tail ++ behind ∧ lexeme.more = tail.length ∧
        Fits lexeme.content (c :: tail) behind := by
  constructor
  · intro found
    obtain ⟨content, tail, behind, rfl, fits⟩ := begins_of_read found
    obtain ⟨_, _, pieceEq, read⟩ := fits.read
    cases pieceEq
    rw [read] at found
    cases found
    exact ⟨tail, behind, rfl, rfl, fits⟩
  · rintro ⟨tail, behind, rfl, moreEq, fits⟩
    obtain ⟨_, _, pieceEq, read⟩ := fits.read
    cases pieceEq
    rw [read, ← moreEq]

end Lexeme

theorem Token.scanFrom_fits (offset : Nat) {content : Option (Kind × String)}
    {piece behind : List Char} (fits : Lexeme.Fits content piece behind) :
    scanFrom offset (piece ++ behind) =
      (scanFrom (offset + Text.byteSize piece) behind).map fun tokens =>
        (Lexeme.token? { content := content, more := piece.length - 1 }
          { start := offset, stop := offset + Text.byteSize piece }).toList ++ tokens := by
  obtain ⟨c, tail, rfl, found⟩ := fits.read
  rw [List.cons_append, scanFrom, found]
  dsimp only
  rw [List.take_left, List.drop_left]
  cases scanFrom (offset + Text.byteSize (c :: tail)) behind with
  | ok tokens => rfl
  | error fault => rfl

theorem Token.scanFrom_gap (offset : Nat) {piece behind : List Char}
    (fits : Lexeme.Fits none piece behind) :
    scanFrom offset (piece ++ behind) = scanFrom (offset + Text.byteSize piece) behind := by
  rw [scanFrom_fits offset fits]
  cases scanFrom (offset + Text.byteSize piece) behind with
  | ok tokens => rfl
  | error fault => rfl

end ScriptLang
