import ScriptLang.Proofs.Lexemes

/-!
The longest match.

Whether a text as a whole is a word, a number, a run of blanks, a comment, a literal or an operator
can be told without looking at what stands behind it.  A scanner that knows no more, tries all
beginnings of what is left of its text and takes the longest lexeme among them, gives the same
tokens and faults as the one that decides by the first characters.
-/

namespace ScriptLang

/-! ### Whole literals -/

namespace Literal

def decode? (quote : Char) : List Char → Option (List Char)
  | [] => some []
  | '\\' :: letter :: body =>
      match escaped? letter, decode? quote body with
      | some c, some text => some (c :: text)
      | _, _ => none
  | c :: body =>
      if isRaw quote c then (decode? quote body).map fun text => c :: text else none

theorem decode?_eq_some {quote : Char} {body text : List Char} :
    decode? quote body = some text ↔ Decodes quote body text := by
  constructor
  · intro decoded
    fun_induction decode? quote body generalizing text with
    | case1 =>
        cases decoded
        exact .nil
    | case2 letter body c inner innerEq stands inductionHypothesis =>
        cases decoded
        exact .escape stands (inductionHypothesis innerEq)
    | case3 => cases decoded
    | case4 c body _ isRaw inductionHypothesis =>
        obtain ⟨inner, innerEq, rfl⟩ := Option.map_eq_some_iff.mp decoded
        exact .raw isRaw (inductionHypothesis innerEq)
    | case5 => cases decoded
  · intro decodes
    induction decodes with
    | nil => rfl
    | raw isRaw _ inductionHypothesis =>
        rw [decode?, if_pos isRaw, inductionHypothesis]
        · rfl
        · exact fun _ _ isBackslash => absurd isBackslash (ne_of_isRaw isRaw).2
    | escape stands _ inductionHypothesis =>
        rw [decode?, stands, inductionHypothesis]

def unquote? (quote : Char) : List Char → Option (List Char)
  | [] => none
  | first :: rest =>
      if first = quote ∧ rest.getLast? = some quote then decode? quote rest.dropLast else none

theorem unquote?_eq_some {quote : Char} {piece text : List Char} :
    unquote? quote piece = some text ↔
      ∃ body, piece = quote :: (body ++ [quote]) ∧ Decodes quote body text := by
  constructor
  · intro unquoted
    unfold unquote? at unquoted
    split at unquoted
    · cases unquoted
    · split at unquoted
      · rename_i rest closed
        obtain ⟨rfl, isLast⟩ := closed
        obtain ⟨body, rfl⟩ := List.getLast?_eq_some_iff.mp isLast
        rw [List.dropLast_concat] at unquoted
        exact ⟨body, rfl, decode?_eq_some.mp unquoted⟩
      · cases unquoted
  · rintro ⟨body, rfl, decodes⟩
    rw [unquote?, if_pos ⟨rfl, List.getLast?_concat⟩, List.dropLast_concat]
    exact decode?_eq_some.mpr decodes

end Literal

/-! ### Whole lexemes -/

namespace Lexeme

/-- A form of lexemes: what a text as a whole is as a lexeme of the form, if it is one.  Blanks and
comments are nothing. -/
abbrev Form : Type :=
  List Char → Option (Option (Kind × String))

namespace Form

def word : Form
  | [] => none
  | c :: tail =>
      if isWordStart c && tail.all isWordChar then
        some (some (Kind.ofWord (String.ofList (c :: tail)), String.ofList (c :: tail)))
      else
        none

def integer : Form := fun piece =>
  if IsDigits piece then some (some (.integer, String.ofList piece)) else none

def decimal : Form := fun piece =>
  if IsDigits (piece.takeWhile (· != '.')) ∧ IsDigits ((piece.dropWhile (· != '.')).drop 1) then
    some (some (.decimal, String.ofList piece))
  else
    none

def blanks : Form := fun piece =>
  if piece ≠ [] ∧ piece.all Text.isBlank = true then some none else none

def comment : Form
  | '/' :: '/' :: line => if line.all (· != '\n') then some none else none
  | _ => none

def character : Form := fun piece =>
  match Literal.unquote? '\'' piece with
  | some [c] => some (some (.character, c.toString))
  | _ => none

def string : Form := fun piece =>
  (Literal.unquote? '"' piece).map fun text => some (.string, String.ofList text)

def mark : Form := fun piece =>
  (Kind.marks.find? fun kind => kind.spelling? == some (String.ofList piece)).map fun kind =>
    some (kind, String.ofList piece)

def all : List Form :=
  [word, integer, decimal, blanks, comment, character, string, mark]

end Form

/-- What a text as a whole is as a lexeme. -/
def whole? : Form := fun piece =>
  Form.all.findSome? fun form => form piece

/-! ### Whole lexemes are those that fit at the end of a text -/

variable {content : Option (Kind × String)} {piece : List Char}

theorem fits_of_decimal (isDecimal : Form.decimal piece = some content) :
    Fits content piece [] := by
  unfold Form.decimal at isDecimal
  split at isDecimal
  · rename_i digits
    cases isDecimal
    obtain ⟨wholeDigits, fractionDigits⟩ := digits
    have split := List.takeWhile_append_dropWhile (p := (· != '.')) (l := piece)
    cases restEq : piece.dropWhile (· != '.') with
    | nil =>
        rw [restEq] at fractionDigits
        exact absurd rfl fractionDigits.1
    | cons point fraction =>
        have ends := List.head?_dropWhile_not (· != '.') piece
        rw [restEq] at ends fractionDigits split
        obtain rfl : point = '.' := by simpa using ends
        have behindPoint : IsDigits fraction := fractionDigits
        have fits : Fits _ _ [] := .decimal wholeDigits behindPoint .nil
        rwa [split] at fits
  · cases isDecimal

theorem fits_of_form {form : Form} (member : form ∈ Form.all) (isForm : form piece = some content) :
    Fits content piece [] := by
  simp only [Form.all, List.mem_cons, List.not_mem_nil, or_false] at member
  rcases member with rfl | rfl | rfl | rfl | rfl | rfl | rfl | rfl
  · unfold Form.word at isForm
    split at isForm
    · cases isForm
    · split at isForm
      · rename_i isWord
        cases isForm
        obtain ⟨starts, continues⟩ := Bool.and_eq_true_iff.mp isWord
        exact .word starts (List.all_eq_true.mp continues) .nil
      · cases isForm
  · unfold Form.integer at isForm
    split at isForm
    · rename_i digits
      cases isForm
      refine .integer digits .nil ?_
      rintro rest ⟨⟩
    · cases isForm
  · exact fits_of_decimal isForm
  · unfold Form.blanks at isForm
    split at isForm
    · rename_i run
      cases isForm
      exact .blanks run.1 (List.all_eq_true.mp run.2) .nil
    · cases isForm
  · unfold Form.comment at isForm
    split at isForm
    · split at isForm
      · rename_i oneLine
        cases isForm
        exact .comment (List.all_eq_true.mp oneLine) .nil
      · cases isForm
    · cases isForm
  · unfold Form.character at isForm
    split at isForm
    · rename_i c unquoted
      cases isForm
      obtain ⟨body, rfl, decodes⟩ := Literal.unquote?_eq_some.mp unquoted
      exact .character decodes
    · cases isForm
  · obtain ⟨text, unquoted, rfl⟩ := Option.map_eq_some_iff.mp isForm
    obtain ⟨body, rfl, decodes⟩ := Literal.unquote?_eq_some.mp unquoted
    exact .string decodes
  · obtain ⟨kind, found, rfl⟩ := Option.map_eq_some_iff.mp isForm
    have spelled := List.find?_some found
    have fits : Fits (some (kind, String.ofList piece)) (String.ofList piece).toList [] :=
      .mark (List.mem_of_find?_eq_some found) (eq_of_beq spelled) (fun _ => .nil) (fun _ => .nil)
    rwa [String.toList_ofList] at fits

theorem exists_form {behind : List Char} (fits : Fits content piece behind) :
    ∃ form ∈ Form.all, (form piece).isSome = true := by
  cases fits with
  | word starts continues stops =>
      refine ⟨Form.word, by simp [Form.all], ?_⟩
      rw [Form.word, if_pos (Bool.and_eq_true_iff.mpr ⟨starts, List.all_eq_true.mpr continues⟩)]
      rfl
  | integer digits stops noFraction =>
      refine ⟨Form.integer, by simp [Form.all], ?_⟩
      rw [Form.integer, if_pos digits]
      rfl
  | @decimal whole fraction _ wholeDigits fractionDigits stops =>
      refine ⟨Form.decimal, by simp [Form.all], ?_⟩
      have noPoint : ∀ c ∈ whole, (c != '.') = true := by
        intro c member
        exact bne_iff_ne.mpr (ne_of_isDigit (wholeDigits.2 c member) rfl)
      have wholeEq : (whole ++ '.' :: fraction).takeWhile (· != '.') = whole := by
        rw [List.takeWhile_append_of_pos noPoint]
        simp
      have fractionEq : ((whole ++ '.' :: fraction).dropWhile (· != '.')).drop 1 = fraction := by
        rw [List.dropWhile_append_of_pos noPoint]
        simp
      rw [Form.decimal, wholeEq, fractionEq, if_pos ⟨wholeDigits, fractionDigits⟩]
      rfl
  | blanks nonempty blank stops =>
      refine ⟨Form.blanks, by simp [Form.all], ?_⟩
      rw [Form.blanks, if_pos ⟨nonempty, List.all_eq_true.mpr blank⟩]
      rfl
  | comment oneLine stops =>
      refine ⟨Form.comment, by simp [Form.all], ?_⟩
      rw [Form.comment, if_pos (List.all_eq_true.mpr oneLine)]
      rfl
  | character decodes =>
      refine ⟨Form.character, by simp [Form.all], ?_⟩
      rw [Form.character, Literal.unquote?_eq_some.mpr ⟨_, rfl, decodes⟩]
      rfl
  | string decodes =>
      refine ⟨Form.string, by simp [Form.all], ?_⟩
      rw [Form.string, Literal.unquote?_eq_some.mpr ⟨_, rfl, decodes⟩]
      rfl
  | @mark kind spelling _ isMark spelled single noComment =>
      refine ⟨Form.mark, by simp [Form.all], ?_⟩
      rw [Form.mark, String.ofList_toList, Option.isSome_map, List.find?_isSome]
      exact ⟨kind, isMark, beq_iff_eq.mpr spelled⟩

/-- What fits is told by its characters alone, and cannot be made longer with what stands behind
it. -/
theorem Fits.unique {other : Option (Kind × String)} {behind more : List Char}
    (fits : Fits content piece behind) (isPrefix : more <+: behind)
    (fitsToo : Fits other (piece ++ more) []) : content = other ∧ more = [] := by
  obtain ⟨c, tail, rfl, found⟩ := (fits.shortened isPrefix).read
  rw [List.cons_append] at fitsToo
  obtain ⟨_, _, pieceEq, foundToo⟩ := fitsToo.read
  cases pieceEq
  rw [List.append_nil, found] at foundToo
  obtain ⟨contentEq, lengthEq⟩ := Lexeme.mk.inj (Except.ok.inj foundToo)
  rw [List.length_append, Nat.left_eq_add] at lengthEq
  exact ⟨contentEq, List.eq_nil_of_length_eq_zero lengthEq⟩

theorem whole?_eq_some : whole? piece = some content ↔ Fits content piece [] := by
  have fits_of_whole {content : Option (Kind × String)} (whole : whole? piece = some content) :
      Fits content piece [] := by
    obtain ⟨form, member, isForm⟩ := List.exists_of_findSome?_eq_some whole
    exact fits_of_form member isForm
  refine ⟨fits_of_whole, ?_⟩
  intro fits
  -- An earlier form may have been found than the one that fits, but it tells the same.
  have some := List.findSome?_isSome_iff.mpr (exists_form fits)
  obtain ⟨other, whole⟩ := Option.isSome_iff_exists.mp some
  have fitsToo := fits_of_whole whole
  rw [← List.append_nil piece] at fitsToo
  rw [(fits.unique (List.prefix_refl []) fitsToo).1]
  exact whole

/-! ### The longest beginning -/

/-- The longest lexeme among the beginnings of a text that have at most so many characters. -/
def longestWithin? (text : List Char) : Nat → Option Lexeme
  | 0 => none
  | n + 1 =>
      match whole? (text.take (n + 1)) with
      | some content => some { content := content, more := n }
      | none => longestWithin? text n

theorem longestWithin?_eq_some {text : List Char} {limit : Nat} {lexeme : Lexeme} :
    longestWithin? text limit = some lexeme ↔
      lexeme.more < limit ∧ whole? (text.take (lexeme.more + 1)) = some lexeme.content ∧
        ∀ n, lexeme.more < n → n < limit → whole? (text.take (n + 1)) = none := by
  induction limit with
  | zero =>
      constructor
      · intro found
        cases found
      · rintro ⟨impossible, _⟩
        exact absurd impossible (Nat.not_lt_zero _)
  | succ limit inductionHypothesis =>
      rw [longestWithin?]
      cases whole : whole? (text.take (limit + 1)) with
      | some content =>
          constructor
          · intro found
            cases found
            refine ⟨Nat.lt_succ_self limit, whole, ?_⟩
            intro n above below
            exact absurd above (Nat.not_lt_of_le (Nat.le_of_lt_succ below))
          · rintro ⟨within, isWhole, longest⟩
            have last : lexeme.more = limit := by
              by_contra other
              have shorter : lexeme.more < limit := by omega
              rw [longest limit shorter (Nat.lt_succ_self limit)] at whole
              cases whole
            rw [last, whole] at isWhole
            rw [Option.some.inj isWhole, ← last]
      | none =>
          dsimp only
          rw [inductionHypothesis]
          constructor
          · rintro ⟨within, isWhole, longest⟩
            refine ⟨Nat.lt_succ_of_lt within, isWhole, ?_⟩
            intro n above below
            by_cases last : n = limit
            · rw [last]
              exact whole
            · exact longest n above (by omega)
          · rintro ⟨within, isWhole, longest⟩
            have shorter : lexeme.more ≠ limit := by
              intro last
              rw [last, whole] at isWhole
              cases isWhole
            exact ⟨by omega, isWhole, fun n above below => longest n above (by omega)⟩

def longest? (text : List Char) : Option Lexeme :=
  longestWithin? text text.length

theorem longest?_of_fits {c : Char} {tail behind : List Char}
    (fits : Fits content (c :: tail) behind) :
    longest? (c :: (tail ++ behind)) = some { content := content, more := tail.length } := by
  refine longestWithin?_eq_some.mpr ⟨?_, ?_, ?_⟩
  · rw [List.length_cons, List.length_append]
    dsimp only
    omega
  · rw [List.take_succ_cons, List.take_left]
    exact whole?_eq_some.mpr (fits.shortened (List.nil_prefix))
  · intro n above below
    rw [Option.eq_none_iff_forall_ne_some]
    intro other whole
    have beginEq : (c :: (tail ++ behind)).take (n + 1) =
        (c :: tail) ++ behind.take (n - tail.length) := by
      rw [List.take_succ_cons, List.take_append, List.take_of_length_le (Nat.le_of_lt above),
        List.cons_append]
    rw [beginEq] at whole
    have isPrefix := List.take_prefix (n - tail.length) behind
    obtain ⟨-, nothing⟩ := fits.unique isPrefix (whole?_eq_some.mp whole)
    have lengthEq := congrArg List.length nothing
    rw [List.length_cons, List.length_append] at below
    rw [List.length_take, List.length_nil] at lengthEq
    dsimp only at above
    omega

theorem begins_of_longest? {c : Char} {rest : List Char} {lexeme : Lexeme}
    (found : longest? (c :: rest) = some lexeme) : Begins c rest := by
  obtain ⟨_, whole, _⟩ := longestWithin?_eq_some.mp found
  rw [List.take_succ_cons] at whole
  have begins := (whole?_eq_some.mp whole).begins (rest.drop lexeme.more)
  rwa [List.take_append_drop] at begins

def refusal (c : Char) (rest : List Char) : Cause :=
  if c = '"' then brokenLiteral (c :: rest) "string"
  else if c = '\'' then brokenLiteral (c :: rest) "character"
  else .unrecognisedToken c.toString

def readLongest (c : Char) (rest : List Char) : Except Cause Lexeme :=
  match longest? (c :: rest) with
  | some lexeme => .ok lexeme
  | none => .error (refusal c rest)

theorem refusal_of_read {c : Char} {rest : List Char} {cause : Cause}
    (failed : read c rest = .error cause) : cause = refusal c rest := by
  unfold read at failed
  split at failed
  · cases failed
  split at failed
  · cases failed
  split at failed
  · cases failed
  split at failed
  · cases failed
  split at failed
  · rename_i isQuote
    split at failed
    · cases failed
    · cases failed
      rw [refusal, if_neg (by rw [eq_of_beq isQuote]; decide), if_pos (eq_of_beq isQuote)]
  rename_i noCharacter
  split at failed
  · rename_i isQuote
    split at failed
    · cases failed
    · cases failed
      rw [refusal, if_pos (eq_of_beq isQuote)]
  rename_i noString
  split at failed
  · cases failed
  · cases failed
    rw [refusal, if_neg (by simpa using noString), if_neg (by simpa using noCharacter)]

theorem read_eq_readLongest (c : Char) (rest : List Char) : read c rest = readLongest c rest := by
  cases result : read c rest with
  | ok lexeme =>
      obtain ⟨tail, behind, rfl, moreEq, fits⟩ := read_eq_ok.mp result
      rw [readLongest, longest?_of_fits fits, ← moreEq]
  | error cause =>
      have nothing : longest? (c :: rest) = none := by
        rw [Option.eq_none_iff_forall_ne_some]
        intro lexeme found
        obtain ⟨_, read⟩ := (begins_of_longest? found).read
        rw [result] at read
        cases read
      rw [readLongest, nothing, refusal_of_read result]

end Lexeme

/-! ### Scanning by the longest match -/

namespace Token

/-- The tokens of a text that starts at the given offset, each of them the longest lexeme where it
stands, with the final end of source. -/
def scanLongestFrom (offset : Nat) : List Char → Except Fault (List Token)
  | [] => .ok [endOfSource offset]
  | c :: rest =>
      match Lexeme.readLongest c rest with
      | .error cause => .error { cause := cause, offset := offset }
      | .ok lexeme =>
          let stop := offset + Text.byteSize (c :: rest.take lexeme.more)
          match scanLongestFrom stop (rest.drop lexeme.more) with
          | .error fault => .error fault
          | .ok tokens =>
              .ok ((lexeme.token? { start := offset, stop := stop }).toList ++ tokens)
termination_by text => text.length
decreasing_by
  simp only [List.length_drop, List.length_cons]
  omega

def scanLongest (source : String) : Except Fault (List Token) :=
  scanLongestFrom 0 source.toList

theorem scanFrom_eq_scanLongestFrom (offset : Nat) (text : List Char) :
    scanFrom offset text = scanLongestFrom offset text := by
  cases text with
  | nil => rw [scanFrom, scanLongestFrom]
  | cons c rest =>
      rw [scanFrom, scanLongestFrom, Lexeme.read_eq_readLongest]
      cases Lexeme.readLongest c rest with
      | error cause => rfl
      | ok lexeme =>
          have others := scanFrom_eq_scanLongestFrom
            (offset + Text.byteSize (c :: rest.take lexeme.more)) (rest.drop lexeme.more)
          dsimp only
          generalize scanFrom _ (rest.drop lexeme.more) = result at others ⊢
          subst others
          rfl
termination_by text.length
decreasing_by
  simp only [List.length_drop, List.length_cons]
  omega

/-- Every text is scanned into the longest lexemes that it consists of, or stops at the fault where
none begins. -/
theorem scan_eq_scanLongest (source : String) : scan source = scanLongest source :=
  scanFrom_eq_scanLongestFrom 0 source.toList

end Token
end ScriptLang
