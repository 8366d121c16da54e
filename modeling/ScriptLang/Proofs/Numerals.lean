import Mathlib.Data.List.TakeWhile
import ScriptLang.Parse.Expression

/-!
Numerals as the scanner leaves them: digits alone, or digits around one point.  Every such
text is read, and as the number that its digits write in base ten.
-/

namespace ScriptLang

/-- A text of one or more digits. -/
def IsDigits (text : List Char) : Prop :=
  text ≠ [] ∧ ∀ c ∈ text, c.isDigit = true

instance (text : List Char) : Decidable (IsDigits text) :=
  decidable_of_iff (text ≠ [] ∧ text.all Char.isDigit = true)
    (and_congr_right fun _ => List.all_eq_true)

theorem IsDigits.single {c : Char} (isDigit : c.isDigit = true) : IsDigits [c] := by
  refine ⟨List.cons_ne_nil _ _, ?_⟩
  intro d member
  rw [List.mem_singleton.mp member]
  exact isDigit

theorem IsDigits.append {left right : List Char} (first : IsDigits left)
    (second : IsDigits right) : IsDigits (left ++ right) := by
  refine ⟨by simp [first.1], ?_⟩
  intro c member
  rcases List.mem_append.mp member with inLeft | inRight
  · exact first.2 c inLeft
  · exact second.2 c inRight

theorem ne_of_isDigit {c d : Char} (isDigit : c.isDigit = true) (other : d.isDigit = false) :
    c ≠ d := by
  rintro rfl
  rw [other] at isDigit
  cases isDigit

namespace Numeral

theorem digitRun_eq {text : List Char} (digits : ∀ c ∈ text, c.isDigit = true) (value : Nat) :
    digitRun value text = some (Nat.ofDigitChars 10 text value) := by
  induction text generalizing value with
  | nil =>
      rfl
  | cons c rest inductionHypothesis =>
      have isDigit := digits c List.mem_cons_self
      have notUnderscore : c ≠ '_' := ne_of_isDigit isDigit rfl
      rw [digitRun, if_neg notUnderscore, if_pos isDigit, Nat.ofDigitChars_cons]
      exact inductionHypothesis (fun d member => digits d (List.mem_cons_of_mem c member)) _

theorem integer?_eq {text : List Char} (digits : IsDigits text) :
    integer? text = some (Nat.ofDigitChars 10 text 0 : Int) := by
  obtain ⟨nonempty, allDigits⟩ := digits
  cases text with
  | nil =>
      exact absurd rfl nonempty
  | cons c rest =>
      have isDigit := allDigits c List.mem_cons_self
      have natural : natural? (c :: rest) = some (Nat.ofDigitChars 10 (c :: rest) 0) := by
        rw [natural?, if_pos isDigit]
        exact digitRun_eq allDigits 0
      unfold integer?
      split
      · rename_i startEq
        cases startEq
        cases isDigit
      · rename_i startEq
        cases startEq
        cases isDigit
      · rw [natural]
        rfl

/-- The longest text is shorter than this, so that every number of places is a scale. -/
def textLimit : Nat := 9223372036854775808

theorem mantissa?_eq {whole fraction : List Char} (wholeDigits : IsDigits whole)
    (fractionDigits : IsDigits fraction) :
    mantissa? (whole ++ '.' :: fraction) =
      some ((Nat.ofDigitChars 10 (whole ++ fraction) 0 : Int), fraction.length) := by
  have noPoint : ∀ c ∈ whole, (c != '.') = true := by
    intro c member
    exact bne_iff_ne.mpr (ne_of_isDigit (wholeDigits.2 c member) rfl)
  have wholeEq : (whole ++ '.' :: fraction).takeWhile (· != '.') = whole := by
    rw [List.takeWhile_append_of_pos noPoint]
    simp
  have fractionEq : ((whole ++ '.' :: fraction).dropWhile (· != '.')).drop 1 = fraction := by
    rw [List.dropWhile_append_of_pos noPoint]
    simp
  have places : fraction.countP (· != '_') = fraction.length := by
    rw [List.countP_eq_length]
    intro c member
    exact bne_iff_ne.mpr (ne_of_isDigit (fractionDigits.2 c member) rfl)
  unfold mantissa?
  rw [wholeEq, fractionEq]
  dsimp only
  rw [places, integer?_eq (wholeDigits.append fractionDigits)]
  rfl

theorem isScale_length (n : Nat) : isScale n = true ↔ n < textLimit := by
  unfold isScale textLimit
  simp
  omega

/-- A numeral with a point is read unless it has too many digits behind the point. -/
theorem decimal?_point {whole fraction : List Char} (wholeDigits : IsDigits whole)
    (fractionDigits : IsDigits fraction) :
    decimal? (whole ++ '.' :: fraction) =
      if isScale fraction.length then
        some { digits := (Nat.ofDigitChars 10 (whole ++ fraction) 0 : Int)
               scale := fraction.length }
      else none := by
  have unmarked : ∀ c ∈ whole ++ '.' :: fraction, (!(c == 'e' || c == 'E')) = true := by
    intro c member
    have ofDigit (isDigit : c.isDigit = true) : (!(c == 'e' || c == 'E')) = true := by
      simp [ne_of_isDigit isDigit (d := 'e') rfl, ne_of_isDigit isDigit (d := 'E') rfl]
    rcases List.mem_append.mp member with inWhole | inFraction
    · exact ofDigit (wholeDigits.2 c inWhole)
    · rcases List.mem_cons.mp inFraction with rfl | inFraction
      · rfl
      · exact ofDigit (fractionDigits.2 c inFraction)
  unfold decimal?
  rw [List.dropWhile_eq_nil_iff.mpr ?_, List.takeWhile_eq_self_iff.mpr ?_]
  · dsimp only
    rw [mantissa?_eq wholeDigits fractionDigits]
    dsimp only
    rw [Int.sub_zero]
  · exact unmarked
  · exact unmarked

theorem decimal?_eq {whole fraction : List Char} (wholeDigits : IsDigits whole)
    (fractionDigits : IsDigits fraction) (short : fraction.length < textLimit) :
    decimal? (whole ++ '.' :: fraction) =
      some { digits := (Nat.ofDigitChars 10 (whole ++ fraction) 0 : Int)
             scale := fraction.length } := by
  rw [decimal?_point wholeDigits fractionDigits, if_pos ((isScale_length _).mpr short)]

end Numeral

/-! ### Tokens that stand for constants -/

/-- A token with the text that the scanner gives to tokens of its kind. -/
def Token.WellFormed (token : Token) : Prop :=
  match token.kind with
  | .integer => IsDigits token.value.toList
  | .decimal =>
      token.value.length < Numeral.textLimit ∧
        ∃ whole fraction, IsDigits whole ∧ IsDigits fraction ∧
          token.value.toList = whole ++ '.' :: fraction
  | .character => ∃ c, token.value.toList = [c]
  | _ => True

namespace Parse

def isConstant : Kind → Bool
  | .integer | .decimal | .character | .string | .trueWord | .falseWord | .nilWord => true
  | _ => false

theorem not_eof_of_isConstant {kind : Kind} (isLiteral : isConstant kind = true) :
    kind ≠ .eof := by
  rintro rfl
  cases isLiteral

theorem literalOf_of_wellFormed {token : Token} (isLiteral : isConstant token.kind = true)
    (wellFormed : token.WellFormed) : ∃ value, literalOf token = .ok value := by
  unfold Token.WellFormed at wellFormed
  unfold literalOf
  cases kindEq : token.kind with
  | integer =>
      rw [kindEq] at wellFormed
      simp only [Numeral.integer?_eq wellFormed]
      exact ⟨_, rfl⟩
  | decimal =>
      rw [kindEq] at wellFormed
      obtain ⟨short, whole, fraction, wholeDigits, fractionDigits, textEq⟩ := wellFormed
      have fractionShort : fraction.length < Numeral.textLimit := by
        have lengthEq := congrArg List.length textEq
        rw [String.length_toList, List.length_append, List.length_cons] at lengthEq
        omega
      simp only [textEq, Numeral.decimal?_eq wholeDigits fractionDigits fractionShort]
      exact ⟨_, rfl⟩
  | character =>
      rw [kindEq] at wellFormed
      obtain ⟨c, textEq⟩ := wellFormed
      simp only [textEq]
      exact ⟨_, rfl⟩
  | string => exact ⟨_, rfl⟩
  | trueWord => exact ⟨_, rfl⟩
  | falseWord => exact ⟨_, rfl⟩
  | nilWord => exact ⟨_, rfl⟩
  | _ =>
      rw [kindEq] at isLiteral
      cases isLiteral

theorem offset_of_literalOf {token : Token} {fault : Fault}
    (failed : literalOf token = .error fault) : fault.offset = token.span.start := by
  unfold literalOf at failed
  split at failed
  · split at failed
    · cases failed
    · cases failed
      rfl
  · split at failed
    · cases failed
    · cases failed
      rfl
  · split at failed
    · cases failed
    · cases failed
      rfl
  all_goals
    cases failed
  rfl

theorem isConstant_of_literalOf {token : Token} {value : Literal}
    (reads : literalOf token = .ok value) : isConstant token.kind = true := by
  unfold literalOf at reads
  split at reads
  case h_8 =>
    cases reads
  all_goals
    rename_i kindEq
    rw [kindEq]
    rfl

end Parse
end ScriptLang
