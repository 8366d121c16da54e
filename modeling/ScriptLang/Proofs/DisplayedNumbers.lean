import ScriptLang.Proofs.Numerals
import ScriptLang.Value

/-!
Numbers in their displayed form.

What a number that is not negative is displayed as is a numeral again, and is read as the same
number; of a decimal the scale is kept as well, since it is the number of digits behind the
point.
-/

namespace ScriptLang

theorem isDigits_toDigits (n : Nat) : IsDigits (Nat.toDigits 10 n) :=
  ⟨Nat.toDigits_ne_nil, fun _ member =>
    Nat.isDigit_of_mem_toDigits (by decide) (by decide) member⟩

theorem join_singleton (text : String) : String.join [text] = text := by
  simp [String.join]

theorem Value.display_integer {n : Int} (nonnegative : 0 ≤ n) :
    (Value.integer n).display.toList = Nat.toDigits 10 n.natAbs := by
  have noSign : ¬n < 0 := Int.not_lt.mpr nonnegative
  have piecesEq : (Value.integer n).pieces = [toString n.natAbs] := by
    rw [Value.pieces, if_neg noSign]
  unfold Value.display
  rw [piecesEq, join_singleton]
  exact String.toList_ofList

theorem Numeral.integer?_display {n : Int} (nonnegative : 0 ≤ n) :
    Numeral.integer? (Value.integer n).display.toList = some n := by
  rw [Value.display_integer nonnegative, Numeral.integer?_eq (isDigits_toDigits _),
    Nat.ofDigitChars_ten_toDigits, Int.natAbs_of_nonneg nonnegative]

namespace Decimal

/-- The digits of a number with at least one place: those before the point, and as many behind
it as the number has places. -/
theorem plainMagnitude_spec (digits : Nat) {scale : Int} (positive : 1 ≤ scale) :
    ∃ whole fraction, IsDigits whole ∧ IsDigits fraction ∧
      (plainMagnitude digits scale).toList = whole ++ '.' :: fraction ∧
        (fraction.length : Int) = scale ∧
          Nat.ofDigitChars 10 (whole ++ fraction) 0 = digits := by
  have placed : ¬scale ≤ 0 := by omega
  have shown := isDigits_toDigits digits
  obtain ⟨padded, paddedEq⟩ : ∃ padded, padded =
      List.replicate (scale.toNat + 1 - (Nat.toDigits 10 digits).length) '0' ++
        Nat.toDigits 10 digits := ⟨_, rfl⟩
  have long : scale.toNat + 1 ≤ padded.length := by
    rw [paddedEq, List.length_append, List.length_replicate]
    omega
  have allDigits : ∀ c ∈ padded, c.isDigit = true := by
    rw [paddedEq]
    refine List.forall_mem_append.mpr ⟨fun c member => ?_, shown.2⟩
    rw [List.eq_of_mem_replicate member]
    rfl
  have number : Nat.ofDigitChars 10 padded 0 = digits := by
    rw [paddedEq, Nat.ofDigitChars_append, Nat.ofDigitChars_replicate_zero, Nat.mul_zero,
      Nat.ofDigitChars_ten_toDigits]
  refine ⟨padded.take (padded.length - scale.toNat), padded.drop (padded.length - scale.toNat),
    ⟨?_, ?_⟩, ⟨?_, ?_⟩, ?_, ?_, ?_⟩
  · apply List.ne_nil_of_length_pos
    rw [List.length_take]
    omega
  · exact fun c member => allDigits c (List.mem_of_mem_take member)
  · apply List.ne_nil_of_length_pos
    rw [List.length_drop]
    omega
  · exact fun c member => allDigits c (List.mem_of_mem_drop member)
  · unfold plainMagnitude
    rw [if_neg placed]
    dsimp only
    rw [String.toList_ofList, ← paddedEq]
  · rw [List.length_drop]
    omega
  · rw [List.take_append_drop, number]

end Decimal

theorem Value.display_decimal {d : Decimal} (nonnegative : 0 ≤ d.digits)
    (positive : 1 ≤ d.scale) (inRange : Numeral.isScale d.scale = true) :
    ∃ whole fraction, IsDigits whole ∧ IsDigits fraction ∧
      (Value.decimal d).display.toList = whole ++ '.' :: fraction ∧
        Numeral.decimal? (whole ++ '.' :: fraction) = some d := by
  obtain ⟨whole, fraction, wholeDigits, fractionDigits, textEq, places, number⟩ :=
    Decimal.plainMagnitude_spec d.digits.natAbs positive
  have short : fraction.length < Numeral.textLimit := by
    unfold Numeral.isScale at inRange
    unfold Numeral.textLimit
    simp at inRange
    omega
  have noSign : ¬d.digits < 0 := Int.not_lt.mpr nonnegative
  have displayEq : (Value.decimal d).display = Decimal.plainMagnitude d.digits.natAbs d.scale := by
    unfold Value.display
    rw [Value.pieces, join_singleton, Decimal.plain, if_neg noSign]
  refine ⟨whole, fraction, wholeDigits, fractionDigits, ?_, ?_⟩
  · rw [displayEq, textEq]
  · rw [Numeral.decimal?_eq wholeDigits fractionDigits short, number, places,
      Int.natAbs_of_nonneg nonnegative]

end ScriptLang
