import ScriptLang.Proofs.ErrorPlaces

/-!
Lines and offsets.

Looking up an offset inverts the way in which lines make up a text.  An offset within the text is
found on the line that holds its byte, and the lines before that one and the column add up to it.
The end of the text is found behind the last line, which is shown without its terminator.
-/

namespace ScriptLang
namespace Text

/-! ### The bytes of a text -/

/-- The UTF-8 form of a text. -/
def bytes (text : List Char) : List UInt8 :=
  text.flatMap String.utf8EncodeChar

theorem bytes_append (first second : List Char) :
    bytes (first ++ second) = bytes first ++ bytes second :=
  List.flatMap_append

theorem bytes_toList (text : String) : bytes text.toList = text.toUTF8.data.toList := by
  rw [String.toUTF8_eq_toByteArray, ← String.utf8Encode_toList, List.utf8Encode,
    List.data_toByteArray]
  rfl

theorem length_bytes (text : List Char) : (bytes text).length = byteSize text := by
  induction text with
  | nil => rfl
  | cons c rest inductionHypothesis =>
      rw [byteSize, ← inductionHypothesis, ← String.length_utf8EncodeChar]
      simp only [bytes, List.flatMap_cons, List.length_append]

theorem high_of_mem_utf8EncodeChar {c : Char} (beyond : 127 < c.val.toNat) {byte : UInt8}
    (member : byte ∈ String.utf8EncodeChar c) : 128 ≤ byte.toNat := by
  have notAscii : ¬c.val.toNat ≤ 127 := by omega
  simp only [String.utf8EncodeChar, if_neg notAscii] at member
  split at member
  · simp only [List.mem_cons, List.not_mem_nil, or_false] at member
    rcases member with rfl | rfl <;> simp only [UInt8.toNat_ofNat'] <;> omega
  · split at member
    · simp only [List.mem_cons, List.not_mem_nil, or_false] at member
      rcases member with rfl | rfl | rfl <;> simp only [UInt8.toNat_ofNat'] <;> omega
    · simp only [List.mem_cons, List.not_mem_nil, or_false] at member
      rcases member with rfl | rfl | rfl | rfl <;> simp only [UInt8.toNat_ofNat'] <;> omega

theorem newline_not_mem_utf8EncodeChar {c : Char} (other : c ≠ '\n') :
    (10 : UInt8) ∉ String.utf8EncodeChar c := by
  intro member
  by_cases beyond : 127 < c.val.toNat
  · have high := high_of_mem_utf8EncodeChar beyond member
    exact absurd high (by decide)
  · have ascii : c.val.toNat ≤ 127 := by omega
    simp only [String.utf8EncodeChar, if_pos ascii, List.mem_singleton] at member
    have sameByte := congrArg UInt8.toNat member
    have sameCode : c.val.toNat = '\n'.val.toNat := by
      simp only [UInt8.toNat_ofNat'] at sameByte
      change 10 = _ at sameByte
      change _ = 10
      omega
    exact other (Char.ext (UInt32.toNat_inj.mp sameCode))

theorem newline_not_mem_bytes {text : List Char} (none : '\n' ∉ text) :
    (10 : UInt8) ∉ bytes text := by
  intro member
  obtain ⟨c, inText, inChar⟩ := List.mem_flatMap.mp member
  have other : c ≠ '\n' := by
    intro same
    rw [same] at inText
    exact none inText
  exact newline_not_mem_utf8EncodeChar other inChar

/-! ### The lines of a text -/

/-- What the lines of a text are: a text is empty, or one line without a newline, or a line that
a newline ends and the lines of the rest. -/
inductive AreLines : List Char → List (List Char) → Prop where
  | empty : AreLines [] []
  | last {line : List Char} (nonempty : line ≠ []) (unbroken : '\n' ∉ line) :
      AreLines line [line]
  | next {line rest : List Char} {later : List (List Char)} (unbroken : '\n' ∉ line)
      (others : AreLines rest later) :
      AreLines (line ++ '\n' :: rest) ((line ++ ['\n']) :: later)

theorem areLines_lines (text : List Char) : AreLines text (lines text) := by
  induction text with
  | nil => exact .empty
  | cons c rest inductionHypothesis =>
      rw [lines]
      by_cases isNewline : c = '\n'
      · rw [if_pos isNewline, isNewline]
        exact @AreLines.next [] rest _ List.not_mem_nil inductionHypothesis
      · rw [if_neg isNewline]
        have isNewline : '\n' ≠ c := Ne.symm isNewline
        generalize lines rest = later at inductionHypothesis
        cases inductionHypothesis with
        | empty =>
            exact .last (List.cons_ne_nil _ _) (by simp [isNewline])
        | last _ unbroken =>
            exact .last (List.cons_ne_nil _ _) (by simp [isNewline, unbroken])
        | @next line rest later unbroken others =>
            exact @AreLines.next (c :: line) rest later (by simp [isNewline, unbroken]) others

theorem count_newline_take {line : List Char} (unbroken : '\n' ∉ line) (rest : List Char)
    {count : Nat} (short : count ≤ byteSize line) :
    ((bytes (line ++ rest)).take count).count 10 = 0 := by
  rw [← length_bytes] at short
  rw [bytes_append, List.take_append_of_le_length short, List.count_eq_zero]
  intro member
  exact newline_not_mem_bytes unbroken (List.mem_of_mem_take member)

/-- Before a byte of some line stand as many newlines as lines. -/
theorem AreLines.count_newline {text line : List Char} {earlier later : List (List Char)}
    (areLines : AreLines text (earlier ++ line :: later)) {column : Nat}
    (inside : column < byteSize line) :
    ((bytes text).take (byteSize earlier.flatten + column)).count 10 = earlier.length := by
  induction earlier generalizing text with
  | nil =>
      rw [List.flatten_nil, byteSize, Nat.zero_add, List.length_nil]
      cases areLines with
      | last _ unbroken =>
          rw [← List.append_nil line]
          exact count_newline_take unbroken [] (Nat.le_of_lt inside)
      | next unbroken others =>
          rw [byteSize_append] at inside
          exact count_newline_take unbroken _ (Nat.le_of_lt_succ inside)
  | cons first others inductionHypothesis =>
      generalize sameLines : first :: others ++ line :: later = all at areLines
      cases areLines with
      | empty =>
          cases sameLines
      | last _ _ =>
          obtain ⟨_, impossible⟩ := List.cons.inj sameLines
          exact absurd impossible (by simp)
      | @next head rest tail unbroken areRest =>
          obtain ⟨firstEq, othersEq⟩ := List.cons.inj sameLines
          rw [← othersEq] at areRest
          have before := inductionHypothesis areRest
          have inHead : (bytes head).count 10 = 0 :=
            List.count_eq_zero.mpr (newline_not_mem_bytes unbroken)
          have newline : bytes ('\n' :: rest) = 10 :: bytes rest := rfl
          have textEq : head ++ '\n' :: rest = first ++ rest := by
            rw [firstEq, List.append_assoc, List.singleton_append]
          have inFirst : (bytes first).count 10 = 1 := by
            rw [firstEq, bytes_append, List.count_append, inHead]
            rfl
          rw [textEq, bytes_append, List.flatten_cons, byteSize_append, Nat.add_assoc,
            ← length_bytes first, List.take_length_add_append, List.count_append, inFirst, before,
            List.length_cons, Nat.add_comm]

/-! ### Finding a line -/

theorem exists_line_of_lt {all : List (List Char)} {offset : Nat}
    (inside : offset < byteSize all.flatten) :
    ∃ earlier line later column, all = earlier ++ line :: later ∧
      byteSize earlier.flatten + column = offset ∧ column < byteSize line := by
  induction all generalizing offset with
  | nil =>
      exact absurd inside (Nat.not_lt_zero offset)
  | cons first others inductionHypothesis =>
      rw [List.flatten_cons, byteSize_append] at inside
      by_cases here : offset < byteSize first
      · exact ⟨[], first, others, offset, rfl, Nat.zero_add offset, here⟩
      · have behind : offset - byteSize first < byteSize others.flatten := by omega
        obtain ⟨earlier, line, later, column, othersEq, offsetEq, onLine⟩ :=
          inductionHypothesis behind
        refine ⟨first :: earlier, line, later, column, ?_, ?_, onLine⟩
        · rw [othersEq, List.cons_append]
        · rw [List.flatten_cons, byteSize_append]
          omega

theorem placeFrom_append (earlier : List (List Char)) (line : List Char)
    (later : List (List Char)) (number : Nat) {column : Nat} (inside : column < byteSize line) :
    placeFrom number (earlier ++ line :: later) (byteSize earlier.flatten + column) =
      some { number := number + earlier.length, line := line, column := column } := by
  induction earlier generalizing number with
  | nil =>
      rw [List.nil_append, List.flatten_nil, byteSize, Nat.zero_add, placeFrom, if_pos inside]
      rfl
  | cons first others inductionHypothesis =>
      have behind : ¬byteSize (first :: others).flatten + column < byteSize first := by
        rw [List.flatten_cons, byteSize_append]
        omega
      have left : byteSize (first :: others).flatten + column - byteSize first =
          byteSize others.flatten + column := by
        rw [List.flatten_cons, byteSize_append]
        omega
      rw [List.cons_append, placeFrom, if_neg behind, left, inductionHypothesis (number + 1),
        List.length_cons, Nat.add_assoc, Nat.add_comm 1]

theorem placeFrom_eq_none {all : List (List Char)} (number : Nat) {offset : Nat}
    (outside : byteSize all.flatten ≤ offset) : placeFrom number all offset = none := by
  induction all generalizing number offset with
  | nil => rfl
  | cons first others inductionHypothesis =>
      rw [List.flatten_cons, byteSize_append] at outside
      have behind : ¬offset < byteSize first := by omega
      rw [placeFrom, if_neg behind]
      exact inductionHypothesis (number + 1) (by omega)

theorem placeAt_of_lines {text line : List Char} {earlier later : List (List Char)}
    (split : lines text = earlier ++ line :: later) {column : Nat}
    (inside : column < byteSize line) :
    placeAt text (byteSize earlier.flatten + column) =
      some { number := earlier.length + 1, line := line, column := column } := by
  have size : byteSize text =
      byteSize earlier.flatten + (byteSize line + byteSize later.flatten) := by
    rw [← flatten_lines text, split, List.flatten_append, List.flatten_cons, byteSize_append,
      byteSize_append]
  have notEnd : byteSize earlier.flatten + column ≠ byteSize text := by omega
  rw [placeAt, if_neg notEnd, split, placeFrom_append earlier line later 1 inside, Nat.add_comm 1]

/-! ### The end of a text -/

/-- A line and what is shown of it: all but the newline at its end, and the carriage return
before that. -/
inductive Terminated : List Char → List Char → Prop where
  | returned (shown : List Char) : Terminated (shown ++ ['\r', '\n']) shown
  | newline {shown : List Char} (plain : shown.getLast? ≠ some '\r') :
      Terminated (shown ++ ['\n']) shown
  | unended {line : List Char} (plain : line.getLast? ≠ some '\n') : Terminated line line

theorem terminated_withoutTerminator (line : List Char) :
    Terminated line (withoutTerminator line) := by
  unfold withoutTerminator
  split
  · rename_i rest reversed
    rw [List.reverse_eq_iff] at reversed
    rw [reversed, List.reverse_cons, List.reverse_cons, List.append_assoc]
    exact .returned rest.reverse
  · rename_i rest notReturned reversed
    rw [List.reverse_eq_iff] at reversed
    rw [reversed, List.reverse_cons]
    refine .newline ?_
    rw [List.getLast?_reverse]
    intro returned
    obtain ⟨others, restEq⟩ := List.head?_eq_some_iff.mp returned
    exact notReturned others (by rw [restEq])
  · rename_i notReturned notNewline
    refine .unended ?_
    intro newline
    rw [← List.head?_reverse] at newline
    obtain ⟨others, reversed⟩ := List.head?_eq_some_iff.mp newline
    exact notNewline others reversed

theorem placeAt_end {text last : List Char} {earlier : List (List Char)}
    (split : lines text = earlier ++ [last]) :
    placeAt text (byteSize text) =
      some
        { number := earlier.length + 1
          line := withoutTerminator last
          column := byteSize (withoutTerminator last) } := by
  rw [placeAt, if_pos rfl, endPlace, split, List.getLast?_concat, Option.map_some,
    List.length_append, List.length_singleton]

theorem placeAt_eq_none_iff {text : List Char} {offset : Nat} :
    placeAt text offset = none ↔ byteSize text < offset ∨ text = [] := by
  constructor
  · intro absent
    by_contra present
    rw [not_or, Nat.not_lt] at present
    obtain ⟨place, found⟩ := Option.isSome_iff_exists.mp (placeAt_isSome present.2 present.1)
    rw [absent] at found
    cases found
  · intro outside
    rcases outside with outside | empty
    · have notEnd : offset ≠ byteSize text := by omega
      rw [placeAt, if_neg notEnd]
      apply placeFrom_eq_none
      rw [flatten_lines]
      exact Nat.le_of_lt outside
    · subst empty
      rw [placeAt]
      split
      · rfl
      · rfl

/-! ### Looking up offsets -/

/-- What is found at an offset.  Before a byte of the text stand as many newlines as lines before
the line that is found, and those lines and the column add up to the offset.  At the end of the
text the last line is found, and it is shown without its terminator. -/
structure PlacesOffset (content : String) (offset : Nat) : Prop where
  absent : placeAt content.toList offset = none ↔ content.utf8ByteSize < offset ∨ content = ""
  within : offset < content.utf8ByteSize →
    ∃ earlier line later column, lines content.toList = earlier ++ line :: later ∧
      placeAt content.toList offset =
        some { number := earlier.length + 1, line := line, column := column } ∧
      (content.toUTF8.data.toList.take offset).count 10 = earlier.length ∧
      byteSize earlier.flatten + column = offset
  behind : offset = content.utf8ByteSize → content ≠ "" →
    ∃ earlier last shown, lines content.toList = earlier ++ [last] ∧ Terminated last shown ∧
      placeAt content.toList offset =
        some { number := earlier.length + 1, line := shown, column := byteSize shown }

/-- Looking up offsets inverts the way in which its lines make up a text. -/
theorem placeAt_inverts_offsets (content : String) (offset : Nat) :
    AreLines content.toList (lines content.toList) ∧ PlacesOffset content offset := by
  have size : byteSize content.toList = content.utf8ByteSize := byteSize_toList content
  have areLines := areLines_lines content.toList
  refine ⟨areLines, ?_, ?_, ?_⟩
  · rw [placeAt_eq_none_iff, size, String.toList_eq_nil_iff]
  · intro inside
    have inLines : offset < byteSize (lines content.toList).flatten := by
      rw [flatten_lines, size]
      exact inside
    obtain ⟨earlier, line, later, column, split, offsetEq, onLine⟩ := exists_line_of_lt inLines
    rw [split] at areLines
    have newlines := areLines.count_newline onLine
    rw [bytes_toList, offsetEq] at newlines
    have found := placeAt_of_lines split onLine
    rw [offsetEq] at found
    exact ⟨earlier, line, later, column, split, found, newlines, offsetEq⟩
  · intro atEnd nonempty
    have someLine : lines content.toList ≠ [] := lines_ne_nil (by simpa using nonempty)
    have split := (List.dropLast_concat_getLast someLine).symm
    have found := placeAt_end split
    rw [size, ← atEnd] at found
    exact ⟨_, _, _, split, terminated_withoutTerminator _, found⟩

example : placeAt "Hello, world!\nSecond\n\nTesting { }\n".toList 30 =
    some { number := 4, line := "Testing { }\n".toList, column := 8 } := by
  decide

example : placeAt "one\r\ntwo\r\n".toList 10 =
    some { number := 2, line := "two".toList, column := 3 } := by
  decide

end Text
end ScriptLang
