import Mathlib
import ScriptLang.Error.Report
import ScriptLang.Proofs.DisplayedNumbers
import ScriptLang.Proofs.Lines

/-!
Carets under characters.

A report shows the line of an error and a caret under it.  The caret stands as many columns behind
the indentation as bytes stand before the offending character, so it stands under that character
where all of these bytes are characters, and further to the right elsewhere.
-/

namespace ScriptLang

namespace Text

/-! ### Lines that stand behind each other -/

theorem lines_append {before : List Char}
    (startsLine : before = [] ∨ before.getLast? = some '\n') (rest : List Char) :
    lines (before ++ rest) = lines before ++ lines rest := by
  induction before with
  | nil => rfl
  | cons c others inductionHypothesis =>
      rw [List.cons_append, lines, lines]
      by_cases isNewline : c = '\n'
      · have othersStart : others = [] ∨ others.getLast? = some '\n' := by
          cases others with
          | nil => exact .inl rfl
          | cons next more => simpa using startsLine
        rw [if_pos isNewline, if_pos isNewline, inductionHypothesis othersStart, List.cons_append]
      · rw [if_neg isNewline, if_neg isNewline]
        have othersEnd : others.getLast? = some '\n' := by
          cases others with
          | nil => simp [isNewline] at startsLine
          | cons next more => simpa using startsLine
        rw [inductionHypothesis (.inr othersEnd)]
        have someLine : lines others ≠ [] := by
          apply lines_ne_nil
          intro empty
          rw [empty] at othersEnd
          cases othersEnd
        cases linesEq : lines others with
        | nil => exact absurd linesEq someLine
        | cons first more => rfl

theorem lines_cons_of_ne {c : Char} (other : c ≠ '\n') {text first : List Char}
    {more : List (List Char)} (split : lines text = first :: more) :
    lines (c :: text) = (c :: first) :: more := by
  rw [lines, if_neg other, split]

theorem lines_unbroken_append {front : List Char} (unbroken : '\n' ∉ front)
    {rest first : List Char} {more : List (List Char)} (split : lines rest = first :: more) :
    lines (front ++ rest) = (front ++ first) :: more := by
  induction front with
  | nil => exact split
  | cons c others inductionHypothesis =>
      rw [List.mem_cons, not_or] at unbroken
      exact lines_cons_of_ne (Ne.symm unbroken.1) (inductionHypothesis unbroken.2)

theorem lines_newline (line : List Char) (unbroken : '\n' ∉ line) (rest : List Char) :
    lines (line ++ '\n' :: rest) = (line ++ ['\n']) :: lines rest := by
  apply lines_unbroken_append unbroken
  rw [lines, if_pos rfl]

/-- The first line of a text goes through its first visible character, and what it holds behind
that is unbroken but for the newline at the end of the line. -/
theorem lines_visible {front : List Char} (unbroken : '\n' ∉ front) {c : Char} (other : c ≠ '\n')
    (rest : List Char) :
    ∃ tail more, lines (front ++ c :: rest) = (front ++ c :: tail) :: more ∧
      '\n' ∉ tail.dropLast := by
  have fromChar : ∃ tail more, lines (c :: rest) = (c :: tail) :: more ∧ '\n' ∉ tail.dropLast := by
    rw [lines, if_neg other]
    have areLines := areLines_lines rest
    generalize lines rest = later at areLines
    cases areLines with
    | empty =>
        exact ⟨[], [], rfl, List.not_mem_nil⟩
    | last _ unbroken =>
        exact ⟨rest, [], rfl, fun member => unbroken (List.dropLast_subset _ member)⟩
    | @next line others later unbroken _ =>
        refine ⟨line ++ ['\n'], later, rfl, ?_⟩
        rw [List.dropLast_concat]
        exact unbroken
  obtain ⟨tail, more, split, unbrokenTail⟩ := fromChar
  exact ⟨tail, more, lines_unbroken_append unbroken split, unbrokenTail⟩

/-! ### Trimmed lines -/

theorem trimEnd_concat_of_blank {last : Char} (blank : isBlank last = true) (init : List Char) :
    trimEnd (init ++ [last]) = trimEnd init := by
  simp [trimEnd, blank]

theorem trimEnd_concat_of_visible {last : Char} (visible : isBlank last = false)
    (init : List Char) : trimEnd (init ++ [last]) = init ++ [last] := by
  simp [trimEnd, visible]

theorem trimEnd_append {c : Char} (visible : isBlank c = false) (front tail : List Char) :
    trimEnd (front ++ c :: tail) = front ++ c :: trimEnd tail := by
  have stops : (c :: front.reverse).dropWhile isBlank = c :: front.reverse := by
    rw [List.dropWhile_cons, visible]
    rfl
  have reversed : (front ++ c :: tail).reverse = tail.reverse ++ c :: front.reverse := by simp
  rw [trimEnd, trimEnd, reversed, List.dropWhile_append, stops]
  split
  · rename_i allBlank
    rw [List.isEmpty_iff.mp allBlank]
    simp
  · simp

theorem mem_of_mem_trimEnd {c : Char} {text : List Char} (member : c ∈ trimEnd text) :
    c ∈ text := by
  rw [trimEnd, List.mem_reverse] at member
  exact List.mem_reverse.mp (List.dropWhile_subset _ member)

theorem newline_not_mem_trimEnd {tail : List Char} (unbroken : '\n' ∉ tail.dropLast) :
    '\n' ∉ trimEnd tail := by
  rcases List.eq_nil_or_concat tail with rfl | ⟨init, last, rfl⟩
  · exact List.not_mem_nil
  · rw [List.concat_eq_append] at unbroken ⊢
    rw [List.dropLast_concat] at unbroken
    cases blank : isBlank last with
    | true =>
        rw [trimEnd_concat_of_blank blank]
        exact fun member => unbroken (mem_of_mem_trimEnd member)
    | false =>
        rw [trimEnd_concat_of_visible blank]
        intro member
        rcases List.mem_append.mp member with inInit | isLast
        · exact unbroken inInit
        · rw [← List.mem_singleton.mp isLast] at blank
          exact absurd blank (by decide)

/-! ### Characters and bytes -/

theorem byteSize_eq_length_iff {text : List Char} :
    byteSize text = text.length ↔ ∀ c ∈ text, c.utf8Size = 1 := by
  induction text with
  | nil => simp [byteSize]
  | cons c rest inductionHypothesis =>
      have positive := c.utf8Size_pos
      have atLeast := length_le_byteSize rest
      rw [List.forall_mem_cons, ← inductionHypothesis, byteSize, List.length_cons]
      omega

end Text

namespace Report

open Text

/-! ### The place of an error -/

/-- An offset at a visible character `c` of some line: `before` are the lines before that line,
`indent` are the blanks and tabs it starts with, and `passed` stands between these and `c`. -/
structure PointsTo (content : List Char) (offset : Nat) (before indent passed : List Char)
    (c : Char) (rest : List Char) : Prop where
  split : content = before ++ (indent ++ passed ++ c :: rest)
  startsLine : before = [] ∨ before.getLast? = some '\n'
  indented : ∀ x ∈ indent, x = ' ' ∨ x = '\t'
  begun : ∀ x ∈ (passed ++ [c]).head?, x ≠ ' ' ∧ x ≠ '\t'
  unbroken : '\n' ∉ passed
  visible : isBlank c = false
  offset_eq : offset = byteSize (before ++ (indent ++ passed))

/-- The last two lines of a report: a line of the source, with `ahead` before the character `c`,
and the line of the caret, with `lead` before the caret. -/
def Shows (report : String) (ahead : List Char) (c : Char) (lead : List Char) : Prop :=
  ∃ earlier behind, lines report.toList =
    earlier ++ [ahead ++ c :: behind ++ ['\n'], lead ++ ['^', '\n']]

theorem byteSize_of_indented {indent : List Char} (indented : ∀ x ∈ indent, x = ' ' ∨ x = '\t') :
    byteSize indent = indent.length := by
  rw [byteSize_eq_length_iff]
  intro x member
  rcases indented x member with rfl | rfl
  · rfl
  · rfl

theorem indentation_append {indent rest : List Char}
    (indented : ∀ x ∈ indent, x = ' ' ∨ x = '\t')
    (begun : ∀ x ∈ rest.head?, x ≠ ' ' ∧ x ≠ '\t') : indentation (indent ++ rest) = indent := by
  have stops : rest.takeWhile (fun c => c == ' ' || c == '\t') = [] := by
    cases rest with
    | nil => rfl
    | cons first others =>
        obtain ⟨notSpace, notTab⟩ := begun first rfl
        simp [notSpace, notTab]
  rw [indentation, List.takeWhile_append_of_pos, stops, List.append_nil]
  intro x member
  simpa using indented x member

section

variable {content : List Char} {offset : Nat} {before indent passed rest : List Char} {c : Char}

theorem PointsTo.char_ne (points : PointsTo content offset before indent passed c rest) :
    c ≠ '\n' := by
  rintro rfl
  exact absurd points.visible (by decide)

theorem PointsTo.placeAt (points : PointsTo content offset before indent passed c rest) :
    ∃ tail, '\n' ∉ tail.dropLast ∧
      placeAt content offset =
        some
          { number := (lines before).length + 1
            line := indent ++ passed ++ c :: tail
            column := byteSize (indent ++ passed) } := by
  have other := points.char_ne
  have unbroken : '\n' ∉ indent ++ passed := by
    rw [List.mem_append, not_or]
    refine ⟨?_, points.unbroken⟩
    intro member
    exact absurd (points.indented _ member) (by decide)
  obtain ⟨tail, more, split, unbrokenTail⟩ := lines_visible unbroken other rest
  have linesEq : lines content = lines before ++ (indent ++ passed ++ c :: tail) :: more := by
    rw [points.split, lines_append points.startsLine, split]
  have onLine : byteSize (indent ++ passed) < byteSize (indent ++ passed ++ c :: tail) := by
    have positive := c.utf8Size_pos
    rw [byteSize_append _ (c :: tail), byteSize]
    omega
  have found := placeAt_of_lines linesEq onLine
  rw [flatten_lines, ← byteSize_append, ← points.offset_eq] at found
  exact ⟨tail, unbrokenTail, found⟩

theorem PointsTo.indentation_eq (points : PointsTo content offset before indent passed c rest)
    (tail : List Char) : indentation (indent ++ passed ++ c :: tail) = indent := by
  rw [List.append_assoc]
  apply indentation_append points.indented
  have begun := points.begun
  cases passed with
  | nil => exact begun
  | cons first others => exact begun

end

theorem newline_not_mem_toDigits (n : Nat) : '\n' ∉ Nat.toDigits 10 n := by
  intro member
  exact absurd ((isDigits_toDigits n).2 _ member) (by decide)

theorem length_bar (number : Nat) :
    (bar number).toList.length = (toString number).toList.length + 2 := by
  rw [String.length_toList, String.length_toList]
  simp only [bar, String.length_append, String.length_ofList, List.length_replicate]
  rfl

theorem lines_append_two {head first second : List Char} (ended : head.getLast? = some '\n')
    (unbrokenFirst : '\n' ∉ first) (unbrokenSecond : '\n' ∉ second) :
    lines (head ++ (first ++ '\n' :: (second ++ ['\n']))) =
      lines head ++ [first ++ ['\n'], second ++ ['\n']] := by
  rw [lines_append (.inr ended), lines_newline first unbrokenFirst,
    lines_newline second unbrokenSecond, lines]

theorem lines_report {error : Error} {content : String} (path : String) {place : Place}
    (found : placeAt content.toList error.position.offset = some place)
    (unbrokenShown : '\n' ∉ (shownLine place).toList)
    (unbrokenCaret : '\n' ∉ (caretLine place).toList) :
    ∃ earlier, lines (error.report content path).toList =
      earlier ++ [(shownLine place).toList ++ ['\n'], (caretLine place).toList ++ ['\n']] := by
  have reported : (error.report content path).toList =
      (error.cause.headline ++ "\n-> " ++ path ++ "\n" ++ bar place.number ++ "\n").toList ++
        ((shownLine place).toList ++ '\n' :: ((caretLine place).toList ++ ['\n'])) := by
    unfold Error.report reportLines
    rw [found]
    simp [excerpt, String.join]
  have newline : "\n".toList = ['\n'] := rfl
  rw [reported, String.toList_append, newline,
    lines_append_two List.getLast?_concat unbrokenShown unbrokenCaret]
  exact ⟨_, rfl⟩

section

variable {number column : Nat} {indent passed tail : List Char} {c : Char}

theorem toList_shownLine (indented : indentation (indent ++ passed ++ c :: tail) = indent)
    (visible : isBlank c = false) :
    (shownLine
        { number := number, line := indent ++ passed ++ c :: tail, column := column }).toList =
      (toString number).toList ++ " | ".toList ++ passed ++ c :: trimEnd tail := by
  have dropped : (indent ++ passed ++ c :: tail).drop indent.length = passed ++ c :: tail := by
    rw [List.append_assoc, List.drop_left]
  unfold shownLine
  dsimp only
  rw [indented, dropped, trimEnd_append visible]
  simp

theorem toList_caretLine (indented : indentation (indent ++ passed ++ c :: tail) = indent)
    (narrow : byteSize indent = indent.length) :
    (caretLine
        { number := number
          line := indent ++ passed ++ c :: tail
          column := byteSize (indent ++ passed) }).toList =
      (bar number).toList ++ ' ' :: List.replicate (byteSize passed) '-' ++ ['^'] := by
  have behind : byteSize (indent ++ passed) - indent.length = byteSize passed := by
    rw [byteSize_append, narrow, Nat.add_sub_cancel_left]
  unfold caretLine
  dsimp only
  rw [indented, behind]
  simp

end

/-- What stands before the caret is as wide as the number of the line, the bar and the bytes before
the character. -/
theorem length_lead (number : Nat) (passed : List Char) :
    ((bar number).toList ++ ' ' :: List.replicate (byteSize passed) '-').length =
      ((toString number).toList ++ " | ".toList).length + byteSize passed := by
  have separator : " | ".toList.length = 3 := rfl
  rw [List.length_append, length_bar, List.length_cons, List.length_replicate, List.length_append,
    separator]
  omega

theorem PointsTo.shows {error : Error} {content : String} (path : String)
    {before indent passed rest : List Char} {c : Char}
    (points : PointsTo content.toList error.position.offset before indent passed c rest) :
    Shows (error.report content path)
      ((toString ((lines before).length + 1)).toList ++ " | ".toList ++ passed) c
      ((bar ((lines before).length + 1)).toList ++
        ' ' :: List.replicate (byteSize passed) '-') := by
  have other := points.char_ne
  obtain ⟨tail, unbrokenTail, found⟩ := points.placeAt
  have indented := points.indentation_eq tail
  have narrow := byteSize_of_indented points.indented
  have unbrokenShown := newline_not_mem_trimEnd unbrokenTail
  obtain ⟨earlier, linesEq⟩ := lines_report path found
    (by
      rw [toList_shownLine indented points.visible]
      simp [newline_not_mem_toDigits, points.unbroken, other.symm, unbrokenShown])
    (by
      rw [toList_caretLine indented narrow]
      simp [bar])
  rw [toList_shownLine indented points.visible, toList_caretLine indented narrow] at linesEq
  refine ⟨earlier, trimEnd tail, ?_⟩
  rw [linesEq]
  simp

/-- The report on an error at a visible character ends with the line of the character and a line
with a caret.  The caret stands as far to the right of the character as the characters between the
indentation and it have more bytes than characters, hence under it if each of them is written with
one byte. -/
theorem caret_column {error : Error} {content path : String}
    {before indent passed rest : List Char} {c : Char}
    (points : PointsTo content.toList error.position.offset before indent passed c rest) :
    ∃ ahead lead, Shows (error.report content path) ahead c lead ∧
      ahead = (toString ((lines before).length + 1)).toList ++ " | ".toList ++ passed ∧
      lead.length + passed.length = ahead.length + byteSize passed ∧
      (lead.length = ahead.length ↔ ∀ x ∈ passed, x.utf8Size = 1) := by
  have shows := points.shows path
  generalize (lines before).length + 1 = number at shows ⊢
  have leadLength := length_lead number passed
  have aheadLength : ((toString number).toList ++ " | ".toList ++ passed).length =
      ((toString number).toList ++ " | ".toList).length + passed.length := List.length_append
  have atLeast := length_le_byteSize passed
  refine ⟨_, _, shows, rfl, ?_, ?_⟩
  · omega
  · rw [← byteSize_eq_length_iff]
    omega

def strayMark (offset : Nat) : Error :=
  { cause := .unrecognisedToken "#", position := { offset := offset, file := "t.plc" } }

theorem caret_column_indented :
    PointsTo "VAL a = 1;\n\tVAL b = #;".toList 20 "VAL a = 1;\n".toList ['\t'] "VAL b = ".toList '#'
        [';'] ∧
      ∃ ahead lead,
        Shows ((strayMark 20).report "VAL a = 1;\n\tVAL b = #;" "t.plc") ahead '#' lead ∧
        ahead = "2 | VAL b = ".toList ∧ lead.length = ahead.length := by
  have points : PointsTo "VAL a = 1;\n\tVAL b = #;".toList (strayMark 20).position.offset
      "VAL a = 1;\n".toList ['\t'] "VAL b = ".toList '#' [';'] :=
    { split := rfl
      startsLine := .inr rfl
      indented := by simp
      begun := by simp
      unbroken := by decide
      visible := rfl
      offset_eq := rfl }
  obtain ⟨ahead, lead, shows, aheadEq, _, under⟩ := @caret_column _ _ "t.plc" _ _ _ _ _ points
  exact ⟨points, ahead, lead, shows, aheadEq, under.mpr (byteSize_eq_length_iff.mp rfl)⟩

/-- Behind an accented letter the caret stands one column to the right of the character. -/
theorem caret_right_of_accented :
    Program.check "VAL a = 'é'; #" "t.plc" = .error (strayMark 14) ∧
      PointsTo "VAL a = 'é'; #".toList 14 [] [] "VAL a = 'é'; ".toList '#' [] ∧
      Shows ((strayMark 14).report "VAL a = 'é'; #" "t.plc") "1 | VAL a = 'é'; ".toList '#'
        "  | --------------".toList ∧
      ∀ lead, Shows ((strayMark 14).report "VAL a = 'é'; #" "t.plc") "1 | VAL a = 'é'; ".toList '#'
        lead → lead.length = "1 | VAL a = 'é'; ".toList.length + 1 := by
  have linesEq : lines ((strayMark 14).report "VAL a = 'é'; #" "t.plc").toList =
      ["Error: UnrecognisedToken\n".toList, "-> t.plc\n".toList, "  |\n".toList] ++
        ["1 | VAL a = 'é'; ".toList ++ '#' :: [] ++ ['\n'],
          "  | --------------".toList ++ ['^', '\n']] := by
    decide +kernel
  refine ⟨?_, ?_, ⟨_, [], linesEq⟩, ?_⟩
  · cbv
  · exact
      { split := rfl
        startsLine := .inl rfl
        indented := List.forall_mem_nil _
        begun := by simp
        unbroken := by decide
        visible := rfl
        offset_eq := rfl }
  · intro lead shows
    obtain ⟨earlier, behind, shows⟩ := shows
    rw [linesEq] at shows
    have lastLines := congrArg List.getLast? shows
    simp only [List.getLast?_append, List.getLast?_cons_cons, List.getLast?_singleton,
      Option.some_or] at lastLines
    have lengths := congrArg List.length (Option.some.inj lastLines)
    rw [List.length_append, List.length_append] at lengths
    exact (Nat.add_right_cancel lengths).symm

end Report
end ScriptLang
