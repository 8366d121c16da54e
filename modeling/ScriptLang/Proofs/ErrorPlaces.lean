import ScriptLang.Program
import ScriptLang.Proofs.Acceptance
import ScriptLang.Proofs.RunPlaces

/-!
Errors point into the text.

The places of a text are its boundaries between characters.  Tokens start and stop at them,
hence trees stand at them, and every phase fails at them.
-/

namespace ScriptLang

namespace Text

/-- The offset is the beginning of the text, its end, or lies between two characters. -/
def IsBoundary (text : List Char) (offset : Nat) : Prop :=
  ∃ before after, text = before ++ after ∧ byteSize before = offset

theorem isBoundary_zero (text : List Char) : IsBoundary text 0 :=
  ⟨[], text, rfl, rfl⟩

theorem IsBoundary.le {text : List Char} {offset : Nat} (boundary : IsBoundary text offset) :
    offset ≤ byteSize text := by
  obtain ⟨before, after, rfl, rfl⟩ := boundary
  rw [byteSize_append]
  exact Nat.le_add_right _ _

theorem utf8ByteSize_ofList (text : List Char) :
    (String.ofList text).utf8ByteSize = byteSize text := by
  induction text with
  | nil => rfl
  | cons c rest inductionHypothesis =>
      rw [String.ofList_cons, String.utf8ByteSize_append, String.utf8ByteSize_singleton,
        inductionHypothesis]
      rfl

theorem byteSize_toList (text : String) : byteSize text.toList = text.utf8ByteSize := by
  rw [← utf8ByteSize_ofList, String.ofList_toList]

theorem length_le_byteSize (text : List Char) : text.length ≤ byteSize text := by
  induction text with
  | nil => exact Nat.le_refl 0
  | cons c rest inductionHypothesis =>
      have atLeastOne := c.utf8Size_pos
      rw [List.length_cons, byteSize]
      omega

theorem IsBoundary.isValid {text : String} {offset : Nat}
    (boundary : IsBoundary text.toList offset) :
    String.Pos.Raw.IsValid text (String.Pos.Raw.mk offset) := by
  obtain ⟨before, after, textEq, rfl⟩ := boundary
  refine String.Pos.Raw.isValid_iff_exists_take_toList.mpr ⟨before.length, ?_⟩
  rw [textEq, List.take_left, utf8ByteSize_ofList]

/-! ### The line of a place -/

theorem placeFrom_isSome (lines : List (List Char)) (number : Nat) {offset : Nat}
    (inside : offset < byteSize lines.flatten) :
    (placeFrom number lines offset).isSome = true := by
  induction lines generalizing number offset with
  | nil => exact absurd inside (Nat.not_lt_zero offset)
  | cons line rest inductionHypothesis =>
      rw [List.flatten_cons, byteSize_append] at inside
      rw [placeFrom]
      split
      · rfl
      · exact inductionHypothesis (number + 1) (by omega)

theorem lines_ne_nil {text : List Char} (nonempty : text ≠ []) : lines text ≠ [] := by
  intro noLine
  have textEq := flatten_lines text
  rw [noLine] at textEq
  exact nonempty textEq.symm

theorem placeAt_isSome {text : List Char} {offset : Nat} (nonempty : text ≠ [])
    (within : offset ≤ byteSize text) : (placeAt text offset).isSome = true := by
  unfold placeAt
  split
  · unfold endPlace
    rw [List.getLast?_eq_some_getLast (lines_ne_nil nonempty)]
    rfl
  · have inside : offset < byteSize (lines text).flatten := by
      rw [flatten_lines]
      omega
    exact placeFrom_isSome (lines text) 1 inside

end Text

open Text (IsBoundary)

/-! ### Scanning -/

/-- The tokens start and stop at boundaries of the text, and an end of source is the last. -/
structure Token.Along (text : List Char) (tokens : List Token) : Prop where
  starts : StartAt (IsBoundary text) tokens
  stops : ∀ token ∈ tokens, IsBoundary text token.span.stop
  ends : ∃ before last, tokens = before ++ [last] ∧ last.kind = .eof

namespace Token.Along

variable {text : List Char}

theorem ofEnd {offset : Nat} (boundary : IsBoundary text offset) :
    Token.Along text [Token.endOfSource offset] where
  starts := List.forall_mem_singleton.mpr boundary
  stops := List.forall_mem_singleton.mpr boundary
  ends := ⟨[], Token.endOfSource offset, rfl, rfl⟩

theorem cons {tokens : List Token} (along : Token.Along text tokens) {lexeme : Lexeme}
    {start stop : Nat} (starts : IsBoundary text start) (stops : IsBoundary text stop) :
    Token.Along text
      ((lexeme.token? { start := start, stop := stop }).toList ++ tokens) := by
  unfold Lexeme.token?
  cases lexeme.content with
  | none => exact along
  | some content =>
      obtain ⟨before, last, tokensEq, isEnd⟩ := along.ends
      refine ⟨startAt_cons.mpr ⟨starts, along.starts⟩,
        List.forall_mem_cons.mpr ⟨stops, along.stops⟩, ?_⟩
      exact ⟨_ :: before, last, congrArg _ tokensEq, isEnd⟩

end Token.Along

theorem Token.scanFrom_along (passed rest : List Char) :
    Confined (IsBoundary (passed ++ rest)) (Token.scanFrom (Text.byteSize passed) rest)
      (Token.Along (passed ++ rest)) := by
  cases rest with
  | nil =>
      rw [Token.scanFrom]
      exact .ofEnd ⟨passed, [], rfl, rfl⟩
  | cons c rest =>
      have here : IsBoundary (passed ++ c :: rest) (Text.byteSize passed) :=
        ⟨passed, c :: rest, rfl, rfl⟩
      rw [Token.scanFrom]
      cases found : Lexeme.read c rest with
      | error cause => exact here
      | ok lexeme =>
          have textEq : passed ++ c :: rest =
              passed ++ (c :: rest.take lexeme.more) ++ rest.drop lexeme.more := by
            rw [List.append_assoc, List.cons_append, List.take_append_drop]
          have behind := scanFrom_along (passed ++ (c :: rest.take lexeme.more))
            (rest.drop lexeme.more)
          rw [← textEq, Text.byteSize_append] at behind
          have there : IsBoundary (passed ++ c :: rest)
              (Text.byteSize passed + Text.byteSize (c :: rest.take lexeme.more)) :=
            ⟨_, _, textEq, Text.byteSize_append _ _⟩
          dsimp only
          cases scanned : Token.scanFrom
              (Text.byteSize passed + Text.byteSize (c :: rest.take lexeme.more))
              (rest.drop lexeme.more) with
          | error fault => exact behind.of_error scanned
          | ok tokens => exact (behind.of_ok scanned).cons here there
termination_by rest.length
decreasing_by
  simp only [List.length_drop, List.length_cons]
  omega

theorem Token.scan_along (text : String) :
    Confined (IsBoundary text.toList) (Token.scan text) (Token.Along text.toList) :=
  Token.scanFrom_along [] text.toList

/-! ### Parsing -/

theorem Parse.source_along {text : List Char} {tokens : List Token}
    (along : Token.Along text tokens) :
    Confined (IsBoundary text) (Parse.ofTokens Parse.source tokens)
      (Source.Placed (IsBoundary text)) := by
  obtain ⟨starts, stops, before, last, rfl, isEnd⟩ := along
  obtain ⟨fuel, enough, sourceEq⟩ := Parse.ofTokens_source before isEnd
  have reads := Parse.source_reads_tokens before isEnd enough
  have restEq := Cursor.rest_ofTokens before isEnd
  rw [sourceEq]
  unfold Parse.ofTokens
  cases result : Parse.sourceWithin fuel (Cursor.ofTokens (before ++ [last])) with
  | ok source d =>
      obtain ⟨ts, moves, _, spelled, _⟩ := Leads.of_ok reads result
      have tokensEq : before ++ [last] = ts ++ d.rest := restEq.symm.trans moves.rest
      rw [tokensEq] at starts stops
      exact spelled.placed (startAt_append.mp starts).1
        (List.forall_mem_append.mp stops).1 (Text.isBoundary_zero text)
  | error fault d =>
      obtain ⟨atCurrent, ts, moves, _⟩ := Leads.of_error reads result
      have tokensEq : before ++ [last] = ts ++ d.current :: d.ahead := restEq.symm.trans moves.rest
      rw [tokensEq] at starts
      change IsBoundary text fault.offset
      rw [atCurrent]
      exact (startAt_cons.mp (startAt_append.mp starts).2).1

theorem Source.parse_confined (text : String) :
    Confined (IsBoundary text.toList) (Source.parse text)
      (Source.Placed (IsBoundary text.toList)) :=
  (Token.scan_along text).bind fun _ along => Parse.source_along along

/-! ### Checking and running -/

/-- The error names the file, and an offset in 32 bits that is a boundary between characters of
the text; there is a line at that offset unless the text is empty. -/
structure Error.PointsInto (error : Error) (text file : String) : Prop where
  named : error.position.file = file
  within : error.position.offset ≤ text.utf8ByteSize
  fits : error.position.offset < 4294967296
  boundary : String.Pos.Raw.IsValid text (String.Pos.Raw.mk error.position.offset)
  found : text ≠ "" → ∃ place, Text.placeAt text.toList error.position.offset = some place

theorem Fault.pointsInto {text file : String} {fault : Fault}
    (short : text.utf8ByteSize < 4294967296) (boundary : IsBoundary text.toList fault.offset) :
    (fault.inFile file).PointsInto text file := by
  have le := boundary.le
  have within : fault.offset ≤ text.utf8ByteSize := by
    rw [← Text.byteSize_toList]
    exact le
  refine ⟨rfl, within, Nat.lt_of_le_of_lt within short, boundary.isValid, ?_⟩
  intro nonempty
  have someChar : text.toList ≠ [] := fun noChar => nonempty (String.toList_eq_nil_iff.mp noChar)
  exact Option.isSome_iff_exists.mp (Text.placeAt_isSome someChar le)

def Ending.isFailure : Ending → Bool
  | .failure _ => true
  | _ => false

namespace Program

theorem check_confined (text file : String) :
    (∀ error, check text file = .error error → ∃ fault : Fault,
      error = fault.inFile file ∧ IsBoundary text.toList fault.offset) ∧
    ∀ source, check text file = .ok source → source.Placed (IsBoundary text.toList) := by
  have confined := (Source.parse_confined text).bind fun source placed =>
    Source.check_confined placed
  unfold check
  cases result : (do Source.check (← Source.parse text)) with
  | ok source =>
      constructor
      · intro error impossible
        cases impossible
      · intro checked sourceEq
        cases sourceEq
        exact confined.of_ok result
  | error fault =>
      constructor
      · intro error errorEq
        cases errorEq
        exact ⟨fault, rfl, confined.of_error result⟩
      · intro checked impossible
        cases impossible

/-- An error of checking or of running points into the text. -/
theorem errors_point_into_text {text : String} (file : String)
    (short : text.utf8ByteSize < 4294967296) :
    (∀ error, check text file = .error error → error.PointsInto text file) ∧
      ∀ fuel sink error, (run text file fuel sink).1 = .failure error →
        error.PointsInto text file := by
  obtain ⟨checkFails, checkYields⟩ := check_confined text file
  have whenChecking : ∀ error, check text file = .error error → error.PointsInto text file := by
    intro error failed
    obtain ⟨fault, rfl, boundary⟩ := checkFails error failed
    exact fault.pointsInto short boundary
  refine ⟨whenChecking, ?_⟩
  intro fuel sink error failed
  unfold run at failed
  cases checked : check text file with
  | error found =>
      rw [checked] at failed
      cases failed
      exact whenChecking _ checked
  | ok source =>
      rw [checked] at failed
      dsimp only at failed
      unfold Ending.ofResult at failed
      split at failed
      · cases failed
      · rename_i fault stopped
        cases failed
        exact fault.pointsInto short (Source.run_failsAt (checkYields source checked) stopped)
      · cases failed

/-- Prints a character of two bytes, and then divides by zero. -/
def dividing : String :=
  "FUN main(): Integer DO print(\"é\"); RETURN 1 / 0; END"

theorem dividing_points_into_text :
    ∃ error, dividing.utf8ByteSize < 4294967296 ∧
      (run dividing "wide" 9 .unlimited).1 = .failure error ∧
      error.PointsInto dividing "wide" := by
  have short : dividing.utf8ByteSize < 4294967296 := by decide +kernel
  have fails : (run dividing "wide" 9 .unlimited).1.isFailure = true := by decide +kernel
  cases ended : (run dividing "wide" 9 .unlimited).1 with
  | failure error =>
      exact ⟨error, short, rfl, (errors_point_into_text "wide" short).2 9 .unlimited error ended⟩
  | value result =>
      rw [ended] at fails
      cases fails
  | outOfFuel =>
      rw [ended] at fails
      cases fails

end Program
end ScriptLang
