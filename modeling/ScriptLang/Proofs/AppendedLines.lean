import ScriptLang.Proofs.RelocatedReads
import ScriptLang.Proofs.Tiling

/-!
Texts line by line.

No lexeme but a run of blanks goes on behind the end of its line, and blanks leave no token.  So a
text with another one behind it, on a line of its own, has the tokens of the first one and then
those of the second, which stand further on by the bytes of the first one and its newline.
-/

namespace ScriptLang

/-! ### Lexemes at the end of a line -/

namespace Text

theorem Stops.followed {holds : Char → Bool} {behind : List Char} (stops : Stops holds behind)
    (notNewline : holds '\n' = false) (more : List Char) :
    Stops holds (behind ++ '\n' :: more) := by
  cases behind with
  | nil =>
      rintro c ⟨⟩
      exact notNewline
  | cons d behind => exact stops

end Text

/-- Only a run of blanks can go on when more lines follow. -/
theorem Lexeme.Fits.followed {content : Option (Kind × String)} {piece behind : List Char}
    (fits : Fits content piece behind) (more : List Char) :
    (content = none ∧ ∀ c ∈ piece, Text.isBlank c = true) ∨
      Fits content piece (behind ++ '\n' :: more) := by
  cases fits with
  | blanks nonempty blank stops => exact .inl ⟨rfl, blank⟩
  | word starts continues stops => exact .inr (.word starts continues (stops.followed rfl more))
  | integer isDigits stops noFraction =>
      refine .inr (.integer isDigits (stops.followed rfl more) ?_)
      intro rest behindEq
      cases behind with
      | nil => cases behindEq
      | cons d behind =>
          cases behindEq
          exact (noFraction behind rfl).followed rfl more
  | decimal wholeDigits fractionDigits stops =>
      exact .inr (.decimal wholeDigits fractionDigits (stops.followed rfl more))
  | comment oneLine stops => exact .inr (.comment oneLine (stops.followed rfl more))
  | character decodes => exact .inr (.character decodes)
  | string decodes => exact .inr (.string decodes)
  | mark isMark spelled single noComment =>
      exact .inr (.mark isMark spelled
        (fun isAssignment => (single isAssignment).followed rfl more)
        (fun isSlash => (noComment isSlash).followed rfl more))

/-! ### Scanning on -/

namespace Token

theorem Passes.scanFrom_followed {offset stop : Nat} {text : List Char} {tokens : List Token}
    (passes : Passes offset text tokens stop []) (more : List Char) :
    scanFrom offset (text ++ '\n' :: more) =
      (scanFrom stop ('\n' :: more)).map fun others => tokens ++ others := by
  generalize restEq : [] = rest at passes
  induction passes with
  | @done offset rest =>
      subst restEq
      rw [List.nil_append]
      cases scanFrom offset ('\n' :: more) with
      | ok others => rfl
      | error fault => rfl
  | gap fits _ inductionHypothesis =>
      rw [List.append_assoc]
      -- Blanks at the end of the text may go on behind the newline, but they leave no token.
      rcases fits.followed more with ⟨_, blank⟩ | fits
      · rw [scanFrom_blanks _ blank, inductionHypothesis restEq]
      · rw [scanFrom_gap _ fits, inductionHypothesis restEq]
  | token fits _ inductionHypothesis =>
      rw [List.append_assoc]
      rcases fits.followed more with ⟨impossible, _⟩ | fits
      · cases impossible
      · rw [scanFrom_fits _ fits, inductionHypothesis restEq]
        cases scanFrom _ ('\n' :: more) with
        | ok others => rfl
        | error fault => rfl

/-- From a later offset a text has the same tokens, or the same fault, as much later. -/
theorem scanFrom_relocated (distance offset : Nat) (text : List Char) :
    ResultsAlike (fun fault later => later = fault.relocated (· + distance))
      (fun tokens later => later = tokens.map (Token.relocated (· + distance)))
      (scanFrom offset text) (scanFrom (offset + distance) text) := by
  cases text with
  | nil =>
      rw [scanFrom, scanFrom]
      exact .ok rfl
  | cons c rest =>
      rw [scanFrom, scanFrom]
      cases found : Lexeme.read c rest with
      | error cause => exact .error rfl
      | ok lexeme =>
          dsimp only
          rw [Nat.add_right_comm]
          have others := scanFrom_relocated distance
            (offset + Text.byteSize (c :: rest.take lexeme.more)) (rest.drop lexeme.more)
          generalize scanFrom _ (rest.drop lexeme.more) = result at others ⊢
          generalize scanFrom _ (rest.drop lexeme.more) = later at others ⊢
          cases others with
          | error faults => exact .error faults
          | ok tokens =>
              subst tokens
              obtain ⟨content, more⟩ := lexeme
              cases content with
              | none => exact .ok rfl
              | some token => exact .ok rfl
termination_by text.length
decreasing_by
  simp only [List.length_drop, List.length_cons]
  omega

/-- Of a text whose first lines are scanned, the tokens or the fault are those of the other lines,
further on by the bytes of the first lines, behind the tokens of these. -/
theorem scan_append_line {first : String} {tokens : List Token}
    (scanned : scan first = .ok tokens) (second : String) :
    ∃ body, tokens = body ++ [endOfSource first.utf8ByteSize] ∧
      ResultsAlike
        (fun fault whole => whole = fault.relocated (· + (first.utf8ByteSize + 1)))
        (fun others whole =>
          whole = body ++ others.map (Token.relocated (· + (first.utf8ByteSize + 1))))
        (scan second) (scan (first ++ "\n" ++ second)) := by
  obtain ⟨body, tokensEq, passes⟩ := passes_of_scan scanned
  refine ⟨body, tokensEq, ?_⟩
  have textEq : (first ++ "\n" ++ second).toList = first.toList ++ '\n' :: second.toList := by
    simp
  have others := scanFrom_relocated (first.utf8ByteSize + 1) 0 second.toList
  rw [Nat.zero_add] at others
  have wholeEq : scan (first ++ "\n" ++ second) =
      (scanFrom (first.utf8ByteSize + 1) second.toList).map fun others => body ++ others := by
    rw [scan, textEq, passes.scanFrom_followed, scanFrom_blank _ rfl]
    rfl
  rw [wholeEq, scan]
  generalize scanFrom 0 second.toList = result at others ⊢
  generalize scanFrom (first.utf8ByteSize + 1) second.toList = later at others ⊢
  cases others with
  | ok same => exact .ok (congrArg _ same)
  | error same => exact .error same

/-- Ends inside a comment, behind characters of two bytes. -/
def commentedLine : String :=
  "x = 'é'; // é"

/-- One of the lines that follow is scanned, and the other one is not. -/
theorem scan_append_line_commented :
    ∃ body, scan commentedLine = .ok (body ++ [endOfSource 15]) ∧
      scan (commentedLine ++ "\n" ++ " \t\"é\"") =
        .ok (body ++ [⟨.string, "é", ⟨18, 22⟩⟩, endOfSource 22]) ∧
      scan (commentedLine ++ "\n" ++ "y 1.") = .error ⟨.unrecognisedToken ".", 19⟩ := by
  obtain ⟨tokens, scanned⟩ : ∃ tokens, scan commentedLine = .ok tokens :=
    ⟨[⟨.identifier, "x", ⟨0, 1⟩⟩, ⟨.assignment, "=", ⟨2, 3⟩⟩, ⟨.character, "é", ⟨4, 8⟩⟩,
      ⟨.semicolon, ";", ⟨8, 9⟩⟩, endOfSource 15], by decide +kernel⟩
  have quoted : scan " \t\"é\"" = .ok [⟨.string, "é", ⟨2, 6⟩⟩, endOfSource 6] := by
    decide +kernel
  have stuck : scan "y 1." = .error ⟨.unrecognisedToken ".", 3⟩ := by decide +kernel
  obtain ⟨body, rfl, whole⟩ := scan_append_line scanned " \t\"é\""
  obtain ⟨_, _, wholeFails⟩ := scan_append_line scanned "y 1."
  refine ⟨body, scanned, ?_, ?_⟩
  · rw [quoted] at whole
    generalize scan (commentedLine ++ "\n" ++ " \t\"é\"") = result at whole ⊢
    cases whole with
    | ok same => exact congrArg Except.ok same
  · rw [stuck] at wholeFails
    generalize scan (commentedLine ++ "\n" ++ "y 1.") = result at wholeFails ⊢
    cases wholeFails with
    | error same => exact congrArg Except.error same

end Token
end ScriptLang
