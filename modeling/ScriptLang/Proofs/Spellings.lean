import ScriptLang.Proofs.Words

/-!
Words with as few escapes as they need.

Between quotes a backslash, the quote itself and the two ends of a line have to be escaped, and
nothing else.  Words that are spelled so are scanned back, whatever blanks stand between them.
-/

namespace ScriptLang

/-! ### Spelling -/

namespace Literal

def spelled (quote c : Char) : List Char :=
  if c = '\n' then ['\\', 'n']
  else if c = '\r' then ['\\', 'r']
  else if c = '\\' ∨ c = quote then ['\\', c]
  else [c]

theorem spelled_cases (c : Char) {quote : Char} (isQuote : quote = '\'' ∨ quote = '"') :
    (∃ letter, spelled quote c = ['\\', letter] ∧ escaped? letter = some c) ∨
      spelled quote c = [c] ∧ isRaw quote c = true := by
  unfold spelled
  by_cases isNewline : c = '\n'
  · exact .inl ⟨'n', if_pos isNewline, isNewline ▸ rfl⟩
  by_cases isReturn : c = '\r'
  · exact .inl ⟨'r', by rw [if_neg isNewline, if_pos isReturn], isReturn ▸ rfl⟩
  rw [if_neg isNewline, if_neg isReturn]
  by_cases special : c = '\\' ∨ c = quote
  · refine .inl ⟨c, if_pos special, ?_⟩
    rcases special with rfl | rfl
    · rfl
    · rcases isQuote with rfl | rfl
      · rfl
      · rfl
  · obtain ⟨noBackslash, noQuote⟩ := not_or.mp special
    refine .inr ⟨if_neg special, ?_⟩
    simp [isRaw, noQuote, noBackslash, isNewline, isReturn]

end Literal

namespace Word

def spelling (word : Word) : List Char :=
  match word.kind with
  | .character => '\'' :: (word.value.toList.flatMap (Literal.spelled '\'') ++ ['\''])
  | .string => '"' :: (word.value.toList.flatMap (Literal.spelled '"') ++ ['"'])
  | _ => word.value.toList

theorem writtenAs_spelling (word : Word) : word.WrittenAs word.spelling := by
  obtain ⟨kind, value⟩ := word
  cases kind with
  | character =>
      have decodes := Literal.decodes_flatMap (fun c => Literal.spelled_cases c (.inl rfl))
      exact ⟨_, rfl, decodes value.toList⟩
  | string =>
      have decodes := Literal.decodes_flatMap (fun c => Literal.spelled_cases c (.inr rfl))
      exact ⟨_, rfl, decodes value.toList⟩
  | _ => rfl

end Word

/-! ### Joining -/

namespace Spacing

/-- The pieces, which are counted from `i`, with blanks between each two of them. -/
def join (spacing : Spacing) (i : Nat) : List (List Char) → List Char
  | [] => []
  | [piece] => piece
  | piece :: pieces => piece ++ (spacing.blanks i ++ spacing.join (i + 1) pieces)

theorem writtenOut_join (spacing : Spacing) {words : List Word}
    (wellFormed : ∀ word ∈ words, word.WellFormed) (i : Nat) :
    WrittenOut words (spacing.join i (words.map Word.spelling)) := by
  induction words generalizing i with
  | nil => exact .nil
  | cons word words inductionHypothesis =>
      obtain ⟨wordWellFormed, othersWellFormed⟩ := List.forall_mem_cons.mp wellFormed
      have written := word.writtenAs_spelling
      cases words with
      | nil =>
          have alone := WrittenOut.word wordWellFormed written .nil .nil
          rwa [List.append_nil] at alone
      | cons next words =>
          exact .word wordWellFormed written (spacing.breaks i _)
            (.blanks (spacing.blank i) (inductionHypothesis othersWellFormed (i + 1)))

end Spacing

namespace Token

/-- Words that are spelled with blanks between them are scanned as these words, and nothing else
but the end of the source. -/
theorem scan_join {words : List Word} (wellFormed : ∀ word ∈ words, word.WellFormed)
    (spacing : Spacing) :
    (scan (String.ofList (spacing.join 0 (words.map Word.spelling)))).map
        (List.map Token.word) =
      .ok (words ++ [Word.endOfSource]) := by
  obtain ⟨tokens, stop, scanned, wordsEq⟩ :=
    scanFrom_writtenOut (spacing.writtenOut_join wellFormed 0) 0
  rw [scan, String.toList_ofList, scanned, ← wordsEq, Except.map, List.map_append]
  rfl

end Token

/-- Holds both quotes, a backslash, both ends of a line, and characters of one to four bytes. -/
def quotedWords : List Word :=
  [{ kind := .identifier, value := "Iff" }, { kind := .assignment, value := "=" },
    { kind := .equals, value := "==" }, { kind := .character, value := "'" },
    { kind := .string, value := "\t'\"\\n\r\né\u2028😀" }, { kind := .decimal, value := "007.50" },
    { kind := .ifWord, value := "IF" }]

/-- The same words as they are spelled, with blanks of other sorts than a space. -/
def quotedText : String :=
  "Iff\u00a0\n=\t==\t'\\''\t\"\t'\\\"\\\\n\\r\\né\u2028😀\"\t007.50\tIF"

def Spacing.mixed : Spacing where
  blanks := fun i => if i = 0 then ['\u00a0', '\n'] else ['\t']
  nonempty := fun i => by split <;> exact List.cons_ne_nil _ _
  blank := fun i => by split <;> exact List.all_eq_true.mp rfl

theorem Token.scan_join_quoted :
    (∀ word ∈ quotedWords, word.WellFormed) ∧
      String.ofList (Spacing.mixed.join 0 (quotedWords.map Word.spelling)) = quotedText ∧
      (scan quotedText).map (List.map Token.word) = .ok (quotedWords ++ [Word.endOfSource]) := by
  have isName : IsName "Iff" :=
    ⟨⟨'I', ['f', 'f'], rfl, rfl, List.all_eq_true.mp rfl⟩, by decide +kernel⟩
  have wholeDigits : IsDigits "007".toList := by decide +kernel
  have fractionDigits : IsDigits "50".toList := by decide +kernel
  have wellFormed : ∀ word ∈ quotedWords, word.WellFormed := by
    simp only [quotedWords, List.forall_mem_cons, List.not_mem_nil, false_implies, implies_true,
      and_true]
    exact ⟨isName, rfl, rfl, ⟨'\'', rfl⟩, trivial, ⟨_, _, wholeDigits, fractionDigits, rfl⟩, rfl⟩
  have textEq : String.ofList (Spacing.mixed.join 0 (quotedWords.map Word.spelling)) =
      quotedText := by
    decide +kernel
  refine ⟨wellFormed, textEq, ?_⟩
  rw [← textEq]
  exact scan_join wellFormed Spacing.mixed

end ScriptLang
