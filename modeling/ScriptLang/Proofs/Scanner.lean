import ScriptLang.Proofs.ErrorPlaces
import ScriptLang.Text.Reader

/-!
Scanning as a loop over a reader.

A scanner holds a reader of the text and the tokens pushed so far.  A turn reads one lexeme where
the reader stands, pushes its token and advances the reader by the bytes of the lexeme.  The reader
stands between two characters at every turn, and the loop yields what the recursion over the text
yields.
-/

namespace ScriptLang

namespace Text

theorem dropBytes_append (piece behind : List Char) :
    Reader.dropBytes (piece ++ behind) (byteSize piece) = behind := by
  induction piece with
  | nil =>
      cases behind with
      | nil => rfl
      | cons c rest => rfl
  | cons c piece inductionHypothesis =>
      have nonempty : c.utf8Size + byteSize piece ≠ 0 := by
        have atLeastOne := c.utf8Size_pos
        omega
      rw [List.cons_append, byteSize, Reader.dropBytes, if_neg nonempty, Nat.add_sub_cancel_left]
      exact inductionHypothesis

namespace Reader

/-- The reader has passed the beginning of the text up to its offset. -/
def StandsIn (reader : Reader) (text : List Char) : Prop :=
  ∃ before, text = before ++ reader.rest ∧ reader.offset = byteSize before

theorem ofString_standsIn (text : String) : (ofString text).StandsIn text.toList :=
  ⟨[], rfl, rfl⟩

theorem advance_append (offset : Nat) (piece behind : List Char) :
    advance { offset := offset, rest := piece ++ behind } (byteSize piece) =
      { offset := offset + byteSize piece, rest := behind } := by
  rw [advance, dropBytes_append]

namespace StandsIn

variable {reader : Reader} {text : List Char}

theorem isBoundary (stands : reader.StandsIn text) : IsBoundary text reader.offset := by
  obtain ⟨before, textEq, offsetEq⟩ := stands
  exact ⟨before, reader.rest, textEq, offsetEq.symm⟩

/-- A reader is at its end when its offset has reached the size of the text. -/
theorem atEnd_iff (stands : reader.StandsIn text) :
    reader.atEnd = true ↔ byteSize text ≤ reader.offset := by
  obtain ⟨before, rfl, offsetEq⟩ := stands
  rw [atEnd, List.isEmpty_iff, byteSize_append, offsetEq]
  have counted := length_le_byteSize reader.rest
  constructor
  · intro ended
    rw [ended, byteSize]
    omega
  · intro reached
    exact List.eq_nil_of_length_eq_zero (by omega)

theorem advance {piece behind : List Char} (stands : reader.StandsIn text)
    (restEq : reader.rest = piece ++ behind) :
    (reader.advance (byteSize piece)).StandsIn text := by
  obtain ⟨before, textEq, offsetEq⟩ := stands
  obtain ⟨offset, rest⟩ := reader
  subst restEq
  rw [advance_append]
  refine ⟨before ++ piece, ?_, ?_⟩
  · rw [textEq, List.append_assoc]
  · rw [byteSize_append, ← offsetEq]

end StandsIn
end Reader
end Text

structure Scanner where
  reader : Text.Reader
  tokens : List Token

namespace Scanner

def ofString (text : String) : Scanner :=
  { reader := .ofString text
    tokens := [] }

def push (scanner : Scanner) (lexeme : Lexeme) (piece : List Char) : Scanner :=
  let bytes := Text.byteSize piece
  { reader := scanner.reader.advance bytes
    tokens := scanner.tokens ++ (lexeme.token? (scanner.reader.span bytes)).toList }

/-- Reads one lexeme where the reader stands, which is not at its end. -/
def turn (scanner : Scanner) : Except Fault Scanner :=
  match Lexeme.read scanner.reader.current scanner.reader.rest.tail with
  | .error cause => .error { cause := cause, offset := scanner.reader.offset }
  | .ok lexeme => .ok (scanner.push lexeme (scanner.reader.rest.take (lexeme.more + 1)))

theorem turn_eq_ok {scanner next : Scanner} :
    scanner.turn = .ok next ↔
      ∃ lexeme, Lexeme.read scanner.reader.current scanner.reader.rest.tail = .ok lexeme ∧
        next = scanner.push lexeme (scanner.reader.rest.take (lexeme.more + 1)) := by
  unfold turn
  cases Lexeme.read scanner.reader.current scanner.reader.rest.tail with
  | error cause => simp
  | ok lexeme => simp [eq_comm]

theorem turn_eq_error {scanner : Scanner} {fault : Fault} :
    scanner.turn = .error fault ↔
      ∃ cause, Lexeme.read scanner.reader.current scanner.reader.rest.tail = .error cause ∧
        fault = { cause := cause, offset := scanner.reader.offset } := by
  unfold turn
  cases Lexeme.read scanner.reader.current scanner.reader.rest.tail with
  | error cause => simp [eq_comm]
  | ok lexeme => simp

theorem rest_push (scanner : Scanner) (lexeme : Lexeme) (count : Nat) :
    (scanner.push lexeme (scanner.reader.rest.take count)).reader.rest =
      scanner.reader.rest.drop count := by
  have passed := Text.dropBytes_append (scanner.reader.rest.take count)
    (scanner.reader.rest.drop count)
  rwa [List.take_append_drop] at passed

theorem offset_push (scanner : Scanner) (lexeme : Lexeme) (piece : List Char) :
    (scanner.push lexeme piece).reader.offset = scanner.reader.offset + Text.byteSize piece :=
  rfl

theorem turn_standsIn {scanner next : Scanner} {text : List Char}
    (stands : scanner.reader.StandsIn text) (turned : scanner.turn = .ok next) :
    next.reader.StandsIn text := by
  obtain ⟨lexeme, _, rfl⟩ := turn_eq_ok.mp turned
  exact stands.advance (List.take_append_drop _ _).symm

theorem turn_shortens {scanner next : Scanner} (goesOn : scanner.reader.atEnd = false)
    (turned : scanner.turn = .ok next) :
    next.reader.rest.length < scanner.reader.rest.length := by
  obtain ⟨lexeme, _, rfl⟩ := turn_eq_ok.mp turned
  have nonempty := List.length_pos_iff.mpr (List.isEmpty_eq_false_iff.mp goesOn)
  rw [rest_push, List.length_drop]
  omega

/-- Some turns lead from one scanner to another, none of them at the end of the text. -/
inductive Turns (scanner : Scanner) : Scanner → Prop where
  | none : Turns scanner scanner
  | turn {middle next : Scanner} (turns : Turns scanner middle)
      (goesOn : middle.reader.atEnd = false) (turned : middle.turn = .ok next) :
      Turns scanner next

theorem standsIn_of_turns {text : String} {scanner : Scanner}
    (turns : Turns (ofString text) scanner) : scanner.reader.StandsIn text.toList := by
  induction turns with
  | none => exact Text.Reader.ofString_standsIn text
  | turn _ _ turned inductionHypothesis => exact turn_standsIn inductionHypothesis turned

/-- After any number of turns the reader stands between two characters of the text, and it is at
its end just when its offset has reached the size of the text. -/
theorem boundary_of_turns {text : String} {scanner : Scanner}
    (turns : Turns (ofString text) scanner) :
    Text.IsBoundary text.toList scanner.reader.offset ∧
      (scanner.reader.atEnd = true ↔ text.utf8ByteSize ≤ scanner.reader.offset) := by
  have stands := standsIn_of_turns turns
  rw [← Text.byteSize_toList]
  exact ⟨stands.isBoundary, stands.atEnd_iff⟩

def run (scanner : Scanner) : Except Fault (List Token) :=
  if scanner.reader.atEnd then
    .ok (scanner.tokens ++ [Token.endOfSource scanner.reader.offset])
  else
    match _ : scanner.turn with
    | .error fault => .error fault
    | .ok next => run next
termination_by scanner.reader.rest.length
decreasing_by
  rename_i goesOn turned
  exact turn_shortens (Bool.eq_false_iff.mpr goesOn) turned

theorem scanFrom_of_stuck {scanner : Scanner} {fault : Fault}
    (goesOn : scanner.reader.atEnd = false) (stuck : scanner.turn = .error fault) :
    Token.scanFrom scanner.reader.offset scanner.reader.rest = .error fault := by
  obtain ⟨cause, failed, rfl⟩ := turn_eq_error.mp stuck
  obtain ⟨⟨offset, rest⟩, tokens⟩ := scanner
  cases rest with
  | nil => cases goesOn
  | cons c rest =>
      have failed : Lexeme.read c rest = .error cause := failed
      rw [Token.scanFrom, failed]

theorem scanFrom_of_turn {scanner next : Scanner} (goesOn : scanner.reader.atEnd = false)
    (turned : scanner.turn = .ok next) :
    (Token.scanFrom scanner.reader.offset scanner.reader.rest).map (scanner.tokens ++ ·) =
      (Token.scanFrom next.reader.offset next.reader.rest).map (next.tokens ++ ·) := by
  obtain ⟨lexeme, isRead, rfl⟩ := turn_eq_ok.mp turned
  rw [rest_push, offset_push]
  obtain ⟨⟨offset, rest⟩, tokens⟩ := scanner
  cases rest with
  | nil => cases goesOn
  | cons c rest =>
      have isRead : Lexeme.read c rest = .ok lexeme := isRead
      rw [Token.scanFrom, isRead, List.drop_succ_cons, List.take_succ_cons]
      dsimp only
      cases Token.scanFrom (offset + Text.byteSize (c :: rest.take lexeme.more))
          (rest.drop lexeme.more) with
      | error fault => rfl
      | ok found => exact congrArg Except.ok (List.append_assoc tokens _ found).symm

/-- The loop puts the tokens that the recursion finds in the rest behind those it has. -/
theorem run_eq (scanner : Scanner) :
    scanner.run =
      (Token.scanFrom scanner.reader.offset scanner.reader.rest).map (scanner.tokens ++ ·) := by
  induction scanner using run.induct with
  | case1 scanner ended =>
      have restEq : scanner.reader.rest = [] := List.isEmpty_iff.mp ended
      rw [run, if_pos ended, restEq, Token.scanFrom]
      rfl
  | case2 scanner goesOn fault stuck =>
      rw [run, if_neg goesOn, stuck, scanFrom_of_stuck (Bool.eq_false_iff.mpr goesOn) stuck]
      rfl
  | case3 scanner goesOn next turned inductionHypothesis =>
      rw [run, if_neg goesOn, turned, scanFrom_of_turn (Bool.eq_false_iff.mpr goesOn) turned]
      exact inductionHypothesis

/-- The loop over a reader and the recursion over the text yield the same tokens and faults. -/
theorem run_ofString (text : String) : (ofString text).run = Token.scan text := by
  rw [run_eq]
  exact congrFun Except.map_id _

end Scanner
end ScriptLang
