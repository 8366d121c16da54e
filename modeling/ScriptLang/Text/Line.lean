/-!
Lines of a text and byte offsets into it.

A line ends with its newline; a final newline opens no further line.  Offsets count the bytes
of the UTF-8 form.
-/

namespace ScriptLang
namespace Text

def byteSize : List Char → Nat
  | [] => 0
  | c :: rest => c.utf8Size + byteSize rest

/-- The lines of a text, each with the newline that ends it.  They concatenate to the text. -/
def lines : List Char → List (List Char)
  | [] => []
  | c :: rest =>
      if c = '\n' then [c] :: lines rest
      else
        match lines rest with
        | [] => [[c]]
        | line :: more => (c :: line) :: more

theorem byteSize_append (left right : List Char) :
    byteSize (left ++ right) = byteSize left + byteSize right := by
  induction left with
  | nil =>
      simp only [List.nil_append, byteSize, Nat.zero_add]
  | cons c rest inductionHypothesis =>
      simp only [List.cons_append, byteSize]
      rw [inductionHypothesis, Nat.add_assoc]

theorem flatten_lines (text : List Char) :
    (lines text).flatten = text := by
  induction text with
  | nil =>
      rfl
  | cons c rest inductionHypothesis =>
      unfold lines
      by_cases isNewline : c = '\n'
      · rw [if_pos isNewline]
        simp only [List.flatten_cons, List.cons_append, List.nil_append]
        rw [inductionHypothesis]
      · rw [if_neg isNewline]
        cases linesEq : lines rest with
        | nil =>
            rw [linesEq] at inductionHypothesis
            rw [← inductionHypothesis]
            rfl
        | cons line more =>
            rw [linesEq] at inductionHypothesis
            rw [← inductionHypothesis]
            rfl

/-- A line without its terminator: a newline, or a carriage return and a newline. -/
def withoutTerminator (line : List Char) : List Char :=
  match line.reverse with
  | '\n' :: '\r' :: rest => rest.reverse
  | '\n' :: rest => rest.reverse
  | _ => line

/-- A place in a text: the line's number from one, the line, and the offset in it. -/
structure Place where
  number : Nat
  line : List Char
  column : Nat
  deriving DecidableEq, Repr

def placeFrom : Nat → List (List Char) → Nat → Option Place
  | _, [], _ => none
  | number, line :: rest, offset =>
      if offset < byteSize line then
        some { number := number, line := line, column := offset }
      else
        placeFrom (number + 1) rest (offset - byteSize line)

/-- The place just behind the last line, which is shown without its terminator. -/
def endPlace (all : List (List Char)) : Option Place :=
  all.getLast?.map fun line =>
    { number := all.length
      line := withoutTerminator line
      column := byteSize (withoutTerminator line) }

/-- The place of a byte offset.  There is none in an empty text or beyond its end. -/
def placeAt (text : List Char) (offset : Nat) : Option Place :=
  if offset = byteSize text then endPlace (lines text)
  else placeFrom 1 (lines text) offset

end Text
end ScriptLang
