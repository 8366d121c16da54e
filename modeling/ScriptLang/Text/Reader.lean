import ScriptLang.Position

/-!
A reader of a text that counts the bytes it has passed.
-/

namespace ScriptLang
namespace Text

structure Reader where
  offset : Nat
  rest : List Char
  deriving DecidableEq, Inhabited, Repr

namespace Reader

def ofString (text : String) : Reader :=
  { offset := 0, rest := text.toList }

/-- The text behind the first `count` bytes, which end at a character's end. -/
def dropBytes : List Char → Nat → List Char
  | [], _ => []
  | c :: rest, count => if count = 0 then c :: rest else dropBytes rest (count - c.utf8Size)

def advance (reader : Reader) (count : Nat) : Reader :=
  { offset := reader.offset + count
    rest := dropBytes reader.rest count }

def atEnd (reader : Reader) : Bool :=
  reader.rest.isEmpty

/-- The next character; the null character stands for the end. -/
def current (reader : Reader) : Char :=
  reader.rest.headD '\x00'

def span (reader : Reader) (count : Nat) : Span :=
  { start := reader.offset, stop := reader.offset + count }

end Reader
end Text
end ScriptLang
