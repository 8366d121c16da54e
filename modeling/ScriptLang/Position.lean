/-!
Places in a source file.

Tokens, trees and faults are placed by offsets alone.  A text is one file: the scanner is given its
name, and the reader, the checker and the evaluation place what they report at the tokens that the
scanner made.  They have no other name to report, so the name is added once, where an error leaves
the library.
-/

namespace ScriptLang

structure Position where
  offset : Nat
  file : String
  deriving DecidableEq, Inhabited, Repr

def Position.describe (p : Position) : String :=
  p.file ++ ":" ++ toString p.offset

/-- The bytes from `start` up to, not including, `stop`. -/
structure Span where
  start : Nat
  stop : Nat
  deriving DecidableEq, Inhabited, Repr

end ScriptLang
