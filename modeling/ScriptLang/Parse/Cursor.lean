import ScriptLang.Error.Basic
import ScriptLang.Token.Basic

/-!
A cursor over a list of tokens, and the readers that move it.

The cursor never leaves the last token, which is the end of the source.  A reader that fails
leaves the cursor where the failure was found.
-/

namespace ScriptLang

/-- The tokens passed, the latest first, the current token, and those ahead. -/
structure Cursor where
  passed : List Token
  current : Token
  ahead : List Token
  deriving Inhabited

namespace Cursor

/-- The cursor at the first of the given tokens.  An end of source is added where the last
token is none. -/
def ofTokens (tokens : List Token) : Cursor :=
  let closing :=
    match tokens.getLast? with
    | none => [Token.endOfSource 0]
    | some last => if last.kind = .eof then [] else [Token.endOfSource last.span.stop]
  match tokens ++ closing with
  | [] => default
  | first :: ahead => { passed := [], current := first, ahead := ahead }

def tokens (c : Cursor) : List Token :=
  c.passed.reverse ++ c.current :: c.ahead

def remaining (c : Cursor) : Nat :=
  c.ahead.length + 1

/-- Moves past the current token unless it is the last one. -/
def next (c : Cursor) : Cursor :=
  match c.ahead with
  | [] => c
  | token :: ahead => { passed := c.current :: c.passed, current := token, ahead := ahead }

theorem tokens_next (c : Cursor) : c.next.tokens = c.tokens := by
  unfold next tokens
  cases aheadEq : c.ahead with
  | nil =>
      simp only [aheadEq]
  | cons token ahead =>
      simp only [List.reverse_cons, List.append_assoc, List.cons_append, List.nil_append]

def offset (c : Cursor) : Nat :=
  c.current.span.start

/-- The end of the token passed last; zero at the first token. -/
def previousEnd (c : Cursor) : Nat :=
  match c.passed with
  | [] => 0
  | token :: _ => token.span.stop

end Cursor

abbrev Parse (α : Type) := EStateM Fault Cursor α

namespace Parse

def fail {α : Type} (cause : Cause) (offset : Nat) : Parse α :=
  throw { cause := cause, offset := offset }

def currentToken : Parse Token :=
  return (← get).current

def currentKind : Parse Kind :=
  return (← get).current.kind

def offset : Parse Nat :=
  return (← get).offset

def previousEnd : Parse Nat :=
  return (← get).previousEnd

def hasTokens : Parse Bool :=
  return (← currentKind) != .eof

def advance : Parse Token :=
  modifyGet fun c => (c.current, c.next)

def unexpectedFault (token : Token) : Fault :=
  { cause := .unexpectedToken token.value, offset := token.span.start }

def unexpected {α : Type} : Parse α := do
  throw (unexpectedFault (← currentToken))

def complain {α : Type} (detail : String) : Parse α := do
  let token ← currentToken
  fail (.unexpectedTokenDetailed token.value detail) token.span.start

def expectOr (kind : Kind) (detail : String) : Parse Token := do
  if (← currentKind) = kind then advance else complain detail

def expect (kind : Kind) : Parse Token :=
  expectOr kind ("expected " ++ kind.name)

def identifier (context : String) : Parse String :=
  return (← expectOr .identifier ("expected identifier " ++ context)).value

def spanFrom (start : Nat) : Parse Span :=
  return { start := start, stop := ← previousEnd }

/-- Runs a reader with as much fuel as any nesting of the remaining tokens can use up. -/
def fuelled {α : Type} (reader : Nat → Parse α) : Parse α := do
  reader (8 * ((← get).remaining + 1))

end Parse
end ScriptLang
