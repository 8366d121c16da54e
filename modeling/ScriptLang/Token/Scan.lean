import ScriptLang.Error.Basic
import ScriptLang.Text.Blank
import ScriptLang.Text.Line
import ScriptLang.Token.Basic
import ScriptLang.Token.Literal

/-!
From text to tokens.

At every offset one lexeme is read: a word, a number, a character or string literal, an
operator or punctuation mark, or blanks and comments, which leave no token.  The lexeme is the
longest one that fits.
-/

namespace ScriptLang

/-- What was read at an offset: a token's kind and text, or nothing for blanks and comments,
and the number of characters read behind the first one. -/
structure Lexeme where
  content : Option (Kind × String)
  more : Nat
  deriving DecidableEq, Repr

namespace Lexeme

def isWordStart (c : Char) : Bool :=
  c.isAlpha || c == '_'

def isWordChar (c : Char) : Bool :=
  c.isAlpha || c.isDigit || c == '_'

def word (c : Char) (rest : List Char) : Lexeme :=
  let tail := rest.takeWhile isWordChar
  let text := String.ofList (c :: tail)
  { content := some (Kind.ofWord text, text)
    more := tail.length }

def number (c : Char) (rest : List Char) : Lexeme :=
  let tail := rest.takeWhile Char.isDigit
  match rest.drop tail.length with
  | '.' :: behind =>
      let fraction := behind.takeWhile Char.isDigit
      if fraction.isEmpty then
        { content := some (.integer, String.ofList (c :: tail))
          more := tail.length }
      else
        { content := some (.decimal, String.ofList (c :: tail ++ '.' :: fraction))
          more := tail.length + 1 + fraction.length }
  | _ =>
      { content := some (.integer, String.ofList (c :: tail))
        more := tail.length }

def firstLine (text : List Char) : String :=
  String.ofList (Text.withoutTerminator ((Text.lines text).headD []))

def brokenLiteral (text : List Char) (what : String) : Cause :=
  .unexpectedTokenDetailed (firstLine text) ("unterminated or invalid " ++ what)

/-- The first operator or punctuation mark in the list that a text starts with. -/
def mark? (text : List Char) : Option Lexeme :=
  Kind.marks.findSome? fun kind =>
    match kind.spelling? with
    | some spelling =>
        if spelling.toList.isPrefixOf text then
          some { content := some (kind, spelling)
                 more := spelling.toList.length - 1 }
        else
          none
    | none => none

/-- Reads one lexeme of a text that starts with `c`. -/
def read (c : Char) (rest : List Char) : Except Cause Lexeme :=
  if isWordStart c then .ok (word c rest)
  else if c.isDigit then .ok (number c rest)
  else if Text.isBlank c then
    .ok { content := none, more := (rest.takeWhile Text.isBlank).length }
  else if c == '/' && rest.head? == some '/' then
    .ok { content := none, more := (rest.takeWhile (· != '\n')).length }
  else if c == '\'' then
    match Literal.characterBody? rest with
    | some (value, count) => .ok { content := some (.character, value.toString), more := count }
    | none => .error (brokenLiteral (c :: rest) "character")
  else if c == '"' then
    match Literal.stringBody? rest with
    | some (value, count) => .ok { content := some (.string, String.ofList value), more := count }
    | none => .error (brokenLiteral (c :: rest) "string")
  else
    match mark? (c :: rest) with
    | some lexeme => .ok lexeme
    | none => .error (.unrecognisedToken c.toString)

def token? (lexeme : Lexeme) (span : Span) : Option Token :=
  lexeme.content.map fun (kind, value) => { kind := kind, value := value, span := span }

end Lexeme

namespace Token

/-- The tokens of a text that starts at the given offset, with the final end of source.  The
first text that is no lexeme stops the scan. -/
def scanFrom (offset : Nat) : List Char → Except Fault (List Token)
  | [] => .ok [endOfSource offset]
  | c :: rest =>
      match Lexeme.read c rest with
      | .error cause => .error { cause := cause, offset := offset }
      | .ok lexeme =>
          let stop := offset + Text.byteSize (c :: rest.take lexeme.more)
          match scanFrom stop (rest.drop lexeme.more) with
          | .error fault => .error fault
          | .ok tokens =>
              .ok ((lexeme.token? { start := offset, stop := stop }).toList ++ tokens)
termination_by text => text.length
decreasing_by
  simp only [List.length_drop, List.length_cons]
  omega

def scan (source : String) : Except Fault (List Token) :=
  scanFrom 0 source.toList

end Token
end ScriptLang
