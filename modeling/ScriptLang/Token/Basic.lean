import ScriptLang.Position

/-!
Tokens.

A token has a kind, the text it stands for and the bytes it spans.  For a character or string
literal that text is the decoded one, without its quotes and escapes.
-/

namespace ScriptLang

inductive Kind where
  | eof
  | identifier
  | integer
  | decimal
  | character
  | string
  | openBracket
  | closeBracket
  | openParen
  | closeParen
  | assignment
  | equals
  | notEquals
  | less
  | greater
  | or
  | and
  | semicolon
  | colon
  | comma
  | plus
  | dash
  | slash
  | star
  | caret
  | listWord
  | varWord
  | valWord
  | funWord
  | doWord
  | endWord
  | letWord
  | switchWord
  | caseWord
  | defaultWord
  | ifWord
  | elseWord
  | whileWord
  | returnWord
  | trueWord
  | falseWord
  | nilWord
  deriving DecidableEq, Inhabited, Repr

namespace Kind

def name : Kind → String
  | eof => "EOF"
  | identifier => "Identifier"
  | integer => "Integer"
  | decimal => "Decimal"
  | character => "Character"
  | string => "String"
  | openBracket => "OpenBracket"
  | closeBracket => "CloseBracket"
  | openParen => "OpenParen"
  | closeParen => "CloseParen"
  | assignment => "Assignment"
  | equals => "Equals"
  | notEquals => "NotEquals"
  | less => "Less"
  | greater => "Greater"
  | or => "Or"
  | and => "And"
  | semicolon => "Semicolon"
  | colon => "Colon"
  | comma => "Comma"
  | plus => "Plus"
  | dash => "Dash"
  | slash => "Slash"
  | star => "Star"
  | caret => "Caret"
  | listWord => "List"
  | varWord => "Var"
  | valWord => "Val"
  | funWord => "Fun"
  | doWord => "Do"
  | endWord => "End"
  | letWord => "Let"
  | switchWord => "Switch"
  | caseWord => "Case"
  | defaultWord => "Default"
  | ifWord => "If"
  | elseWord => "Else"
  | whileWord => "While"
  | returnWord => "Return"
  | trueWord => "True"
  | falseWord => "False"
  | nilWord => "Nil"

/-- The spelling of an operator, a punctuation mark or a reserved word; `none` for the kinds
whose text varies, and for the end of the source. -/
def spelling? : Kind → Option String
  | eof | identifier | integer | decimal | character | string => none
  | openBracket => some "["
  | closeBracket => some "]"
  | openParen => some "("
  | closeParen => some ")"
  | assignment => some "="
  | equals => some "=="
  | notEquals => some "!="
  | less => some "<"
  | greater => some ">"
  | or => some "||"
  | and => some "&&"
  | semicolon => some ";"
  | colon => some ":"
  | comma => some ","
  | plus => some "+"
  | dash => some "-"
  | slash => some "/"
  | star => some "*"
  | caret => some "^"
  | listWord => some "LIST"
  | varWord => some "VAR"
  | valWord => some "VAL"
  | funWord => some "FUN"
  | doWord => some "DO"
  | endWord => some "END"
  | letWord => some "LET"
  | switchWord => some "SWITCH"
  | caseWord => some "CASE"
  | defaultWord => some "DEFAULT"
  | ifWord => some "IF"
  | elseWord => some "ELSE"
  | whileWord => some "WHILE"
  | returnWord => some "RETURN"
  | trueWord => some "TRUE"
  | falseWord => some "FALSE"
  | nilWord => some "NIL"

/-- The operators and punctuation marks, the longer ones before those they start with. -/
def marks : List Kind :=
  [openBracket, closeBracket, openParen, closeParen, equals, notEquals, assignment, less,
    greater, or, and, semicolon, colon, comma, plus, dash, slash, star, caret]

def reservedWords : List Kind :=
  [listWord, varWord, valWord, funWord, doWord, endWord, letWord, switchWord, caseWord,
    defaultWord, ifWord, elseWord, whileWord, returnWord, trueWord, falseWord, nilWord]

def all : List Kind :=
  [eof, identifier, integer, decimal, character, string] ++ marks ++ reservedWords

/-- The kind of a word: a reserved word or an identifier. -/
def ofWord (word : String) : Kind :=
  (reservedWords.find? fun kind => kind.spelling? == some word).getD identifier

def ofName? (name : String) : Option Kind :=
  all.find? fun kind => kind.name == name

end Kind

structure Token where
  kind : Kind
  value : String
  span : Span
  deriving DecidableEq, Inhabited, Repr

namespace Token

def endOfSource (offset : Nat) : Token :=
  { kind := .eof
    value := "EOF"
    span := { start := offset, stop := offset } }

def describe (token : Token) : String :=
  "Token \x7b\nkind: " ++ token.kind.name ++ ",\nvalue: " ++ token.value ++ "\x7d"

end Token
end ScriptLang
