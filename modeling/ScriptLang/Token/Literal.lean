/-!
Character and string literals.

Between its quotes a literal holds any character but its own quote, a backslash, a newline or
a carriage return, and seven escapes: `\b \n \r \t \' \" \\`.
-/

namespace ScriptLang
namespace Literal

/-- The character that an escape stands for. -/
def escaped? : Char → Option Char
  | 'b' => some '\x08'
  | 'n' => some '\n'
  | 'r' => some '\r'
  | 't' => some '\t'
  | '\'' => some '\''
  | '"' => some '"'
  | '\\' => some '\\'
  | _ => none

def isRaw (quote c : Char) : Bool :=
  c != quote && c != '\\' && c != '\n' && c != '\r'

/-- Reads what follows the opening quote of a character literal: the character, and how many
characters were read up to and with the closing quote. -/
def characterBody? : List Char → Option (Char × Nat)
  | '\\' :: c :: '\'' :: _ => (escaped? c).map fun value => (value, 3)
  | c :: '\'' :: _ => if isRaw '\'' c then some (c, 2) else none
  | _ => none

/-- Reads what follows the opening quote of a string literal: the decoded text, and how many
characters were read up to and with the closing quote. -/
def stringBody? : List Char → Option (List Char × Nat)
  | [] => none
  | '"' :: _ => some ([], 1)
  | '\\' :: c :: rest =>
      match escaped? c, stringBody? rest with
      | some value, some (text, count) => some (value :: text, count + 2)
      | _, _ => none
  | c :: rest =>
      if isRaw '"' c then
        (stringBody? rest).map fun (text, count) => (c :: text, count + 1)
      else
        none

end Literal
end ScriptLang
