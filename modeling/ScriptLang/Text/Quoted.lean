import ScriptLang.Text.Printable
import ScriptLang.Text.Extending

/-!
Quoted text.

A quoted text stands between double quotes and shows every character by something printable:
the quote, the backslash and four controls by a backslash and a letter, any other character
that is unprintable or only extends its neighbour by its code point in hexadecimal.
-/

namespace ScriptLang
namespace Text

def hexadecimal (n : Nat) : String :=
  String.ofList (Nat.toDigits 16 n)

def quotedChar (c : Char) : String :=
  match c with
  | '\x00' => "\\0"
  | '\t' => "\\t"
  | '\r' => "\\r"
  | '\n' => "\\n"
  | '\\' => "\\\\"
  | '"' => "\\\""
  | _ =>
    if isExtending c || !isPrintable c then
      "\\u\x7b" ++ hexadecimal c.toNat ++ "\x7d"
    else
      c.toString

def quoted (text : String) : String :=
  "\"" ++ String.join (text.toList.map quotedChar) ++ "\""

end Text
end ScriptLang
