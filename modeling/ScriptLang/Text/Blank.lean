/-!
Blank characters: those with the Unicode `White_Space` property.
-/

namespace ScriptLang
namespace Text

/-- The `White_Space` characters: six controls, the spaces and the two separators.  The
zero-width characters `U+200B` and `U+FEFF` are not among them. -/
def isBlank (c : Char) : Bool :=
  let n := c.toNat
  (0x09 ≤ n && n ≤ 0x0D) || n == 0x20 || n == 0x85 || n == 0xA0 || n == 0x1680
    || (0x2000 ≤ n && n ≤ 0x200A) || n == 0x2028 || n == 0x2029 || n == 0x202F
    || n == 0x205F || n == 0x3000

def trimEnd (text : List Char) : List Char :=
  (text.reverse.dropWhile isBlank).reverse

end Text
end ScriptLang
