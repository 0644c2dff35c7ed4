/-!
# Blank characters

Blank is every character with the Unicode property `White_Space` together with the four information
separators U+001C to U+001F.  Texts are trimmed and tested for being blank with this set; the white
space between the tokens of a document is a smaller one.
-/

namespace ReviewDiagnostics.Text

def isBlank (c : Char) : Bool :=
  let n := c.toNat
  (0x09 ≤ n && n ≤ 0x0d) || (0x1c ≤ n && n ≤ 0x20) || n == 0x85 || n == 0xa0 || n == 0x1680 ||
  (0x2000 ≤ n && n ≤ 0x200a) || n == 0x2028 || n == 0x2029 || n == 0x202f || n == 0x205f ||
  n == 0x3000

/-- The characters of a text without the blank ones at either end. -/
def trim (cs : List Char) : List Char :=
  ((cs.dropWhile isBlank).reverse.dropWhile isBlank).reverse

/-- A text of blank characters only; the empty text is one. -/
def allBlank (s : String) : Bool :=
  s.toList.all isBlank

end ReviewDiagnostics.Text
