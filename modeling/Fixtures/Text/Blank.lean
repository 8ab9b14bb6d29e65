/-!
# `Fixtures.Text.Blank`: white space

The white space of every text format of this library is the Unicode property White_Space: the
ASCII blanks, the two no-break spaces, the typographic spaces and the line and paragraph
separators. Zero-width characters are not blank. The class is wider than the one that core knows,
which has ASCII blanks only.
-/

set_option autoImplicit false

namespace Fixtures.Text

/-- The characters with the property White_Space. -/
def isBlank (c : Char) : Bool :=
  let n := c.toNat
  (9 ≤ n && n ≤ 13) || n == 0x20 || n == 0x85 || n == 0xA0 || n == 0x1680
    || (0x2000 ≤ n && n ≤ 0x200A) || n == 0x2028 || n == 0x2029 || n == 0x202F
    || n == 0x205F || n == 0x3000

/-- Drops the blanks at the end. -/
def trimEndChars (s : List Char) : List Char :=
  (s.reverse.dropWhile isBlank).reverse

/-- Drops the blanks at both ends. -/
def trimChars (s : List Char) : List Char :=
  trimEndChars (s.dropWhile isBlank)

/-- Drops the blanks at the end. -/
def trimEnd (s : String) : String :=
  String.ofList (trimEndChars s.toList)

/-- Drops the blanks at both ends. -/
def trim (s : String) : String :=
  String.ofList (trimChars s.toList)

/-- A text is blank when it holds nothing but blanks; the empty text is. -/
def isBlankText (s : String) : Bool :=
  s.toList.all isBlank

end Fixtures.Text
