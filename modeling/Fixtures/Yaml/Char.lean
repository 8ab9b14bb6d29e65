/-!
# `Fixtures.Yaml.Char`: the characters of YAML

Line breaks, blanks, and what characters a document may hold. Five characters break a line; the
two separators of Unicode stand for themselves in a text, and every other break for a line feed.
-/

set_option autoImplicit false

namespace Fixtures.Yaml

/-- The separators that break a line and stand for themselves. -/
def isSeparator (c : Char) : Bool := c.toNat == 0x2028 || c.toNat == 0x2029

/-- The line breaks. -/
def isBreak (c : Char) : Bool :=
  c == '\n' || c == '\r' || c.toNat == 0x85 || isSeparator c

/-- Spaces and tabs. -/
def isBlank (c : Char) : Bool := c == ' ' || c == '\t'

/-- Blanks and line breaks. -/
def isGap (c : Char) : Bool := isBlank c || isBreak c

/-- Whether the end or a gap comes next. -/
def gapFollows : List Char → Bool
  | [] => true
  | c :: _ => isGap c

/-- The mark that may stand before a document. -/
def byteOrderMark : Char := '\ufeff'

/-- The characters that a document may hold. -/
def isAllowed (c : Char) : Bool :=
  let n := c.toNat
  n == 0x09 || n == 0x0A || n == 0x0D || (0x20 ≤ n && n ≤ 0x7E) || n == 0x85
    || (0xA0 ≤ n && n != 0xFFFE && n != 0xFFFF)

/-- The characters of names such as those of anchors. -/
def isNameChar (c : Char) : Bool := c.isAlphanum || c == '_' || c == '-'

/-- The characters that end a plain text in flow style. -/
def isFlowIndicator (c : Char) : Bool := [',', '[', ']', '\x7b', '\x7d'].contains c

/-- The characters that a plain text cannot start with. -/
def isLeadingIndicator (c : Char) : Bool :=
  isFlowIndicator c
    || ['#', '&', '*', '!', '|', '>', '\'', '"', '%', '@', '\x60'].contains c

/-- Whether a document marker stands at the front: three dashes or three dots, and a gap. -/
def markerAt (mark : Char) : List Char → Bool
  | a :: b :: c :: rest => a == mark && b == mark && c == mark && gapFollows rest
  | _ => false

/-- Whether either document marker stands at the front. -/
def anyMarkerAt (s : List Char) : Bool := markerAt '-' s || markerAt '.' s

end Fixtures.Yaml
