/-!
# `Fixtures.Text.Lines`: texts line by line

Formats that go by lines see a text as its parts between line feeds. Inside a line, spaces and
tabs separate words, and a hash starts a remark up to the end.
-/

set_option autoImplicit false

namespace Fixtures.Text.Lines

/-- The parts of a text between line feeds. -/
def cut : List Char → List (List Char)
  | [] => [[]]
  | c :: rest =>
    if c = '\n' then [] :: cut rest
    else
      match cut rest with
      | [] => [[c]]
      | line :: lines => (c :: line) :: lines

/-- The characters between words. -/
def isSpace (c : Char) : Bool := c == ' ' || c == '\t'

/-- A line without spaces at its start. -/
def skipSpaces (s : List Char) : List Char := s.dropWhile isSpace

/-- A line without spaces at its end. -/
def dropSpaces (s : List Char) : List Char := (skipSpaces s.reverse).reverse

/-- Whether nothing is left of a line but a remark. -/
def isRemark : List Char → Bool
  | [] => true
  | c :: _ => c == '#'

end Fixtures.Text.Lines
