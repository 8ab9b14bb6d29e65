/-!
# `Fixtures.Text.Literal`: string literals of generated source

A text written as a double-quoted literal. Quote and backslash are escaped, line feed, carriage
return and tab have their letters, and every other character stands for itself.
-/

set_option autoImplicit false

namespace Fixtures.Text.Literal

/-- One character of a literal. -/
def encodeChar (c : Char) : List Char :=
  match c with
  | '"' => ['\\', '"']
  | '\\' => ['\\', '\\']
  | '\n' => ['\\', 'n']
  | '\r' => ['\\', 'r']
  | '\t' => ['\\', 't']
  | c => [c]

/-- The characters of a literal, quotes included. -/
def encodeChars (s : List Char) : List Char :=
  '"' :: s.flatMap encodeChar ++ ['"']

/-- A text as a literal. -/
def encode (s : String) : String :=
  String.ofList (encodeChars s.toList)

end Fixtures.Text.Literal
