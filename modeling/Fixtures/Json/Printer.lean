import Fixtures.Json.Basic

/-!
# `Fixtures.Json.Printer`: JSON text

Two layouts of one value. `compact` writes no blanks. `pretty` puts every item and every member
on a line of its own, two spaces deeper than the brackets around it; an empty array or object
stays on one line. In strings, quotes, backslashes and controls are escaped.
-/

set_option autoImplicit false

namespace Fixtures.Json

/-- A control character by its code point, in four hexadecimal digits. -/
def controlEscape (c : Char) : List Char :=
  let digits := Nat.toDigits 16 c.toNat
  '\\' :: 'u' :: (List.replicate (4 - digits.length) '0' ++ digits)

/-- One character of a JSON string. -/
def escapeChar (c : Char) : List Char :=
  match c with
  | '"' => ['\\', '"']
  | '\\' => ['\\', '\\']
  | '\n' => ['\\', 'n']
  | '\r' => ['\\', 'r']
  | '\t' => ['\\', 't']
  | '\x08' => ['\\', 'b']
  | '\x0c' => ['\\', 'f']
  | c => if c.toNat < 32 then controlEscape c else [c]

/-- A text as a JSON string. -/
def quoted (s : String) : String :=
  String.ofList ('"' :: s.toList.flatMap escapeChar ++ ['"'])

/-- A value without parts. -/
def scalarText : Json → String
  | null => "null"
  | bool true => "true"
  | bool false => "false"
  | int n => toString n
  | decimal text => text
  | str s => quoted s
  | arr _ => "[]"
  | obj _ => "\x7b\x7d"
  | unreadable => "null"

mutual

/-- A value without blanks. -/
def compact : Json → String
  | arr items => "[" ++ ",".intercalate (compactAll items) ++ "]"
  | obj members => "\x7b" ++ ",".intercalate (compactMembers members) ++ "\x7d"
  | other => other.scalarText

/-- Values without blanks. -/
def compactAll : List Json → List String
  | [] => []
  | j :: rest => j.compact :: compactAll rest

/-- Members without blanks. -/
def compactMembers : List (String × Json) → List String
  | [] => []
  | (key, j) :: rest => (quoted key ++ ":" ++ j.compact) :: compactMembers rest

end

/-- Lines between brackets, two spaces deeper than `indent`. -/
def block (indent opening closing : String) (lines : List String) : String :=
  opening ++ "\n" ++ ",\n".intercalate (lines.map fun line => indent ++ "  " ++ line)
    ++ "\n" ++ indent ++ closing

mutual

/-- A value with its inner lines two spaces deeper than `indent`. -/
def prettyAt (indent : String) : Json → String
  | arr (j :: rest) => block indent "[" "]" (prettyAll (indent ++ "  ") (j :: rest))
  | obj (m :: rest) => block indent "\x7b" "\x7d" (prettyMembers (indent ++ "  ") (m :: rest))
  | other => other.scalarText

/-- Values whose inner lines are two spaces deeper than `indent`. -/
def prettyAll (indent : String) : List Json → List String
  | [] => []
  | j :: rest => j.prettyAt indent :: prettyAll indent rest

/-- Members whose inner lines are two spaces deeper than `indent`. -/
def prettyMembers (indent : String) : List (String × Json) → List String
  | [] => []
  | (key, j) :: rest => (quoted key ++ ": " ++ j.prettyAt indent) :: prettyMembers indent rest

end

/-- A value with one item or member a line. -/
def pretty (j : Json) : String := j.prettyAt ""

end Fixtures.Json
