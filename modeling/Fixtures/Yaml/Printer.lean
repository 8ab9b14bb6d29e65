import Fixtures.Json.Printer
import Fixtures.Yaml.Scalar.Written

/-!
# `Fixtures.Yaml.Printer`: YAML text

Values in block style: a member or an item a line, what is inside a member two spaces deeper. The
items of a list stand no deeper than the key before them. An empty list or object is written in
brackets.
-/

set_option autoImplicit false

namespace Fixtures.Yaml

/-- A text up to the end of its last line. -/
def withLineEnd (s : List Char) : List Char :=
  if s.getLast?.any isBreak then s else s ++ ['\n']

/-- The parts of a collection, each at the same depth as the first one. -/
def stacked (depth : Nat) (parts : List (List Char)) : List Char :=
  (Written.margin depth).intercalate parts

mutual

/-- A value behind a dash, or at its depth. Texts stand at least two spaces deep. -/
def valueText (depth : Nat) : Json → List Char
  | .arr (j :: rest) => stacked depth (itemTexts depth (j :: rest))
  | .obj (m :: rest) => stacked depth (memberTexts depth (m :: rest))
  | .str s => withLineEnd (Written.scalar (max depth 2) s)
  | other => withLineEnd other.scalarText.toList

/-- The items of a list at a depth. -/
def itemTexts (depth : Nat) : List Json → List (List Char)
  | [] => []
  | j :: rest => ('-' :: ' ' :: valueText (depth + 2) j) :: itemTexts depth rest

/-- The members of an object at a depth. -/
def memberTexts (depth : Nat) : List (String × Json) → List (List Char)
  | [] => []
  | (key, j) :: rest => (Written.key key ++ ':' :: memberValue depth j) :: memberTexts depth rest

/-- The value of a member behind the colon. -/
def memberValue (depth : Nat) : Json → List Char
  | .arr (j :: rest) =>
    '\n' :: (Written.margin depth ++ stacked depth (itemTexts depth (j :: rest)))
  | .obj (m :: rest) =>
    let depth := depth + 2
    '\n' :: (Written.margin depth ++ stacked depth (memberTexts depth (m :: rest)))
  | .str s => ' ' :: withLineEnd (Written.scalar (depth + 2) s)
  | other => ' ' :: withLineEnd other.scalarText.toList

end

/-- A value as a document. -/
def print (j : Json) : String := String.ofList (valueText 0 j)

end Fixtures.Yaml
