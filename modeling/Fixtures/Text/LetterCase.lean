import Fixtures.Text.Bands
import Fixtures.Text.LetterCase.Tables

/-!
# `Fixtures.Text.LetterCase`: upper and lower case of any text

The full case mappings of Unicode. A character may have several characters as its other case
(`ß` has `SS`), and a capital sigma becomes `ς` at the end of a word and `σ` elsewhere. Below
128 the mappings are those of the basic alphabet (`upper_ascii`, `lower_ascii`), so the tables
are consulted for the other characters only.
-/

set_option autoImplicit false

namespace Fixtures.Text.LetterCase

/-- Where a run sends a code point, if the code point is a member. -/
def Run.target? (r : Run) (n : Nat) : Option Nat :=
  if r.first ≤ n ∧ n ≤ r.last ∧ (n - r.first) % r.stride = 0 then
    some (r.target + (n - r.first))
  else
    none

/-- The mapping that two tables describe: sequences first, then runs, and a character in neither
is its own image. -/
def mapped (sequences : List (Nat × List Nat)) (runs : List Run) (c : Char) : List Char :=
  match sequences.lookup c.toNat with
  | some image => image.map Char.ofNat
  | none =>
    match runs.findSome? fun r => r.target? c.toNat with
    | some n => [Char.ofNat n]
    | none => [c]

/-- The upper case of a character. -/
def upper (c : Char) : List Char :=
  if c.toNat < 128 then [c.toUpper] else mapped upperSequences upperRuns c

/-- The lower case of a character out of context. -/
def lower (c : Char) : List Char :=
  if c.toNat < 128 then [c.toLower] else mapped lowerSequences lowerRuns c

/-- Characters that have case or mark it. -/
def isCased (c : Char) : Bool :=
  inBands casedBands c.toNat

/-- Characters that are passed over when one looks for the next cased one. -/
def isCaseIgnorable (c : Char) : Bool :=
  inBands caseIgnorableBands c.toNat

/-- Whether the first character that counts for case is cased. -/
def meetsCased (s : List Char) : Bool :=
  match s.dropWhile isCaseIgnorable with
  | [] => false
  | c :: _ => isCased c

/-- Lower case of the text that follows `before`, which is given in reverse. A capital sigma is
final when a cased character comes before it and none after it. -/
def lowerAfter (before : List Char) : List Char → List Char
  | [] => []
  | c :: rest =>
    let image :=
      if c = 'Σ' then
        [if meetsCased before && !meetsCased rest then 'ς' else 'σ']
      else
        lower c
    image ++ lowerAfter (c :: before) rest

/-- The upper case of a text. -/
def upperText (s : String) : String :=
  String.ofList (s.toList.flatMap upper)

/-- The lower case of a text. -/
def lowerText (s : String) : String :=
  String.ofList (lowerAfter [] s.toList)

/-- Upper case of the basic alphabet is core's. -/
theorem upper_ascii (c : Char) (h : c.toNat < 128) : upper c = [c.toUpper] := by
  simp [upper, h]

/-- Lower case of the basic alphabet is core's. -/
theorem lower_ascii (c : Char) (h : c.toNat < 128) : lower c = [c.toLower] := by
  simp [lower, h]

end Fixtures.Text.LetterCase
