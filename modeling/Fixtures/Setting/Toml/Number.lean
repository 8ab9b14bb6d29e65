import Fixtures.Double
import Fixtures.Setting
import Fixtures.Text.Hex

/-!
# `Fixtures.Setting.Toml.Number`: numbers of settings files

Integers of 64 bits in base ten with a sign, or behind the mark of another base without one, and
numbers with a point or an exponent. Underscores may stand between digits, and no zero before
others in base ten.
-/

set_option autoImplicit false

namespace Fixtures.Setting.Toml.Number

/-- The digits of a group without the underscores between them. -/
def ungrouped? (isDigit : Char → Bool) : List Char → Option (List Char)
  | [] => none
  | [c] => if isDigit c then some [c] else none
  | c :: '_' :: rest => if isDigit c then (ungrouped? isDigit rest).map (c :: ·) else none
  | c :: rest => if isDigit c then (ungrouped? isDigit rest).map (c :: ·) else none

/-- The digits of a number in base ten, which start with a zero only if there is no other. -/
def wholeOf? (s : List Char) : Option (List Char) :=
  if s.head? = some '0' ∧ 1 < s.length then none else ungrouped? Char.isDigit s

/-- An integer behind the mark of its base. -/
def inBase? (base : Nat) (s : List Char) : Option Int := do
  let digits ← ungrouped? (fun c => (Text.Hex.digit? c).any (· < base)) s
  let values ← digits.mapM Text.Hex.digit?
  let n := values.foldl (fun n d => base * n + d) 0
  if n ≤ Integer.greatest then some n else none

/-- An integer. -/
def integer? (word : List Char) : Option Int :=
  match word with
  | '0' :: 'x' :: digits => inBase? 16 digits
  | '0' :: 'o' :: digits => inBase? 8 digits
  | '0' :: 'b' :: digits => inBase? 2 digits
  | word => do
    let (isNegative, unsigned) := Integer.splitSign word
    let n := Nat.ofDigitChars 10 (← wholeOf? unsigned) 0
    let value : Int := if isNegative then -n else n
    if Integer.least ≤ value ∧ value ≤ Integer.greatest then some value else none

/-- The characters of a group of digits in base ten. -/
def isGroupChar (c : Char) : Bool := c.isDigit || c == '_'

/-- The digits behind the point, and what follows them. -/
def fractionAt? (s : List Char) : Option (List Char × List Char) :=
  match s with
  | '.' :: rest =>
    (ungrouped? Char.isDigit (rest.takeWhile isGroupChar)).map (·, rest.dropWhile isGroupChar)
  | _ => some ([], s)

/-- The exponent, which takes all of a text. -/
def exponent? (s : List Char) : Option Int :=
  match s with
  | [] => some 0
  | mark :: rest =>
    if mark = 'e' ∨ mark = 'E' then
      let (isNegative, digits) := Integer.splitSign rest
      (ungrouped? Char.isDigit digits).map fun digits =>
        let n := Nat.ofDigitChars 10 digits 0
        if isNegative then -(n : Int) else n
    else none

/-- A number with a point or an exponent. One that is too great is none, but a negative one is
minus infinity. -/
def numeral? (word : List Char) : Option Double := do
  let (negative, unsigned) := Integer.splitSign word
  let whole ← wholeOf? (unsigned.takeWhile isGroupChar)
  let rest := unsigned.dropWhile isGroupChar
  if rest.isEmpty then none
  let (fraction, rest) ← fractionAt? rest
  let exponent ← exponent? rest
  let value := Double.ofDecimal {
    negative, digits := Nat.ofDigitChars 10 (whole ++ fraction) 0,
    exponent := exponent - (fraction.length : Int) }
  if value = .infinite false then none else some value

/-- The words for infinity and for no number. -/
def special? (word : List Char) : Option Double :=
  let (negative, name) := Integer.splitSign word
  match String.ofList name with
  | "inf" => some (.infinite negative)
  | "nan" => some .nan
  | _ => none

/-- A number. -/
def ofWord? (word : List Char) : Option Setting :=
  match integer? word with
  | some n => some (.int n)
  | none => ((numeral? word).or (special? word)).map .real

end Fixtures.Setting.Toml.Number
