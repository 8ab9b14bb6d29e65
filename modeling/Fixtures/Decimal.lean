/-!
# `Fixtures.Decimal`: numbers in decimal notation

Reading integers and decimal numerals. A `Decimal` is exact: its digits as one integer, scaled by
a power of ten. The digits before or behind the point may be missing, but not both.
-/

set_option autoImplicit false

namespace Fixtures

/-! ### Integers -/

namespace Integer

/-- The sign at the front of a numeral, and the rest. -/
def splitSign : List Char → Bool × List Char
  | '-' :: rest => (true, rest)
  | '+' :: rest => (false, rest)
  | s => (false, s)

/-- The value of one or more digits. -/
def ofDigits? (s : List Char) : Option Nat :=
  if s.isEmpty || !s.all Char.isDigit then none else some (Nat.ofDigitChars 10 s 0)

/-- The least 64-bit integer. -/
def least : Int := -9223372036854775808

/-- The greatest 64-bit integer. -/
def greatest : Int := 9223372036854775807

/-- An integer from −2⁶³ up to 2⁶³ − 1, with or without a sign. -/
def ofText? (s : String) : Option Int := do
  let (negative, digits) := splitSign s.toList
  let n ← ofDigits? digits
  let value : Int := if negative then -n else n
  if least ≤ value ∧ value ≤ greatest then some value else none

/-- An integer from 0 up to 2⁶⁴ − 1. A plus sign may stand before it. -/
def wordOfText? (s : String) : Option Nat := do
  let n ← match s.toList with
    | '+' :: digits => ofDigits? digits
    | digits => ofDigits? digits
  if n < UInt64.size then some n else none

end Integer

/-! ### Numerals with a point and an exponent -/

/-- The number `digits` times ten to the `exponent`. -/
structure Decimal where
  negative : Bool
  digits : Nat
  exponent : Int
deriving DecidableEq

namespace Decimal

/-- The exponent of a numeral: nothing, or a mark, an optional sign and digits. -/
def exponentOf? : List Char → Option Int
  | [] => some 0
  | mark :: rest =>
    if mark = 'e' ∨ mark = 'E' then
      let (negative, digits) := Integer.splitSign rest
      (Integer.ofDigits? digits).map fun n => if negative then -(n : Int) else n
    else
      none

/-- The digits behind the point, and what follows them. -/
def fractionOf : List Char → List Char × List Char
  | '.' :: rest => (rest.takeWhile Char.isDigit, rest.dropWhile Char.isDigit)
  | rest => ([], rest)

/-- A numeral. -/
def ofChars? (s : List Char) : Option Decimal :=
  let (negative, unsigned) := Integer.splitSign s
  let whole := unsigned.takeWhile Char.isDigit
  let (fraction, rest) := fractionOf (unsigned.dropWhile Char.isDigit)
  if whole.isEmpty && fraction.isEmpty then none
  else
    (exponentOf? rest).map fun exponent =>
      { negative, digits := Nat.ofDigitChars 10 (whole ++ fraction) 0,
        exponent := exponent - (fraction.length : Int) }

/-- The text of a number without an exponent: zeros take its place. -/
def toText (d : Decimal) : String :=
  let digits := Nat.toDigits 10 d.digits
  let places := (-d.exponent).toNat
  let padded := List.replicate (places + 1 - digits.length) '0' ++ digits
  let text :=
    if 0 ≤ d.exponent then
      if d.digits = 0 then digits else digits ++ List.replicate d.exponent.toNat '0'
    else padded.take (padded.length - places) ++ '.' :: padded.drop (padded.length - places)
  (if d.negative then "-" else "") ++ String.ofList text

end Decimal

end Fixtures
