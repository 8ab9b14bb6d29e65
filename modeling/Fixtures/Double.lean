import Fixtures.Decimal

/-!
# `Fixtures.Double`: 64-bit floating-point numbers

A finite number is `m * 2 ^ q` with an `m` below 2⁵³ and a `q` from −1074 up to 971, so that all
of its arithmetic is on integers. A decimal is rounded to the nearest of these numbers, a tie to
the one with even `m`. Back from a number, `shortest` is the decimal with the fewest digits that
is rounded to it.
-/

set_option autoImplicit false

namespace Fixtures

/-- A 64-bit floating-point number. -/
inductive Double where
  | nan
  | infinite (negative : Bool)
  /-- The number `m * 2 ^ q`. -/
  | finite (negative : Bool) (m : Nat) (q : Int)
deriving DecidableEq

namespace Double

/-! ### From a decimal -/

/-- A quotient rounded to the nearest integer, a tie to the even one. -/
def roundToEven (num den : Nat) : Nat :=
  let floor := num / den
  if 2 * (num % den) < den ∨ (2 * (num % den) = den ∧ floor % 2 = 0) then floor else floor + 1

/-- The numerator and the denominator of `num / den / 2 ^ q`. -/
def scaleDown (num den : Nat) (q : Int) : Nat × Nat :=
  (num * Nat.pow 2 (-q).toNat, den * Nat.pow 2 q.toNat)

/-- The number nearest to a quotient. -/
def ofQuotient (negative : Bool) (num den : Nat) : Double :=
  if num = 0 then finite negative 0 (-1074)
  else
    let guess : Int := (num.log2 : Int) - den.log2 - 53
    let (n, d) := scaleDown num den guess
    let q := max (if n / d < Nat.pow 2 53 then guess else guess + 1) (-1074)
    let (n, d) := scaleDown num den q
    let m := roundToEven n d
    let (m, q) := if m = Nat.pow 2 53 then (Nat.pow 2 52, q + 1) else (m, q)
    if 971 < q then infinite negative else finite negative m q

/-- The number nearest to a decimal. Beyond 400 places the outcome is known without looking at
the digits. -/
def ofDecimal (d : Decimal) : Double :=
  let size : Int := (Nat.toDigits 10 d.digits).length + d.exponent
  if d.digits = 0 ∨ size < -400 then finite d.negative 0 (-1074)
  else if 400 < size then infinite d.negative
  else ofQuotient d.negative (d.digits * Nat.pow 10 d.exponent.toNat)
    (Nat.pow 10 (-d.exponent).toNat)

/-- The number nearest to an integer. -/
def ofNat (n : Nat) : Double := ofQuotient false n 1

/-- The product of two numbers, rounded. -/
def times : Double → Double → Double
  | finite s m q, finite t n r =>
    ofQuotient (s != t) (m * n * Nat.pow 2 (q + r).toNat) (Nat.pow 2 (-(q + r)).toNat)
  | nan, _ | _, nan => nan
  | infinite s, infinite t => infinite (s != t)
  | infinite s, finite t n _ => if n = 0 then nan else infinite (s != t)
  | finite s m _, infinite t => if m = 0 then nan else infinite (s != t)

/-- Whether a number is finite. -/
def isFinite : Double → Bool
  | finite .. => true
  | _ => false

/-- The words for numbers that have no digits. -/
def ofWord? (s : List Char) : Option Double :=
  let (negative, word) := Integer.splitSign s
  match String.ofList (word.map Char.toLower) with
  | "inf" | "infinity" => some (infinite negative)
  | "nan" => some nan
  | _ => none

/-- Reads a number. -/
def ofText? (s : String) : Option Double :=
  match Decimal.ofChars? s.toList with
  | some d => some (ofDecimal d)
  | none => ofWord? s.toList

/-! ### Back to a decimal -/

/-- How `digits * 10 ^ exponent` compares to `m * 2 ^ q`. -/
def compareScaled (digits : Nat) (exponent : Int) (m : Nat) (q : Int) : Ordering :=
  compare (digits * Nat.pow 10 exponent.toNat * Nat.pow 2 (-q).toNat)
    (m * Nat.pow 2 q.toNat * Nat.pow 10 (-exponent).toNat)

/-- Whether a decimal is rounded to `m * 2 ^ q`: it lies between the middles to both neighbours,
which count when `m` is even. Below a power of two the neighbour is half as far. -/
def isRoundedFrom (m : Nat) (q : Int) (digits : Nat) (exponent : Int) : Bool :=
  let low := if m = Nat.pow 2 52 ∧ -1074 < q then 4 * m - 1 else 4 * m - 2
  let isEven := m % 2 == 0
  let fromLow := compareScaled digits exponent low (q - 2)
  let fromHigh := compareScaled digits exponent (4 * m + 2) (q - 2)
  (fromLow == .gt || (isEven && fromLow == .eq)) && (fromHigh == .lt || (isEven && fromHigh == .eq))

/-- The decimal on the grid of `10 ^ exponent` that is rounded to `m * 2 ^ q`; the nearer one, if
both neighbours are. -/
def onGrid? (m : Nat) (q exponent : Int) : Option Nat :=
  let below :=
    m * Nat.pow 2 q.toNat * Nat.pow 10 (-exponent).toNat
      / (Nat.pow 2 (-q).toNat * Nat.pow 10 exponent.toNat)
  match isRoundedFrom m q below exponent, isRoundedFrom m q (below + 1) exponent with
  | true, true =>
    if compareScaled (2 * below + 1) exponent (2 * m) q == .gt then some below else some (below + 1)
  | true, false => some below
  | false, true => some (below + 1)
  | false, false => none

/-- The least `k` with `m * 2 ^ q < 10 ^ k`. -/
def magnitude (m : Nat) (q : Int) : Int :=
  (Nat.toDigits 10 (m * Nat.pow 2 q.toNat * Nat.pow 10 400 / Nat.pow 2 (-q).toNat)).length - 400

/-- The digits and the exponent of the shortest decimal that is rounded to `m * 2 ^ q`. Seventeen
digits are always enough. A last zero is there only when the decimal is a power of ten, and is
dropped. -/
def shortest (m : Nat) (q : Int) : Nat × Int :=
  if m = 0 then (0, 0)
  else
    let k := magnitude m q
    let grids := (List.range 17).map fun i => k - (i + 1 : Nat)
    let (digits, exponent) :=
      (grids.findSome? fun exponent => (onGrid? m q exponent).map (·, exponent)).getD (0, 0)
    if digits % 10 = 0 then (digits / 10, exponent + 1) else (digits, exponent)

/-- The text of a number. -/
def toText : Double → String
  | nan => "NaN"
  | infinite negative => if negative then "-inf" else "inf"
  | finite negative m q =>
    let (digits, exponent) := shortest m q
    Decimal.toText { negative, digits, exponent }

/-! ### As an integer -/

/-- The nearest integer from 0 up to 2⁶⁴ − 1; a half goes up. -/
def toWord : Double → Nat
  | nan => 0
  | infinite negative => if negative then 0 else UInt64.size - 1
  | finite negative m q =>
    if negative then 0
    else
      let (n, d) := (m * Nat.pow 2 q.toNat, Nat.pow 2 (-q).toNat)
      min ((2 * n + d) / (2 * d)) (UInt64.size - 1)

/-- Whether a number is zero. -/
def isZero : Double → Bool
  | finite _ m _ => m == 0
  | _ => false

end Double

end Fixtures
