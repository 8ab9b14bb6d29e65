/-!
# `Fixtures.Text.Bands`: character classes as bands

A class of characters is written as the ascending list of the code points at which membership
changes: `[a, b, c]` holds the code points from `a` up to `b` (excluded) and all from `c` on.
-/

set_option autoImplicit false

namespace Fixtures.Text

/-- Whether a code point lies in the class: membership changes at every listed point that is
not beyond it. -/
def inBands : List Nat → Nat → Bool
  | [], _ => false
  | b :: bands, n => if n < b then false else !inBands bands n

/-- No code point before the first band is in the class. -/
theorem inBands_of_lt {b : Nat} {bands : List Nat} {n : Nat} (h : n < b) :
    inBands (b :: bands) n = false := by
  rw [inBands, if_pos h]

end Fixtures.Text
