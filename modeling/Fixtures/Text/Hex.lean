/-!
# `Fixtures.Text.Hex`: hexadecimal digits

The value of digits in base sixteen, of either letter case, and the characters that escapes by
code point stand for.
-/

set_option autoImplicit false

namespace Fixtures.Text.Hex

/-- The value of a digit. -/
def digit? (c : Char) : Option Nat :=
  if c.isDigit then some (c.toNat - 48)
  else if 'a' ≤ c ∧ c ≤ 'f' then some (c.toNat - 87)
  else if 'A' ≤ c ∧ c ≤ 'F' then some (c.toNat - 55)
  else none

/-- The value of digits. -/
def value? (digits : List Char) : Option Nat := do
  return (← digits.mapM digit?).foldl (fun n d => 16 * n + d) 0

/-- The character whose code point has some digits. Surrogates are no characters. -/
def codePoint? (digits : List Char) : Option Char := do
  let n ← value? digits
  if n < 0xD800 ∨ (0xDFFF < n ∧ n < 0x110000) then some (Char.ofNat n) else none

end Fixtures.Text.Hex
