import Fixtures.Text.Bands
import Fixtures.Text.Visible.Tables

/-!
# `Fixtures.Text.Visible`: text as a diagnostic shows it

Diagnostics quote a text so that every character of it can be seen: quotes and backslashes are
escaped, the common controls have letters, and a character that has no visible form of its own
or that would merge with the one before it is written as its code point.
-/

set_option autoImplicit false

namespace Fixtures.Text.Visible

/-- Whether a character is shown as itself. -/
def isPlain (c : Char) : Bool :=
  if c.toNat < 128 then
    32 ≤ c.toNat && c.toNat < 127
  else
    !inBands extendingBands c.toNat && !inBands hiddenBands c.toNat

/-- A code point in hexadecimal between braces. -/
def codePoint (c : Char) : List Char :=
  ['\\', 'u', '{'] ++ Nat.toDigits 16 c.toNat ++ ['}']

/-- One character of a quoted text. -/
def shownChar (c : Char) : List Char :=
  match c with
  | '\x00' => ['\\', '0']
  | '\t' => ['\\', 't']
  | '\r' => ['\\', 'r']
  | '\n' => ['\\', 'n']
  | '\\' => ['\\', '\\']
  | '"' => ['\\', '"']
  | c => if isPlain c then [c] else codePoint c

/-- A text between double quotes. -/
def shown (s : String) : String :=
  String.ofList (['"'] ++ s.toList.flatMap shownChar ++ ['"'])

end Fixtures.Text.Visible
