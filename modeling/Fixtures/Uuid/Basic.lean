import Fixtures.Text.Hex
import Fixtures.Uuid.Words

/-!
# `Fixtures.Uuid.Basic`: UUIDs

A UUID is sixteen bytes. Its text has 32 lower-case hexadecimal digits in five groups; reading
takes either letter case and also accepts the digits without the hyphens.
-/

set_option autoImplicit false

namespace Fixtures

/-- A UUID as its sixteen bytes. -/
structure Uuid where
  bytes : Vector UInt8 16
deriving DecidableEq

namespace Uuid

instance : Inhabited Uuid := ⟨⟨Vector.replicate 16 0⟩⟩

/-- The two digits of a byte. -/
def byteDigits (b : UInt8) : List Char :=
  [Nat.digitChar (b.toNat / 16), Nat.digitChar (b.toNat % 16)]

/-- The text of a UUID. -/
def toText (u : Uuid) : String :=
  let digits := u.bytes.toList.flatMap byteDigits
  String.ofList (digits.take 8 ++ '-' :: (digits.drop 8).take 4 ++ '-' :: (digits.drop 12).take 4
    ++ '-' :: (digits.drop 16).take 4 ++ '-' :: digits.drop 20)

/-- Pairs of digits as bytes. -/
def bytesOfDigits? : List Char → Option (List UInt8)
  | [] => some []
  | [_] => none
  | a :: b :: rest => do
    return (16 * (← Text.Hex.digit? a) + (← Text.Hex.digit? b)).toUInt8 :: (← bytesOfDigits? rest)

/-- A text without the hyphens at the four places that may have one; all or none are there. -/
def withoutHyphens (s : List Char) : List Char :=
  if s.length = 36 ∧ [8, 13, 18, 23].all fun i => s[i]? = some '-' then
    s.take 8 ++ (s.drop 9).take 4 ++ (s.drop 14).take 4 ++ (s.drop 19).take 4 ++ s.drop 24
  else
    s

/-- Reads the text of a UUID. -/
def ofText? (text : String) : Option Uuid := do
  let bytes ← bytesOfDigits? (withoutHyphens text.toList)
  if h : bytes.length = 16 then
    return ⟨⟨bytes.toArray, by simpa using h⟩⟩
  else
    none

/-- The UUID of version 4 with the random bytes given: six bits are fixed. -/
def ofRandom (bytes : Vector UInt8 16) : Uuid :=
  ⟨Vector.ofFn fun i =>
    if i.val = 6 then bytes.get i &&& 0x0F ||| 0x40
    else if i.val = 8 then bytes.get i &&& 0x3F ||| 0x80
    else bytes.get i⟩

end Uuid

end Fixtures
