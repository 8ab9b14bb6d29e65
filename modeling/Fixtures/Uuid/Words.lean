/-!
# `Fixtures.Uuid.Words`: 32-bit words and their bytes

The digest and the keystream behind reproducible UUIDs stir sixteen 32-bit words in the same way,
the one with rotations to the right and with the words of a message, the other with rotations to
the left and without. Words are read from and written to bytes with the lowest byte first, and
missing bytes count as zero.
-/

set_option autoImplicit false

namespace Fixtures.Uuid

/-- A state of sixteen words. -/
abbrev Block := Vector UInt32 16

/-- A key of eight words. -/
abbrev Key := Vector UInt32 8

/-- Rotates a word to the left; `n` is below 32. -/
def rotateLeft (x n : UInt32) : UInt32 := (x <<< n) ||| (x >>> (32 - n))

/-- Rotates a word to the right; `n` is below 32. -/
def rotateRight (x n : UInt32) : UInt32 := (x >>> n) ||| (x <<< (32 - n))

namespace Block

/-- Stirs two more words into four words of the state. -/
def mix (rotate : UInt32 → UInt32 → UInt32) (s : Block) (a b c d : Fin 16) (x y : UInt32) : Block :=
  let sa := s.get a + s.get b + x
  let sd := rotate (s.get d ^^^ sa) 16
  let sc := s.get c + sd
  let sb := rotate (s.get b ^^^ sc) 12
  let sa := sa + sb + y
  let sd := rotate (sd ^^^ sa) 8
  let sc := sc + sd
  let sb := rotate (sb ^^^ sc) 7
  (((s.set a sa a.isLt).set b sb b.isLt).set c sc c.isLt).set d sd d.isLt

/-- Stirs every word of the state, first by the columns and then by the diagonals of the square
that the words form. -/
def round (rotate : UInt32 → UInt32 → UInt32) (s m : Block) : Block :=
  let s := s.mix rotate 0 4 8 12 m[0] m[1]
  let s := s.mix rotate 1 5 9 13 m[2] m[3]
  let s := s.mix rotate 2 6 10 14 m[4] m[5]
  let s := s.mix rotate 3 7 11 15 m[6] m[7]
  let s := s.mix rotate 0 5 10 15 m[8] m[9]
  let s := s.mix rotate 1 6 11 12 m[10] m[11]
  let s := s.mix rotate 2 7 8 13 m[12] m[13]
  s.mix rotate 3 4 9 14 m[14] m[15]

/-- The places that a message takes its words from when it is shuffled. -/
def order : Vector (Fin 16) 16 :=
  #v[2, 6, 3, 10, 7, 0, 4, 13, 1, 11, 12, 5, 9, 14, 15, 8]

/-- The words of a message in the order for the next round. -/
def shuffle (m : Block) : Block := order.map m.get

end Block

/-- The bytes of a word. -/
def wordBytes (x : UInt32) : List UInt8 :=
  [x.toUInt8, (x >>> 8).toUInt8, (x >>> 16).toUInt8, (x >>> 24).toUInt8]

/-- The bytes of a 64-bit number. -/
def longBytes (x : UInt64) : List UInt8 :=
  wordBytes x.toUInt32 ++ wordBytes (x >>> 32).toUInt32

/-- The word at a place of a byte list that counts words. -/
def wordAt (bytes : List UInt8) (i : Nat) : UInt32 :=
  let byte := fun k => ((bytes[4 * i + k]?).getD 0).toUInt32
  byte 0 ||| (byte 1 <<< 8) ||| (byte 2 <<< 16) ||| (byte 3 <<< 24)

end Fixtures.Uuid
