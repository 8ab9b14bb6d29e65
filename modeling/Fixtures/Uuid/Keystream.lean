import Fixtures.Uuid.Words

/-!
# `Fixtures.Uuid.Keystream`: an endless stream of words from a key

The ChaCha stream with twelve rounds. A block of sixteen words depends on the key and its number
alone, so any place of the stream can be computed without those before it.
-/

set_option autoImplicit false

namespace Fixtures.Uuid.Keystream

/-- A number of double rounds. A round stirs by the columns and the diagonals both, and there is
no message. -/
def doubleRounds : Nat → Block → Block
  | 0, s => s
  | n + 1, s => doubleRounds n (s.round rotateLeft (Vector.replicate 16 0))

/-- The words that every block starts with. -/
def constants : Vector UInt32 4 := #v[0x61707865, 0x3320646E, 0x79622D32, 0x6B206574]

/-- The start of the block with a number: four constants, the key, the number and zeros. -/
def start (k : Key) (number : UInt64) : Block :=
  (constants.append k).append #v[number.toUInt32, (number >>> 32).toUInt32, 0, 0]

/-- The block with a number. -/
def block (k : Key) (number : UInt64) : Block :=
  let s := start k number
  (doubleRounds 6 s).zipWith (· + ·) s

/-- The key that a seed expands to: eight outputs of a permuted congruential generator. -/
def keyOfSeed (seed : UInt64) : Key :=
  let step := fun (state : UInt64) => state * 6364136223846793005 + 11634580027462260723
  let output := fun (state : UInt64) =>
    rotateRight (((state >>> 18) ^^^ state) >>> 27).toUInt32 (state >>> 59).toUInt32
  let s₀ := step seed
  let s₁ := step s₀
  let s₂ := step s₁
  let s₃ := step s₂
  let s₄ := step s₃
  let s₅ := step s₄
  let s₆ := step s₅
  let s₇ := step s₆
  #v[output s₀, output s₁, output s₂, output s₃, output s₄, output s₅, output s₆, output s₇]

end Fixtures.Uuid.Keystream
