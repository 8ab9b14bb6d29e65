import Fixtures.Uuid.Words

/-!
# `Fixtures.Uuid.Blake3`: a digest that turns names into keys

The BLAKE3 digest of a byte list as eight words. The input is cut into chunks of 1024 bytes, a
chunk into blocks of 64 bytes, and the chunks are the leaves of a binary tree whose left
subtrees are complete. A tree is evaluated up to its last compression only (`Pending`), because
the last compression of the whole tree is marked as the root.
-/

set_option autoImplicit false

namespace Fixtures.Uuid.Blake3

/-- The first half of the initial chaining value, which is also the third quarter of a state. -/
def initialHalf : Vector UInt32 4 := #v[0x6A09E667, 0xBB67AE85, 0x3C6EF372, 0xA54FF53A]

/-- The second half of the initial chaining value. -/
def initialRest : Vector UInt32 4 := #v[0x510E527F, 0x9B05688C, 0x1F83D9AB, 0x5BE0CD19]

/-- The initial chaining value. -/
def initial : Key := initialHalf.append initialRest

def chunkStart : UInt32 := 1
def chunkEnd : UInt32 := 2
def parent : UInt32 := 4
def root : UInt32 := 8

/-- A number of rounds, each on the shuffled words of the one before. -/
def rounds : Nat → Block → Block → Block
  | 0, s, _ => s
  | n + 1, s, m => rounds n (s.round rotateRight m) m.shuffle

/-- A compression that is yet to be done. -/
structure Pending where
  chaining : Key
  message : Block
  counter : UInt64
  length : UInt32
  flags : UInt32

theorem eight_le : 8 ≤ 16 := by decide

/-- The chaining value that a compression gives, with more flags. -/
def Pending.compress (p : Pending) (extra : UInt32) : Key :=
  let s : Block :=
    (p.chaining.append initialHalf).append
      #v[p.counter.toUInt32, (p.counter >>> 32).toUInt32, p.length, p.flags ||| extra]
  let s := rounds 7 s p.message
  Vector.ofFn fun i : Fin 8 => s.get (i.castLE eight_le) ^^^ s.get (i.addNat 8)

/-- The words of a block of at most 64 bytes. -/
def messageOf (bytes : List UInt8) : Block :=
  Vector.ofFn fun i : Fin 16 => wordAt bytes i.val

/-- The last compression of a chunk whose remaining bytes are `bytes`. -/
def chunk (counter : UInt64) (chaining : Key) (start : UInt32) (bytes : List UInt8) : Pending :=
  if 64 < bytes.length then
    let block : Pending := ⟨chaining, messageOf (bytes.take 64), counter, 64, start⟩
    chunk counter (block.compress 0) 0 (bytes.drop 64)
  else
    ⟨chaining, messageOf bytes, counter, bytes.length.toUInt32, start ||| chunkEnd⟩
termination_by bytes.length
decreasing_by simp only [List.length_drop]; omega

/-- The number of bytes under the left subtree of more than one chunk: the largest power of two
of chunks that leaves something for the right one. -/
def leftLength (n : Nat) : Nat := 1024 * Nat.pow 2 (Nat.log2 ((n - 1) / 1024))

theorem leftLength_pos (n : Nat) : 0 < leftLength n :=
  Nat.mul_pos (by decide) (Nat.two_pow_pos _)

theorem leftLength_lt {n : Nat} (h : 1024 < n) : leftLength n < n := by
  have hne : (n - 1) / 1024 ≠ 0 := by omega
  have := Nat.log2_self_le hne
  have := Nat.div_mul_le_self (n - 1) 1024
  rw [leftLength, Nat.pow_eq]
  omega

/-- The last compression of the tree over `bytes`, whose first chunk has the number `counter`. -/
def tree (counter : Nat) (bytes : List UInt8) : Pending :=
  if h : 1024 < bytes.length then
    let n := leftLength bytes.length
    have := leftLength_lt h
    have := leftLength_pos bytes.length
    let left := (tree counter (bytes.take n)).compress 0
    let right := (tree (counter + n / 1024) (bytes.drop n)).compress 0
    ⟨initial, left.append right, 0, 64, parent⟩
  else
    chunk counter.toUInt64 initial chunkStart bytes
termination_by bytes.length
decreasing_by
  · simp only [List.length_take]; omega
  · simp only [List.length_drop]; omega

/-- The digest of a byte list. -/
def digest (bytes : List UInt8) : Key := (tree 0 bytes).compress root

end Fixtures.Uuid.Blake3
