import Fixtures.Uuid.Basic
import Fixtures.Uuid.Blake3
import Fixtures.Uuid.Keystream

/-!
# `Fixtures.Uuid.Source`: where fresh UUIDs come from

A source is an endless stream of UUIDs and the number of those drawn from it. Each pass of a
seeded run has its own stream, which depends on the seed and the name of the type alone, so the
order in which passes run cannot be seen in their UUIDs.

A computation that may draw and may fail is a `Drawing`. A failed computation keeps what it has
drawn: the next one goes on behind it.
-/

set_option autoImplicit false

namespace Fixtures

/-- A stream of UUIDs and how many were drawn from it. Two sources with one stream differ in their
place in it only. -/
structure UuidSource where
  stream : Nat → Uuid
  drawn : Nat

/-- A computation that may draw UUIDs and may fail; failing undoes no drawing. -/
abbrev Drawing (ε α : Type) := ExceptT ε (StateM UuidSource) α

namespace UuidSource

/-- The next UUID of a source. -/
def next (s : UuidSource) : Uuid × UuidSource :=
  (s.stream s.drawn, { s with drawn := s.drawn + 1 })

/-- The source at the start of a stream. -/
def ofStream (stream : Nat → Uuid) : UuidSource := ⟨stream, 0⟩

/-- The UUIDs of a key: each takes the next four words of its stream, and a block has enough for
four. -/
def streamOf (key : Uuid.Key) (n : Nat) : Uuid :=
  let words := (Uuid.Keystream.block key (n / 4).toUInt64).toList.drop (4 * (n % 4))
  let bytes := words.flatMap Uuid.wordBytes
  .ofRandom (Vector.ofFn fun i : Fin 16 => (bytes[i.val]?).getD 0)

/-- The source of a seed alone. -/
def ofSeed (seed : UInt64) : UuidSource :=
  ofStream (streamOf (Uuid.Keystream.keyOfSeed seed))

/-- The source of a pass: the seed mixed with the name of the type. -/
def forPass (seed : UInt64) (typeName : String) : UuidSource :=
  ofStream (streamOf (Uuid.Blake3.digest (Uuid.longBytes seed ++ typeName.toUTF8.toList)))

end UuidSource

/-- A computation that draws nothing, inside of one that may. -/
def liftExcept {ε α : Type} (x : Except ε α) : Drawing ε α :=
  match x with
  | .ok a => pure a
  | .error e => throw e

/-- Draws the next UUID. -/
def drawUuid {ε : Type} : Drawing ε Uuid := do
  let (uuid, source) := (← get).next
  set source
  return uuid

end Fixtures
