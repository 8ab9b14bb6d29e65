import Fixtures.Error
import Fixtures.Json.Record
import Fixtures.Text.Blank

/-!
# `Fixtures.Config`: the settings of a run

Settings have snake-case keys in JSON; each may be missing and then has its default.
-/

set_option autoImplicit false

namespace Fixtures

/-- The settings of a run. -/
structure Config where
  /-- Whether transient fields have constants. -/
  includeTransient : Bool := true
  /-- Whether a fixture begins with the header line. -/
  emitHeader : Bool := true
  /-- How many passes of one level may run at a time. Results do not depend on it. -/
  workers : Nat := 1
  /-- The seed of the UUIDs; without one they are random. -/
  uuidSeed : Option UInt64 := none
  /-- Provider sources by type text or shape tag. -/
  providers : NameMap String := .empty
  /-- The text of the absent value. -/
  nullToken : String := "null"
deriving DecidableEq

namespace Config

instance : Inhabited Config := ⟨{}⟩

/-- Refuses settings under which the absent value would have no text. -/
def validate (c : Config) : Except FixtureError Unit :=
  if Text.isBlankText c.nullToken then .error .blankNullToken else .ok ()

/-- How many passes of one level run at a time; at least one. -/
def effectiveWorkers (c : Config) : Nat := max c.workers 1

/-- The keys of the settings. -/
def keys : List String :=
  ["include_transient", "emit_header", "workers", "uuid_seed", "providers", "null_token"]

/-- Reads settings. -/
def ofJson? (j : Json) : Option Config := do
  let r ← Document.record? keys j
  let includeTransient ← r.withDefault "include_transient" Json.bool? true
  let emitHeader ← r.withDefault "emit_header" Json.bool? true
  let workers ← r.withDefault "workers" Json.word? 1
  let uuidSeed ← Document.optional r "uuid_seed" Json.word?
  let providers ← r.withDefault "providers" Json.texts? .empty
  let nullToken ← r.withDefault "null_token" Json.str? "null"
  return { includeTransient, emitHeader, workers, uuidSeed := uuidSeed.map Nat.toUInt64, providers,
           nullToken }

/-- Writes settings. -/
def toJson (c : Config) : Json :=
  .obj [("include_transient", .bool c.includeTransient), ("emit_header", .bool c.emitHeader),
    ("workers", .int c.workers),
    ("uuid_seed", match c.uuidSeed with
      | some seed => .int seed.toNat
      | none => .null),
    ("providers", .ofTexts c.providers), ("null_token", .str c.nullToken)]

end Config

end Fixtures
