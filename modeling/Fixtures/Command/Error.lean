import Fixtures.Error

/-!
# `Fixtures.Command.Error`: why a command fails
-/

set_option autoImplicit false

namespace Fixtures

/-- Why a command fails. -/
inductive CommandError where
  /-- A file that cannot be read or written. -/
  | file
  /-- A catalog that is no JSON, or not that of descriptions. -/
  | json
  /-- A catalog that is no YAML, or not that of descriptions. -/
  | yaml
  /-- Settings that cannot be read. -/
  | settings
  /-- A catalog or settings that do not allow a run. -/
  | fixture (error : FixtureError)
  /-- A catalog of which nothing is wanted. -/
  | noTargets (catalog : String)
  /-- A run in which requests failed. -/
  | generation (failed total : Nat)
deriving DecidableEq

namespace CommandError

/-- The message of an error. -/
def message : CommandError → String
  | file => "IO error: a file cannot be read or written"
  | json => "JSON error: the catalog is no list of type descriptions"
  | yaml => "YAML error: the catalog is no list of type descriptions"
  | settings => "Configuration error: the settings cannot be read"
  | fixture error => "Fixture error: " ++ error.message
  | noTargets catalog =>
    "Invalid argument: " ++ catalog
      ++ " declares no fixture targets; mark types with \"fixture\": true or pass --type"
  | generation failed total =>
    toString failed ++ " of " ++ toString total ++ " fixture passes failed"

end CommandError

end Fixtures
