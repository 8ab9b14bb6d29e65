import Fixtures.Naming
import Fixtures.Provider.CompileFault
import Fixtures.TypeRef.Parser

/-!
# `Fixtures.Error`: why a fixture is not generated

Every failure of a generation pass, of a catalog and of a configuration, by its cause. The
message of each cause is in one place, `FixtureError.message`; nothing else looks at it.

One of them is no failure but the lack of an answer: `endless` stands for a resolution that goes on
without end.
-/

set_option autoImplicit false

namespace Fixtures

/-- Why a fixture is not generated. -/
inductive FixtureError where
  /-- A field, constant or method name of the wrong form. -/
  | identifier (fault : IdentifierFault)
  /-- A provider source that does not compile. -/
  | provider (fault : Provider.CompileFault)
  /-- A generic type with the wrong number of arguments. -/
  | arity (typeName : String) (declared supplied : Nat)
  /-- A request for a type without a description. -/
  | unknownType (typeName : String)
  /-- A provider key that is neither a shape tag nor a type text. -/
  | malformedKey (key : String) (cause : TypeRef.ParseError)
  /-- A provider key that is a type text but names no known type. -/
  | unknownKey (key : String)
  /-- Two constants of one name with different values. -/
  | duplicateConstant (name first second : String)
  /-- A reference to a constant that the referenced fixture does not have. -/
  | unknownConstant (constant fixtureName : String)
  /-- A creation parameter that is neither a constant nor a field. -/
  | unknownParameter (parameter : String)
  /-- A field whose type has no published fixture. -/
  | unpublished (field typeName : String)
  /-- A reference to a constant of a type that is not generated at all. -/
  | noTarget (field constant typeName : String)
  /-- A fixture behind a dependency cycle. -/
  | behindCycle (typeName : String)
  /-- A request that no level of the run took up. -/
  | neverScheduled (typeName : String)
  /-- A fixture on a dependency cycle, with the cycle from itself to itself. -/
  | cycle (path : List String)
  /-- Two creation methods of one name. -/
  | duplicateMethod (method typeName : String)
  /-- Two descriptions of one type. -/
  | duplicateType (typeName : String)
  /-- Two requests for one type. -/
  | duplicateRequest (typeName : String)
  /-- A fixture published twice with different contents. -/
  | conflictingFixture (typeName : String)
  /-- A configuration with a blank null token. -/
  | blankNullToken
  /-- No answer: default arguments lead back to themselves without end. -/
  | endless
deriving DecidableEq

namespace FixtureError

/-- The message of an error. -/
def message : FixtureError → String
  | identifier fault => fault.message
  | provider fault => fault.message
  | arity typeName declared supplied =>
    "Generic arity mismatch for '" ++ typeName ++ "': declares " ++ toString declared
      ++ ", got " ++ toString supplied
  | unknownType typeName =>
    "Unknown type reference: type '" ++ typeName ++ "' is not in the catalog"
  | malformedKey key cause =>
    "Unknown type reference: provider key '" ++ key ++ "': " ++ cause.message
  | unknownKey key =>
    "Unknown type reference: provider key '" ++ key ++ "' is neither a shape tag nor a known type"
  | duplicateConstant name first second =>
    "Duplicate constant name '" ++ name ++ "': '" ++ first ++ "' conflicts with '" ++ second ++ "'"
  | unknownConstant constant fixtureName =>
    "Unknown constant reference: '" ++ constant ++ "' is not a constant of " ++ fixtureName
  | unknownParameter parameter =>
    "Unknown constant reference: creation directive parameter '" ++ parameter
      ++ "' is neither a constant nor an included field"
  | unpublished field typeName =>
    "Unresolved fixture reference: field '" ++ field ++ "' references '" ++ typeName
      ++ "', which was not generated in this run"
  | noTarget field constant typeName =>
    "Unresolved fixture reference: field '" ++ field ++ "' references constant '" ++ constant
      ++ "' but its type '" ++ typeName ++ "' is not a generation target"
  | behindCycle typeName =>
    "Unresolved fixture reference: '" ++ typeName
      ++ "' depends on a fixture caught in a dependency cycle"
  | neverScheduled typeName =>
    "Unresolved fixture reference: '" ++ typeName ++ "' was never scheduled"
  | cycle path => "Cyclic fixture dependency: " ++ " -> ".intercalate path
  | duplicateMethod method typeName =>
    "Duplicate creation method: '" ++ method ++ "' is generated more than once for " ++ typeName
  | duplicateType typeName =>
    "Duplicate target: type '" ++ typeName ++ "' is described more than once"
  | duplicateRequest typeName =>
    "Duplicate target: '" ++ typeName ++ "' is requested more than once"
  | conflictingFixture typeName =>
    "Duplicate target: fixture for '" ++ typeName
      ++ "' was already published with different contents"
  | blankNullToken => "Invalid configuration: null_token must not be blank"
  | endless => "No answer: default arguments have no end"

end FixtureError

end Fixtures
