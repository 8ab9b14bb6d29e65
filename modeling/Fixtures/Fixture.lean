import Fixtures.Description

/-!
# `Fixtures.Fixture`: what a pass generates

A `Fixture` is the source of one generated class together with the constants and creation
methods in it. Other fixtures see only its `Summary`: the names that they may refer to.
-/

set_option autoImplicit false

namespace Fixtures

/-- A constant of a fixture. -/
structure Constant where
  name : String
  /-- The type as it is written in the fixture. -/
  declaredType : String
  /-- The expression of the value. -/
  value : String
  /-- The place of the field among all fields of its owner. -/
  fieldIndex : Nat
  /-- The place of the directive among those of the field. -/
  directiveIndex : Nat
  /-- The field that the constant is a value for. -/
  fieldName : String
deriving DecidableEq

/-- A creation method of a fixture. It takes no arguments and returns one expression. -/
structure CreationMethod where
  name : String
  /-- The type as it is written in the fixture. -/
  returnType : String
  /-- The expression that is returned. -/
  body : String
  kind : CreatorKind
deriving DecidableEq

/-- The names of a fixture that other fixtures may refer to. The values of its constants and the
bodies of its methods are not among them. -/
structure Summary where
  typeName : String
  fixtureName : String
  constants : List String
  /-- The method that other fixtures call for an instance. -/
  defaultMethod : String
deriving DecidableEq

/-- A generated fixture. -/
structure Fixture where
  /-- The qualified name of the type that instances are for. -/
  typeName : String
  /-- The qualified name of the generated class. -/
  fixtureName : String
  /-- The path of the source file below the output folder. -/
  path : String
  constants : List Constant
  methods : List CreationMethod
  source : String
deriving DecidableEq

namespace Fixture

/-- The name of the first creation method. -/
def defaultMethod? (f : Fixture) : Option String :=
  f.methods.head?.map (·.name)

/-- What other fixtures see of a fixture. -/
def summary (f : Fixture) : Summary where
  typeName := f.typeName
  fixtureName := f.fixtureName
  constants := f.constants.map (·.name)
  defaultMethod := f.defaultMethod?.getD ""

end Fixture

end Fixtures
