import Fixtures.NameMap
import Fixtures.TypeRef.Basic

/-!
# `Fixtures.Description`: descriptions of types

The input of a run: for each type its fields, its type parameters and the directives that steer
generation. A constant directive names a constant of a field and may give its value or refer to
a constant of the fixture of the field's type. A creator is a method that builds an instance.
-/

set_option autoImplicit false

namespace Fixtures

/-- Classes and enums. -/
inductive TypeKind where
  | classKind
  | enumKind
deriving DecidableEq

/-- A type parameter and its bound. -/
structure TypeParameter where
  name : String
  bound : Option TypeRef
deriving DecidableEq

/-- A constant of a field. If it gives a value this is what the constant has, and the reference is
not looked at. -/
structure ConstantDirective where
  name : String
  /-- The text of the value; without it the value is computed. -/
  value : Option String
  /-- A constant of the fixture of the field's type. -/
  reference : Option String
deriving DecidableEq

/-- A field of a type. Static fields are described, but never have constants. -/
structure FieldDescription where
  name : String
  type : TypeRef
  isStatic : Bool
  isTransient : Bool
  constants : List ConstantDirective
deriving DecidableEq

/-- The ways in which a creation method builds its instance. -/
inductive CreatorKind where
  | constructor
  | builder
deriving DecidableEq

/-- The word for a kind of creator. -/
def CreatorKind.word : CreatorKind → String
  | constructor => "constructor"
  | builder => "builder"

/-- A creation method. Its parameters are names of constants or fields, in the order in which they
are passed. -/
inductive Creator where
  /-- A constructor call. -/
  | constructor (parameters : List String) (name : Option String)
  /-- A chain of setter calls on a builder. -/
  | builder (setters : List String) (builderMethod buildMethod : String)
      (setterPrefix name : Option String)
deriving DecidableEq

/-- A described type, with the directives that steer what is generated for it. -/
structure TypeDescription where
  package : String
  name : String
  kind : TypeKind
  typeParameters : List TypeParameter
  fields : List FieldDescription
  enumConstants : List String
  /-- Whether a fixture of the type is a generation target. -/
  fixture : Bool
  /-- Provider sources by type text or shape tag. -/
  providers : NameMap String
  creators : List Creator
deriving DecidableEq

namespace TypeDescription

/-- A name inside a package; the default package is the empty text. -/
def qualify (package name : String) : String :=
  if package.isEmpty then name else package ++ "." ++ name

/-- The qualified name of a described type. -/
def qualifiedName (d : TypeDescription) : String := qualify d.package d.name

/-- The names of the type parameters. -/
def parameterNames (d : TypeDescription) : List String := d.typeParameters.map (·.name)

end TypeDescription

/-- A request for the fixture of a type, with arguments for its type parameters or with their
bounds. No arguments and an empty list of them are different requests for a type that has
parameters. -/
structure Request where
  typeName : String
  typeArguments : Option (List TypeRef)
deriving DecidableEq

end Fixtures
