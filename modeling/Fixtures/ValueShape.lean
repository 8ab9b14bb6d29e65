import Fixtures.Metadata

/-!
# `Fixtures.ValueShape`: what kind of value a type takes

Each resolved type has exactly one shape, which decides its default value. The tag of a shape is
also a provider key: a provider under a tag serves all types of that shape.
-/

set_option autoImplicit false

namespace Fixtures

/-- What kind of value a type takes. -/
inductive ValueShape where
  /-- A primitive or a type that boxes one. -/
  | scalar (kind : Primitive)
  | string
  | uuid
  /-- A value type, with the expression of its default. -/
  | value (expression : String)
  | enum
  | container (kind : Library.Container)
  | array
  /-- A described class. -/
  | described
  /-- Any other type. -/
  | unknown
deriving DecidableEq

namespace ValueShape

/-- The tag of a shape. Shapes of one kind have one tag, whatever they hold. -/
def tag : ValueShape → String
  | scalar _ => "scalar"
  | string => "string"
  | uuid => "uuid"
  | value _ => "value"
  | enum => "enum"
  | container _ => "container"
  | array => "array"
  | described => "class"
  | unknown => "unknown"

/-- All tags. -/
def tags : List String :=
  ["scalar", "string", "uuid", "value", "enum", "container", "array", "class", "unknown"]

/-- Whether a text is a tag. -/
def isTag (key : String) : Bool := tags.contains key

/-- The shape of a class by its name. The names of the library come first, so a description of such
a type has no say in its shape. -/
def ofName (name : String) (isDescribed : Bool) : ValueShape :=
  match Library.boxed? name with
  | some kind => scalar kind
  | none =>
    if name = Library.stringName then string
    else if name = Library.uuidName then uuid
    else
      match Library.value? name with
      | some expression => value expression
      | none =>
        match Library.container? name with
        | some kind => container kind
        | none => if isDescribed then described else unknown

/-- The shape of a type. A described enum is one whatever its name is, and for all other declared
types the name decides. -/
def ofType : TypeMetadata → ValueShape
  | .primitive kind => scalar kind
  | .array _ _ => array
  | .declared _ _ _ (.describedEnum _) => enum
  | .declared name _ _ origin => ofName name (origin != .foreign)

end ValueShape

end Fixtures
