import Fixtures.Description.Reading
import Fixtures.Json.Record

/-!
# `Fixtures.Description.Json`: descriptions and requests in JSON

What may be missing is left out when it is empty; the four modifiers and flags are always
written.
-/

set_option autoImplicit false

namespace Fixtures

open Json

/-- A type as its text. -/
def TypeRef.toJson (t : TypeRef) : Json := .str t.toText

def TypeKind.word : TypeKind → String
  | .classKind => "class"
  | .enumKind => "enum"

def TypeParameter.toJson (p : TypeParameter) : Json :=
  .obj (("name", .str p.name) :: optionalMember "bound" (p.bound.map TypeRef.toJson))

def ConstantDirective.toJson (c : ConstantDirective) : Json :=
  .obj (("name", .str c.name) :: (optionalMember "value" (c.value.map .str)
    ++ optionalMember "reference" (c.reference.map .str)))

def FieldDescription.toJson (f : FieldDescription) : Json :=
  .obj ([("name", .str f.name), ("type", f.type.toJson), ("static", .bool f.isStatic),
    ("transient", .bool f.isTransient)]
      ++ listMember "constants" ConstantDirective.toJson f.constants)

def Creator.toJson : Creator → Json
  | .constructor parameters name =>
    .obj ([("kind", .str CreatorKind.constructor.word), ("parameters", ofStrings parameters)]
      ++ optionalMember "name" (name.map .str))
  | .builder setters builderMethod buildMethod setterPrefix name =>
    .obj ([("kind", .str CreatorKind.builder.word), ("setters", ofStrings setters),
        ("builderMethod", .str builderMethod), ("buildMethod", .str buildMethod)]
      ++ optionalMember "setterPrefix" (setterPrefix.map .str)
      ++ optionalMember "name" (name.map .str))

def TypeDescription.toJson (d : TypeDescription) : Json :=
  .obj ([("package", .str d.package), ("name", .str d.name), ("kind", .str d.kind.word)]
    ++ listMember "typeParameters" TypeParameter.toJson d.typeParameters
    ++ listMember "fields" FieldDescription.toJson d.fields
    ++ listMember "enumConstants" .str d.enumConstants
    ++ [("fixture", .bool d.fixture)]
    ++ (if d.providers.isEmpty then [] else [("providers", ofTexts d.providers)])
    ++ listMember "creators" Creator.toJson d.creators)

/-- Reads a description. -/
def TypeDescription.ofJson? : Json → Option TypeDescription := TypeDescription.read?

def Request.toJson (q : Request) : Json :=
  .obj (("typeName", .str q.typeName)
    :: optionalMember "typeArguments" (q.typeArguments.map fun ts => .arr (ts.map TypeRef.toJson)))

/-- Reads a request. -/
def Request.ofJson? : Json → Option Request := Request.read?

end Fixtures
