import Fixtures.Metadata

/-!
# `Fixtures.Model`: a requested type with its fields

A `Model` is what a generation pass works on: the resolved type of a request, its description,
and the non-static fields with their types. A field's type is read inside the package of its
owner; type parameters of the owner are replaced by what they stand for in the request.
-/

set_option autoImplicit false

namespace Fixtures

/-- A field of a requested type. It keeps its type twice: as declared, where type parameters of the
owner stand, and as it is for the arguments of the request. -/
structure ModelField where
  /-- The field as described. -/
  description : FieldDescription
  /-- Its place among all fields of the owner, static ones included. -/
  index : Nat
  /-- The qualified name of the owner. -/
  owner : String
  /-- Its type with qualified names; type parameters of the owner are left as they are. -/
  declared : TypeRef
  /-- Its type. -/
  resolved : TypeMetadata

namespace ModelField

/-- The name of a field. -/
def name (f : ModelField) : String := f.description.name

/-- Whether a field is transient. -/
def isTransient (f : ModelField) : Bool := f.description.isTransient

/-- A field of the described type `d`, which was resolved to `owner`. Its type is read inside the
package of the owner, where the names of the owner's parameters come before all others. -/
def resolve (c : Catalog) (owner : TypeMetadata) (d : TypeDescription) (index : Nat)
    (f : FieldDescription) : Except FixtureError ModelField := do
  let declared := c.qualifyType d.package (f.type.bindParameters d.parameterNames)
  let concrete := declared.substitute fun name => (owner.binding? name).map (·.typeRef)
  let resolved ← TypeMetadata.ofRef c concrete
  return { description := f, index, owner := owner.qualifiedName, declared, resolved }

/-- The constant that stands for a field: the one its first directive names, or without directives
the one named after the field. Creation methods pass this one when they are told the field. -/
def primaryConstant? (f : ModelField) : Except IdentifierFault String :=
  match f.description.constants with
  | [] => Naming.constantName? f.name
  | directive :: _ => .ok directive.name

end ModelField

/-- A requested type: what it was resolved to, what the catalog says of it, and its fields that are
not static. -/
structure Model where
  type : TypeMetadata
  description : TypeDescription
  fields : List ModelField

namespace Model

/-- The package of the type, in which its fixture is written too. Names in both are short or long
alike. -/
def package (m : Model) : String := m.type.packageName

/-- The model of a request. Its type has to be described; the places of the fields count static
fields too, which are left out afterwards. -/
def resolve (c : Catalog) (request : Request) : Except FixtureError Model := do
  let d ← c.require request.typeName
  let type ← TypeMetadata.ofDescription c d request.typeArguments
  let instanceFields := d.fields.zipIdx.filter fun f => !f.1.isStatic
  let fields ← instanceFields.mapM fun f => ModelField.resolve c type d f.2 f.1
  return { type, description := d, fields }

/-- The fields of which a fixture has constants: all, or all but the transient ones. Static fields
are left out of the model already. -/
def includedFields (m : Model) (includeTransient : Bool) : List ModelField :=
  m.fields.filter fun f => includeTransient || !f.isTransient

end Model

end Fixtures
