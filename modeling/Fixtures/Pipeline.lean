import Fixtures.Provider.Eval
import Fixtures.Provider.Table
import Fixtures.Render

/-!
# `Fixtures.Pipeline`: the value of a constant

The text of a field's value. Providers come first, the one for the exact type before the one for
the shape; one that declines or fails is passed over. Without a provider's text the shape decides
(`builtIn`), so there always is a value.
-/

set_option autoImplicit false

namespace Fixtures

/-- What the values of one type depend on: the providers, the type that owns the fields, and how
the absent value is written. -/
structure Pipeline where
  providers : ProviderTable
  owner : TypeMetadata
  /-- The text of the absent value. -/
  nullToken : String

/-- A computation that may draw UUIDs and cannot fail. -/
abbrev Draws := StateM UuidSource

namespace Pipeline

/-- The text of a provider under a key, if there is one and it gives a text. A failure counts as
none, and what was drawn before it stays drawn. -/
def consult (p : Pipeline) (f : ModelField) (key : String) : Draws (Option String) :=
  match p.providers.get? key with
  | none => return none
  | some provider => do
    match ← (provider.provide ⟨f, p.owner⟩).run with
    | .ok text => return text
    | .error _ => return none

/-- The text that the providers give. The one for the shape is consulted only if the one for the
exact type gives none. -/
def custom (p : Pipeline) (f : ModelField) : Draws (Option String) := do
  match ← p.consult f f.resolved.qualifiedName with
  | some text => return some text
  | none => p.consult f (ValueShape.ofType f.resolved).tag

/-- The default text of a string field: the name of its constant, or its own. -/
def stringDefault (field : String) : String :=
  let stem := match Naming.constantName? field with
    | .ok name => name
    | .error _ => field
  Text.Literal.encode (stem ++ "_VALUE")

/-- The text that the shape of a field's type gives. Only the shape of UUIDs draws from the source.
-/
def builtIn (p : Pipeline) (f : ModelField) : Draws String :=
  match ValueShape.ofType f.resolved with
  | .scalar kind => return kind.defaultLiteral
  | .string => return stringDefault f.name
  | .uuid => do
    let (uuid, source) := (← get).next
    set source
    return Render.uuid uuid
  | .value expression => return expression
  | .enum =>
    match f.resolved.enumConstants with
    | [] => return p.nullToken
    | first :: _ => return Render.enumConstant f.resolved.qualifiedName first
  | .container kind => return kind.emptyExpression
  | .array => return Render.emptyArray f.resolved.typeRef
  | .described | .unknown => return p.nullToken

/-- The text of a field's value: that of the providers, or else that of the shape. -/
def resolve (p : Pipeline) (f : ModelField) : Draws String := do
  match ← p.custom f with
  | some text => return text
  | none => p.builtIn f

end Pipeline

end Fixtures
