import Fixtures.Catalog

/-!
# `Fixtures.Metadata`: types with their parameters resolved

A `TypeMetadata` is a type as a pass sees it: its names, and for a declared type what each of its
type parameters stands for. Type parameters of a described type that is used without arguments
stand for their bounds.

The bounds are made so that they hold no further use of that kind (`defaultArguments`), except
of the root object type itself in a catalog that describes it with type parameters. Hence two
expansions inside each other are enough: one for the type, and one for the root object type among
its arguments. Where the bounds of the root object type lead back to it, expansion has no end, and
there is no answer at all; `FixtureError.endless` stands for that. It is no error that a caller
could handle: a statement that promises an answer says when it does not occur.
-/

set_option autoImplicit false

namespace Fixtures

/-- What a declared type is to the catalog. -/
inductive Origin where
  /-- No description. -/
  | foreign
  /-- A described class. -/
  | describedClass
  /-- A described enum and its constants. -/
  | describedEnum (constants : List String)
deriving DecidableEq

/-- A resolved type. -/
inductive TypeMetadata where
  | primitive (kind : Primitive)
  /-- An array: its component as written, and resolved. -/
  | array (written : TypeRef) (component : TypeMetadata)
  /-- A declared type: its qualified name, its arguments as written or defaulted, and what its
  parameters stand for by name. -/
  | declared (name : String) (arguments : List TypeRef)
      (parameters : List (String × TypeMetadata)) (origin : Origin)

namespace TypeMetadata

instance : Inhabited TypeMetadata := ⟨primitive .int⟩

/-! ### Reading a resolved type -/

/-- The type with its arguments. These are the ones that it was resolved with, so default arguments
show in it. -/
def typeRef : TypeMetadata → TypeRef
  | primitive kind => .primitive kind
  | array written _ => .array written
  | declared name arguments _ _ => .declared name arguments

/-- The package; that of the element type for an array, and empty for a primitive. -/
def packageName : TypeMetadata → String
  | primitive _ => ""
  | array _ component => component.packageName
  | declared name _ _ _ => Library.packageName name

/-- The name without its package. -/
def simpleName : TypeMetadata → String
  | primitive kind => kind.keyword
  | array _ component => component.simpleName ++ "[]"
  | declared name _ _ _ => Library.simpleName name

/-- The qualified name without arguments. Targets, providers and fixtures are all looked up by this
name. -/
def qualifiedName : TypeMetadata → String
  | primitive kind => kind.keyword
  | array _ component => component.qualifiedName ++ "[]"
  | declared name _ _ _ => name

/-- The qualified name of the fixture of a type. -/
def fixtureName (t : TypeMetadata) : String := t.qualifiedName ++ "Fixture"

/-- The simple name of the fixture of a type. -/
def fixtureSimpleName (t : TypeMetadata) : String := t.simpleName ++ "Fixture"

/-- What the type parameters stand for, by name and in order. An array has none, even if its
component has some. -/
def parameters : TypeMetadata → List (String × TypeMetadata)
  | declared _ _ parameters _ => parameters
  | _ => []

/-- Whether a type has type parameters. -/
def isGeneric (t : TypeMetadata) : Bool := !t.parameters.isEmpty

/-- What a type parameter stands for. -/
def binding? (t : TypeMetadata) (name : String) : Option TypeMetadata :=
  t.parameters.lookup name

/-- What a declared type is to the catalog. -/
def origin : TypeMetadata → Origin
  | declared _ _ _ origin => origin
  | _ => .foreign

/-- Whether the catalog describes a type. -/
def isDescribed (t : TypeMetadata) : Bool := t.origin != .foreign

/-- The constants of a described enum. -/
def enumConstants (t : TypeMetadata) : List String :=
  match t.origin with
  | .describedEnum constants => constants
  | _ => []

/-- Whether a type is a described enum. -/
def isEnum (t : TypeMetadata) : Bool :=
  match t.origin with
  | .describedEnum _ => true
  | _ => false

/-- Whether a type is an array. -/
def isArray : TypeMetadata → Bool
  | array _ _ => true
  | _ => false

/-- Whether a type is a primitive. -/
def isPrimitive : TypeMetadata → Bool
  | primitive _ => true
  | _ => false

/-- The component of an array. -/
def component? : TypeMetadata → Option TypeMetadata
  | array _ component => some component
  | _ => none

end TypeMetadata

/-! ### Default arguments -/

namespace Catalog

/-- The root object type. -/
def object : TypeRef := .named TypeRef.objectName

mutual

/-- Gives every described generic type without arguments the root object type for each of its
parameters. Types that are not described stay as they are: how many parameters they have is not
known. -/
def eraseRaw (c : Catalog) : TypeRef → TypeRef
  | .primitive kind => .primitive kind
  | .declared name [] =>
    match c.get? name with
    | some d => .declared name (d.typeParameters.map fun _ => object)
    | none => .declared name []
  | .declared name (argument :: arguments) =>
    .declared name (c.eraseRaw argument :: c.eraseAllRaw arguments)
  | .array component => .array (c.eraseRaw component)
  | .parameter name => .parameter name

/-- Erases in each type of a list. -/
def eraseAllRaw (c : Catalog) : List TypeRef → List TypeRef
  | [] => []
  | argument :: arguments => c.eraseRaw argument :: c.eraseAllRaw arguments

end

/-- What the type parameters of a described type stand for without arguments: each its bound, with
type parameters in it replaced by the root object type, or else the root object type. A bound is
read inside the package of its type, and raw types in it are given arguments in turn. -/
def defaultArguments (c : Catalog) (d : TypeDescription) : List TypeRef :=
  d.typeParameters.map fun p =>
    match p.bound with
    | none => object
    | some bound =>
      c.eraseRaw ((c.qualifyType d.package (bound.bindParameters d.parameterNames)).substitute
        fun _ => some object)

end Catalog

/-! ### Resolution -/

namespace TypeMetadata

/-- The names of the parameters of a type without a description: there may be arguments but nothing
that names them, so they are numbered. -/
def positionalNames (n : Nat) : List String :=
  (List.range n).map fun i => "arg" ++ toString i

/-- What a description makes of a type: a class, or an enum with its constants. -/
def originOf (d : TypeDescription) : Origin :=
  match d.kind with
  | .classKind => .describedClass
  | .enumKind => .describedEnum d.enumConstants

/-- How a described generic type without arguments is resolved: to its arguments and what they
resolve to. It is a parameter of resolution, as this is where resolution calls itself for types
that are not parts of the type. -/
abbrev Expansion := TypeDescription → Except FixtureError (List TypeRef × List TypeMetadata)

/-- Resolves a name without arguments. Only a described type that has type parameters is given
arguments. -/
def ofNameWith (c : Catalog) (expand : Expansion) (name : String) :
    Except FixtureError TypeMetadata :=
  match c.get? name with
  | none => .ok (.declared name [] [] .foreign)
  | some d =>
    if d.typeParameters.isEmpty then .ok (.declared name [] [] (originOf d))
    else do
      let (arguments, resolved) ← expand d
      return .declared name arguments (d.parameterNames.zip resolved) (originOf d)

mutual

/-- Resolves a type, a described generic type without arguments by `expand`. A type parameter that
is left over counts as the root object type. A described type has to have as many arguments as
parameters, and this is checked before any of the arguments is resolved. -/
def ofRefWith (c : Catalog) (expand : Expansion) : TypeRef → Except FixtureError TypeMetadata
  | .primitive kind => .ok (.primitive kind)
  | .array component => do return .array component (← ofRefWith c expand component)
  | .parameter _ => ofNameWith c expand TypeRef.objectName
  | .declared name [] => ofNameWith c expand name
  | .declared name (argument :: arguments) =>
    match c.get? name with
    | none => do
      let first ← ofRefWith c expand argument
      let more ← ofRefsWith c expand arguments
      return .declared name (argument :: arguments)
        ((positionalNames (arguments.length + 1)).zip (first :: more)) .foreign
    | some d =>
      if d.typeParameters.length = arguments.length + 1 then do
        let first ← ofRefWith c expand argument
        let more ← ofRefsWith c expand arguments
        return .declared name (argument :: arguments) (d.parameterNames.zip (first :: more))
          (originOf d)
      else
        .error (.arity name d.typeParameters.length (arguments.length + 1))

/-- Resolves types in order, up to the first that fails. -/
def ofRefsWith (c : Catalog) (expand : Expansion) :
    List TypeRef → Except FixtureError (List TypeMetadata)
  | [] => .ok []
  | t :: ts => do return (← ofRefWith c expand t) :: (← ofRefsWith c expand ts)

end

/-- Expansion by default arguments, at most `depth` of them inside each other. Where more would be
needed there is no answer yet. -/
def expandDefaults (c : Catalog) : Nat → Expansion
  | 0 => fun _ => .error .endless
  | depth + 1 => fun d => do
    let arguments := c.defaultArguments d
    return (arguments, ← ofRefsWith c (expandDefaults c depth) arguments)

/-- Resolves a qualified type. What has no answer after two expansions inside each other has none
after any number of them. -/
def ofRef (c : Catalog) (t : TypeRef) : Except FixtureError TypeMetadata :=
  ofRefWith c (expandDefaults c 2) t

/-- Resolves a described type with arguments, or with its default arguments. Names in written
arguments are read inside the package of the type. -/
def ofDescription (c : Catalog) (d : TypeDescription) (arguments : Option (List TypeRef)) :
    Except FixtureError TypeMetadata := do
  let concrete ← match arguments with
    | none => pure (c.defaultArguments d)
    | some arguments =>
      if arguments.length = d.typeParameters.length then
        pure (arguments.map (c.qualifyType d.package))
      else
        throw (.arity d.qualifiedName d.typeParameters.length arguments.length)
  ofRef c (.declared d.qualifiedName concrete)

end TypeMetadata

end Fixtures
