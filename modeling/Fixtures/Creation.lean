import Fixtures.Bisection
import Fixtures.Fixture
import Fixtures.Model
import Fixtures.Render

/-!
# `Fixtures.Creation`: the creation methods of a fixture

Each creator of a type becomes a method that builds an instance from constants of the fixture. A
parameter of a creator is the name of a constant, or that of a field and then means the field's
first constant. Without a name of its own a method is named after the constants it passes.

    constructor [STRING_FIELD, COUNT]    createItemWithStringFieldAndCount
    builder [itemId] with prefix "with"  buildItemWithItemId
                                         Item.builder().withItemId(ITEM_ID).build()

A type without creators has one method that passes the first constant of every field to the
constructor. An enum always has one method, which gives its first constant.
-/

set_option autoImplicit false

namespace Fixtures

/-! ### Parameters -/

/-- A constant that is passed, and the field it is passed for. Constructors need only the constant,
and setters of a builder are named after the field. -/
structure Argument where
  constant : String
  fieldName : String
deriving DecidableEq

/-- The constant of a name among constants in order of name. It is searched by halving. -/
def Constant.find? (constants : List Constant) (name : String) : Option Constant :=
  Bisection.find? Constant.name name constants

namespace Argument

/-- The argument of a field name: the first constant of the first field of that name. There is none
without such a field, and it is an error if no name can be made of it. -/
def ofField? (fields : List ModelField) (constants : List Constant) (parameter : String) :
    Except FixtureError (Option Argument) :=
  match fields.find? fun f => f.name == parameter with
  | none => .ok none
  | some f => do
    let primary ← f.primaryConstant?.mapError .identifier
    return (Constant.find? constants primary).map fun c => ⟨c.name, f.name⟩

/-- The argument that a parameter means. The name of a constant comes before that of a field, and a
parameter that is neither is an error. -/
def ofParameter (fields : List ModelField) (constants : List Constant) (parameter : String) :
    Except FixtureError Argument :=
  match Constant.find? constants parameter with
  | some c => .ok ⟨c.name, c.fieldName⟩
  | none => do
    match ← ofField? fields constants parameter with
    | some a => return a
    | none => throw (.unknownParameter parameter)

end Argument

/-! ### Names and bodies -/

namespace CreatorKind

/-- The verb that the names of methods begin with. -/
def verb : CreatorKind → String
  | constructor => "create"
  | builder => "build"

end CreatorKind

namespace CreationMethod

/-- The name of a method that passes some constants: their names in word case behind the name of
the type. Without constants there is the verb and the type only. -/
def derivedName (kind : CreatorKind) (simpleName : String) : List Argument → String
  | [] => kind.verb ++ simpleName
  | arguments =>
    kind.verb ++ simpleName ++ "With"
      ++ "And".intercalate (arguments.map fun a => Naming.wordCase a.constant)

/-- The name of a method: the given one, which has to be an identifier, or the derived one. -/
def chooseName (given : Option String) (kind : CreatorKind) (simpleName : String)
    (arguments : List Argument) : Except FixtureError String :=
  match given with
  | none => .ok (derivedName kind simpleName arguments)
  | some name =>
    if Text.isIdent name then .ok name else .error (.identifier (.badMethod name))

/-- A constructor call. -/
def constructorCall (constructed : String) (arguments : List Argument) : String :=
  "new " ++ constructed ++ "(" ++ ", ".intercalate (arguments.map (·.constant)) ++ ")"

/-- The setter of a field: its name, or its capitalised name behind a prefix. An empty prefix is
none. -/
def setterName (setterPrefix : Option String) (fieldName : String) : String :=
  match setterPrefix with
  | none => fieldName
  | some lead => if lead.isEmpty then fieldName else lead ++ Naming.capitalize fieldName

/-- A call of a setter in a chain. -/
def setterCall (setterPrefix : Option String) (a : Argument) : String :=
  "." ++ setterName setterPrefix a.fieldName ++ "(" ++ a.constant ++ ")"

/-- A builder, its setter calls and the final call. -/
def builderChain (typeName builderMethod buildMethod : String) (setterPrefix : Option String)
    (arguments : List Argument) : String :=
  typeName ++ "." ++ builderMethod ++ "()" ++ String.join (arguments.map (setterCall setterPrefix))
    ++ "." ++ buildMethod ++ "()"

end CreationMethod

/-! ### Methods -/

namespace Model

/-- The type as its own fixture names it, without arguments. -/
def renderedName (m : Model) : String :=
  Render.name m.package m.type.qualifiedName

/-- The type as its own fixture writes it. -/
def renderedType (m : Model) : String :=
  Render.type m.package m.type.typeRef

/-- What a constructor call constructs: the arguments of a generic type are inferred. -/
def constructed (m : Model) : String :=
  if m.type.isGeneric then m.renderedName ++ "<>" else m.renderedName

/-- The method of an enum. It gives the first constant, or the absent value where there is none. -/
def enumMethod (m : Model) (nullToken : String) : CreationMethod where
  name := CreatorKind.constructor.verb ++ m.type.simpleName
  returnType := m.renderedType
  body := match m.type.enumConstants with
    | [] => nullToken
    | first :: _ => Render.enumConstant m.renderedName first
  kind := .constructor

/-- The method of a type without creators. The parameters of the constructor are taken to be the
included fields in order. -/
def defaultMethod (m : Model) (fields : List ModelField) (constants : List Constant) :
    Except FixtureError CreationMethod := do
  let parameters ← fields.mapM fun f => f.primaryConstant?.mapError .identifier
  let arguments ← parameters.mapM (Argument.ofParameter fields constants)
  return {
    name := CreatorKind.constructor.verb ++ m.type.simpleName
    returnType := m.renderedType
    body := CreationMethod.constructorCall m.constructed arguments
    kind := .constructor }

/-- The method of a creator. First its parameters are resolved, then it gets its name. -/
def creatorMethod (m : Model) (fields : List ModelField) (constants : List Constant) :
    Creator → Except FixtureError CreationMethod
  | .constructor parameters given => do
    let arguments ← parameters.mapM (Argument.ofParameter fields constants)
    let name ← CreationMethod.chooseName given .constructor m.type.simpleName arguments
    return {
      name
      returnType := m.renderedType
      body := CreationMethod.constructorCall m.constructed arguments
      kind := .constructor }
  | .builder setters builderMethod buildMethod setterPrefix given => do
    let arguments ← setters.mapM (Argument.ofParameter fields constants)
    let name ← CreationMethod.chooseName given .builder m.type.simpleName arguments
    return {
      name
      returnType := m.renderedType
      body := CreationMethod.builderChain m.renderedName builderMethod buildMethod setterPrefix
        arguments
      kind := .builder }

/-- The first name that occurs a second time, also among those seen before. -/
def repeated? : List String → List String → Option String
  | _, [] => none
  | seen, name :: rest => if seen.contains name then some name else repeated? (name :: seen) rest

/-- The creation methods of a type in the order of its creators. An enum does not look at creators,
and no two methods may have one name. -/
def creationMethods (m : Model) (fields : List ModelField) (constants : List Constant)
    (nullToken : String) : Except FixtureError (List CreationMethod) :=
  if m.type.isEnum then .ok [m.enumMethod nullToken]
  else
    match m.description.creators with
    | [] => do return [← m.defaultMethod fields constants]
    | creators => do
      let methods ← creators.mapM (m.creatorMethod fields constants)
      match repeated? [] (methods.map (·.name)) with
      | some name => throw (.duplicateMethod name m.type.qualifiedName)
      | none => return methods

end Model

end Fixtures
