/-!
# `Fixtures.Provider.Expr`: provider expressions

A provider computes the text of a constant from two inputs, the field and the type that owns it.
Its body is one expression. Built-ins, properties and methods are closed sets, so an expression
can only name what exists; how many arguments a call takes is checked where it is read.
-/

set_option autoImplicit false

namespace Fixtures.Provider

/-- The two inputs of a provider. -/
inductive Input where
  /-- The field whose constant is computed. -/
  | field
  /-- The type that owns the field. -/
  | type
deriving DecidableEq

/-- The built-in functions. -/
inductive Builtin where
  /-- A fresh UUID as text. -/
  | uuid
  /-- The text of a value as a string literal. -/
  | quote
  /-- The constant name of a field name. -/
  | constantName
  /-- The text of a value. -/
  | str
deriving DecidableEq

namespace Builtin

/-- All built-ins. -/
def all : List Builtin := [uuid, quote, constantName, str]

/-- The name of a built-in. -/
def name : Builtin → String
  | uuid => "uuid"
  | quote => "quote"
  | constantName => "constantName"
  | str => "str"

/-- The built-in of a name. -/
def ofName? (n : String) : Option Builtin :=
  all.find? fun f => f.name == n

/-- The number of arguments of a built-in. -/
def arity : Builtin → Nat
  | uuid => 0
  | quote => 1
  | constantName => 1
  | str => 1

end Builtin

/-- What can be read off a field or a type. Which of the two has it shows only when it is read off
a value. -/
inductive Property where
  | name | constantName | type | declaredType | isTransient | owner
  | simpleName | qualifiedName | packageName | fixtureName | fixtureQualifiedName
  | isGeneric | isEnum | isArray | isPrimitive | typeArguments | enumConstants
deriving DecidableEq

namespace Property

/-- All properties, those of fields first. -/
def all : List Property :=
  [name, constantName, type, declaredType, isTransient, owner,
    simpleName, qualifiedName, packageName, fixtureName, fixtureQualifiedName,
    isGeneric, isEnum, isArray, isPrimitive, typeArguments, enumConstants]

/-- The word for a property. -/
def word : Property → String
  | name => "name"
  | constantName => "constantName"
  | type => "type"
  | declaredType => "declaredType"
  | isTransient => "isTransient"
  | owner => "owner"
  | simpleName => "simpleName"
  | qualifiedName => "qualifiedName"
  | packageName => "packageName"
  | fixtureName => "fixtureName"
  | fixtureQualifiedName => "fixtureQualifiedName"
  | isGeneric => "isGeneric"
  | isEnum => "isEnum"
  | isArray => "isArray"
  | isPrimitive => "isPrimitive"
  | typeArguments => "typeArguments"
  | enumConstants => "enumConstants"

/-- The property of a word. -/
def ofWord? (w : String) : Option Property :=
  all.find? fun p => p.word == w

end Property

/-- What can be called on a text or a list. Which of the two has it shows only when it is called on
a value. -/
inductive Method where
  | toUpperCase | toLowerCase | length | isEmpty | trim | contains | startsWith | endsWith
  | replace | substring | concat | quote | capitalize | size | first | get
deriving DecidableEq

namespace Method

/-- All methods. -/
def all : List Method :=
  [toUpperCase, toLowerCase, length, isEmpty, trim, contains, startsWith, endsWith,
    replace, substring, concat, quote, capitalize, size, first, get]

/-- The word for a method. -/
def word : Method → String
  | toUpperCase => "toUpperCase"
  | toLowerCase => "toLowerCase"
  | length => "length"
  | isEmpty => "isEmpty"
  | trim => "trim"
  | contains => "contains"
  | startsWith => "startsWith"
  | endsWith => "endsWith"
  | replace => "replace"
  | substring => "substring"
  | concat => "concat"
  | quote => "quote"
  | capitalize => "capitalize"
  | size => "size"
  | first => "first"
  | get => "get"

/-- The method of a word. -/
def ofWord? (w : String) : Option Method :=
  all.find? fun m => m.word == w

/-- The numbers of arguments that a method takes. Only one of them has a choice. -/
def arities : Method → List Nat
  | contains | startsWith | endsWith | concat | get => [1]
  | replace => [2]
  | substring => [1, 2]
  | _ => [0]

end Method

/-- The operators between two operands. -/
inductive Operator where
  | add | equal | notEqual | and | or
deriving DecidableEq

/-- A provider expression. Parentheses and the names of the inputs leave no trace in it, so two
sources may have the same one. -/
inductive Expr where
  | text (value : String)
  | int (value : Int)
  | bool (value : Bool)
  | null
  | input (which : Input)
  | call (function : Builtin) (arguments : List Expr)
  | property (target : Expr) (property : Property)
  | method (target : Expr) (method : Method) (arguments : List Expr)
  | index (target : Expr) (position : Expr)
  | not (operand : Expr)
  | binary (operator : Operator) (left right : Expr)
  | conditional (condition yes no : Expr)

instance : Inhabited Expr := ⟨.null⟩

end Fixtures.Provider
