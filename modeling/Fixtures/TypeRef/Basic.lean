/-!
# `Fixtures.TypeRef.Basic`: declared types

A `TypeRef` is a type as a field declares it: a primitive, a named type with arguments, an array,
or a type parameter of the enclosing type. This module holds the type, its text and the
operations that change what it names. `toText` is the written form that `TypeRef.parse` reads back.
-/

set_option autoImplicit false

namespace Fixtures

/-- The scalar types with a keyword of their own. -/
inductive Primitive where
  | boolean | byte | short | int | long | float | double | char
deriving DecidableEq

namespace Primitive

/-- All primitives, in the order of their declaration. -/
def all : List Primitive := [boolean, byte, short, int, long, float, double, char]

/-- The keyword of a primitive. -/
def keyword : Primitive → String
  | boolean => "boolean"
  | byte => "byte"
  | short => "short"
  | int => "int"
  | long => "long"
  | float => "float"
  | double => "double"
  | char => "char"

/-- The primitive with a given keyword. -/
def ofKeyword? (keyword : String) : Option Primitive :=
  all.find? fun p => p.keyword == keyword

/-- The literal that stands for a primitive without a better value. -/
def defaultLiteral : Primitive → String
  | boolean => "false"
  | byte => "0"
  | short => "(short) 0"
  | int => "0"
  | long => "0L"
  | float => "0.0f"
  | double => "0.0"
  | char => "' '"

/-- A keyword names its primitive. -/
theorem ofKeyword?_keyword (p : Primitive) : ofKeyword? p.keyword = some p := by
  cases p <;> rfl

end Primitive

/-- A declared type. -/
inductive TypeRef where
  /-- A primitive scalar. -/
  | primitive (kind : Primitive)
  /-- A class, interface or enum with its type arguments; no arguments is a raw use. -/
  | declared (name : String) (arguments : List TypeRef)
  /-- An array of the component type. -/
  | array (component : TypeRef)
  /-- A type parameter of the enclosing type. -/
  | parameter (name : String)

namespace TypeRef

instance : Inhabited TypeRef := ⟨parameter ""⟩

/-- A declared type without arguments. -/
def named (name : String) : TypeRef := declared name []

/-! ### Equality -/

mutual

/-- Equality of types. -/
def same : TypeRef → TypeRef → Bool
  | primitive a, primitive b => a = b
  | declared a as, declared b bs => a = b && sameAll as bs
  | array a, array b => same a b
  | parameter a, parameter b => a = b
  | _, _ => false

/-- Equality of argument lists. -/
def sameAll : List TypeRef → List TypeRef → Bool
  | [], [] => true
  | a :: as, b :: bs => same a b && sameAll as bs
  | _, _ => false

end

mutual

theorem same_iff : ∀ a b : TypeRef, same a b = true ↔ a = b
  | primitive a, b => by cases b <;> simp [same]
  | declared a as, b => by
    cases b with
    | declared b bs => simp [same, sameAll_iff as bs]
    | _ => simp [same]
  | array a, b => by
    cases b with
    | array b => simp [same, same_iff a b]
    | _ => simp [same]
  | parameter a, b => by cases b <;> simp [same]

theorem sameAll_iff : ∀ as bs : List TypeRef, sameAll as bs = true ↔ as = bs
  | [], [] => by simp [sameAll]
  | [], _ :: _ => by simp [sameAll]
  | _ :: _, [] => by simp [sameAll]
  | a :: as, b :: bs => by simp [sameAll, same_iff a b, sameAll_iff as bs]

end

instance : DecidableEq TypeRef := fun a b => decidable_of_iff _ (same_iff a b)

/-! ### Text -/

mutual

/-- The written form of a type. Names and arguments are separated as a reader of it expects, and a
type parameter is written as its name. -/
def toText : TypeRef → String
  | primitive kind => kind.keyword
  | declared name [] => name
  | declared name (argument :: arguments) =>
    name ++ "<" ++ argument.toText ++ argumentsText arguments ++ ">"
  | array component => component.toText ++ "[]"
  | parameter name => name

/-- The written form of the arguments after the first. -/
def argumentsText : List TypeRef → String
  | [] => ""
  | argument :: arguments => ", " ++ argument.toText ++ argumentsText arguments

end

/-- The name of a type without its arguments; array brackets stay. It is the name under which
providers and fixtures are looked up. -/
def erasure : TypeRef → String
  | primitive kind => kind.keyword
  | declared name _ => name
  | array component => component.erasure ++ "[]"
  | parameter name => name

/-! ### Contents -/

mutual

/-- Whether a type parameter occurs anywhere in a type. -/
def containsParameter : TypeRef → Bool
  | primitive _ => false
  | declared _ arguments => anyContainsParameter arguments
  | array component => component.containsParameter
  | parameter _ => true

/-- Whether a type parameter occurs anywhere in a list of types. -/
def anyContainsParameter : List TypeRef → Bool
  | [] => false
  | argument :: arguments => argument.containsParameter || anyContainsParameter arguments

end

mutual

/-- The declared names of a type, outermost first. Type parameters and primitives are none of them.
-/
def declaredNames : TypeRef → List String
  | primitive _ => []
  | declared name arguments => name :: allDeclaredNames arguments
  | array component => component.declaredNames
  | parameter _ => []

/-- The declared names of a list of types. -/
def allDeclaredNames : List TypeRef → List String
  | [] => []
  | argument :: arguments => argument.declaredNames ++ allDeclaredNames arguments

end

/-- The innermost type of an array that is no array itself. -/
def element : TypeRef → TypeRef
  | array component => component.element
  | other => other

/-- The number of array dimensions. -/
def depth : TypeRef → Nat
  | array component => component.depth + 1
  | _ => 0

/-! ### Binding and replacing -/

mutual

/-- Reads the argument-less names among `parameters` as type parameters. A text cannot tell the two
apart, so this is done where the owner of a type is known. -/
def bindParameters (parameters : List String) : TypeRef → TypeRef
  | primitive kind => primitive kind
  | declared name [] =>
    if parameters.contains name then parameter name else declared name []
  | declared name (argument :: arguments) =>
    declared name (argument.bindParameters parameters :: bindAllParameters parameters arguments)
  | array component => array (component.bindParameters parameters)
  | parameter name => parameter name

/-- Reads the argument-less names among `parameters` as type parameters, in each type. -/
def bindAllParameters (parameters : List String) : List TypeRef → List TypeRef
  | [] => []
  | argument :: arguments =>
    argument.bindParameters parameters :: bindAllParameters parameters arguments

end

mutual

/-- Replaces the type parameters that `lookup` knows. What is put in is not looked into again. -/
def substitute (lookup : String → Option TypeRef) : TypeRef → TypeRef
  | primitive kind => primitive kind
  | declared name arguments => declared name (substituteAll lookup arguments)
  | array component => array (component.substitute lookup)
  | parameter name => (lookup name).getD (parameter name)

/-- Replaces the type parameters that `lookup` knows, in each type. -/
def substituteAll (lookup : String → Option TypeRef) : List TypeRef → List TypeRef
  | [] => []
  | argument :: arguments => argument.substitute lookup :: substituteAll lookup arguments

end

mutual

/-- Replaces every declared name by its image. -/
def mapNames (f : String → String) : TypeRef → TypeRef
  | primitive kind => primitive kind
  | declared name arguments => declared (f name) (mapAllNames f arguments)
  | array component => array (component.mapNames f)
  | parameter name => parameter name

/-- Replaces every declared name by its image, in each type. -/
def mapAllNames (f : String → String) : List TypeRef → List TypeRef
  | [] => []
  | argument :: arguments => argument.mapNames f :: mapAllNames f arguments

end

/-! ### The list functions are the pointwise ones -/

theorem anyContainsParameter_eq (ts : List TypeRef) :
    anyContainsParameter ts = ts.any containsParameter := by
  induction ts with
  | nil => rfl
  | cons t ts ih => simp [anyContainsParameter, ih]

theorem allDeclaredNames_eq (ts : List TypeRef) :
    allDeclaredNames ts = ts.flatMap declaredNames := by
  induction ts with
  | nil => rfl
  | cons t ts ih => simp [allDeclaredNames, ih]

theorem bindAllParameters_eq (ps : List String) (ts : List TypeRef) :
    bindAllParameters ps ts = ts.map (bindParameters ps) := by
  induction ts with
  | nil => rfl
  | cons t ts ih => simp [bindAllParameters, ih]

theorem substituteAll_eq (lookup : String → Option TypeRef) (ts : List TypeRef) :
    substituteAll lookup ts = ts.map (substitute lookup) := by
  induction ts with
  | nil => rfl
  | cons t ts ih => simp [substituteAll, ih]

theorem mapAllNames_eq (f : String → String) (ts : List TypeRef) :
    mapAllNames f ts = ts.map (mapNames f) := by
  induction ts with
  | nil => rfl
  | cons t ts ih => simp [mapAllNames, ih]

end TypeRef

end Fixtures
