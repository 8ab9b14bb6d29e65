import Fixtures.Catalog
import Fixtures.Text.Literal
import Fixtures.Uuid.Basic

/-!
# `Fixtures.Render`: pieces of generated source

How names, types and values are written. Inside a package, the names of that package and of the
core library package are written short and all others in full.
-/

set_option autoImplicit false

namespace Fixtures.Render

/-- The package whose names are short everywhere. -/
def corePackage : String := "java.lang"

/-- A qualified name as it is written inside a package: short for a type of the package or of the
core library package. Whether the short name is taken by another type is not looked at. -/
def name (package qualified : String) : String :=
  let owner := Library.packageName qualified
  if owner = corePackage ∨ owner = package then Library.simpleName qualified else qualified

/-- A type as it is written inside a package. All names in it are, at any depth. -/
def type (package : String) (t : TypeRef) : String :=
  (t.mapNames (name package)).toText

/-- The expression of a UUID. -/
def uuid (u : Uuid) : String :=
  Library.uuidName ++ ".fromString(\"" ++ u.toText ++ "\")"

/-- The expression of an empty array of a type: the first dimension has no elements, and the
others are left open. -/
def emptyArray (t : TypeRef) : String :=
  "new " ++ t.element.erasure ++ "[0]" ++ String.join (List.replicate (t.depth - 1) "[]")

/-- A constant of an enum. -/
def enumConstant (typeName constant : String) : String :=
  typeName ++ "." ++ constant

/-- A type parameter with its bound, as declared inside the package of its type. -/
def typeParameter (c : Catalog) (d : TypeDescription) (p : TypeParameter) : String :=
  match p.bound with
  | none => p.name
  | some bound =>
    p.name ++ " extends "
      ++ type d.package (c.qualifyType d.package (bound.bindParameters d.parameterNames))

/-- The type parameters of a type between angle brackets; nothing without any. -/
def typeParameters (c : Catalog) (d : TypeDescription) : String :=
  if d.typeParameters.isEmpty then ""
  else "<" ++ ", ".intercalate (d.typeParameters.map (typeParameter c d)) ++ ">"

/-- The path of a source file: a folder for each part of the package. -/
def path (package simpleName : String) : String :=
  if package.isEmpty then simpleName ++ ".java"
  else
    String.ofList (package.toList.map fun c => if c = '.' then '/' else c)
      ++ "/" ++ simpleName ++ ".java"

end Fixtures.Render
