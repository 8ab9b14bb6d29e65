import Fixtures.Description
import Fixtures.Error
import Fixtures.Library
import Fixtures.Text.Blank
import Fixtures.Text.Reading

/-!
# `Fixtures.Catalog`: the described types of a run

A catalog holds descriptions under their qualified names, one for each name. It gives meaning to
the short names of a type text: a short name means a type of the same package, else a library
type that needs no import, else the only described type of that name, and else nothing new.
-/

set_option autoImplicit false

namespace Fixtures

open Text

/-- The described types of a run by qualified name. -/
structure Catalog where
  types : NameMap TypeDescription
  /-- Every description stands under its own name. -/
  named : ∀ e ∈ types.entries, e.1 = e.2.qualifiedName

namespace Catalog

/-- The catalog without descriptions. -/
def empty : Catalog := ⟨.empty, by simp [NameMap.empty]⟩

instance : Inhabited Catalog := ⟨empty⟩

/-- The description under a qualified name. -/
def get? (c : Catalog) (name : String) : Option TypeDescription := c.types.get? name

/-- Whether a qualified name is described. -/
def contains (c : Catalog) (name : String) : Bool := c.types.contains name

/-- Adds a description, unless its name is taken. Descriptions stand under their own names, so the
invariant of the catalog is kept. -/
def insert (c : Catalog) (d : TypeDescription) : Except FixtureError Catalog :=
  if c.contains d.qualifiedName then
    .error (.duplicateType d.qualifiedName)
  else
    .ok ⟨c.types.insert d.qualifiedName d, fun e he => by
      rcases NameMap.mem_put he with h | h
      · subst h; rfl
      · exact c.named e h⟩

/-- The catalog of a list of descriptions; the first repeated name is the error. -/
def ofList (ds : List TypeDescription) : Except FixtureError Catalog :=
  ds.foldlM insert empty

/-- The description under a qualified name, which has to be there. -/
def require (c : Catalog) (name : String) : Except FixtureError TypeDescription :=
  match c.get? name with
  | some d => .ok d
  | none => .error (.unknownType name)

/-- The descriptions in order of name. -/
def toList (c : Catalog) : List TypeDescription := c.types.values

/-- The number of descriptions. -/
def size (c : Catalog) : Nat := c.types.size

/-- The names of the types marked as generation targets, in order. -/
def targets (c : Catalog) : List String :=
  (c.types.entries.filter fun e => e.2.fixture).map (·.1)

/-! ### The meaning of names -/

/-- The only described type with a simple name. With two of one name, in different packages, there
is none. -/
def unique? (c : Catalog) (name : String) : Option TypeDescription :=
  match c.toList.filter fun d => d.name == name with
  | [d] => some d
  | _ => none

/-- The qualified name that a name means inside a package. A name with a dot is taken to be
qualified. A type of the package comes before one of the library, and both come before one of
another package. A name that means nothing is left as it is. -/
def qualify (c : Catalog) (package name : String) : String :=
  if name.toList.contains '.' then name
  else
    let sibling := TypeDescription.qualify package name
    if c.contains sibling then sibling
    else
      match Library.implicit? name with
      | some qualified => qualified
      | none =>
        match c.unique? name with
        | some d => d.qualifiedName
        | none => name

/-- A type with every name replaced by what it means inside a package. -/
def qualifyType (c : Catalog) (package : String) (t : TypeRef) : TypeRef :=
  t.mapNames (c.qualify package)

/-- A reversed text without the array brackets it starts with; blanks may stand before each
pair. -/
def dropBrackets (s : List Char) : List Char :=
  match s with
  | ']' :: '[' :: rest => dropBrackets (rest.dropWhile isBlank)
  | s => s
termination_by s.length
decreasing_by
  have := length_dropWhile_le isBlank rest
  simp only [List.length_cons]
  omega

/-- The name of an array's element type; blanks around it and before brackets do not count. -/
def elementName (name : String) : String :=
  String.ofList (dropBrackets (trimChars name.toList).reverse).reverse

/-- Whether a name, with array brackets or without, names a primitive, a described type or a
library type. -/
def isKnown (c : Catalog) (name : String) : Bool :=
  let element := elementName name
  (Primitive.ofKeyword? element).isSome || c.contains element || Library.contains element

end Catalog

end Fixtures
