import Fixtures.Bisection
import Fixtures.Error
import Fixtures.Fixture

/-!
# `Fixtures.Registry`: the fixtures that exist so far

A registry keeps the summary of every published fixture under the name of its type. An entry is
written once: publishing the same summary again changes nothing, and a different one for the same
type is refused.
-/

set_option autoImplicit false

namespace Fixtures

/-- Whether a fixture has a constant. -/
def Summary.hasConstant (s : Summary) (name : String) : Bool :=
  Bisection.contains name s.constants

/-- The summaries of the published fixtures by the names of their types. Other fixtures see nothing
else of a fixture. -/
structure Registry where
  fixtures : NameMap Summary
  /-- Every summary stands under the name of its type. -/
  named : ∀ e ∈ fixtures.entries, e.1 = e.2.typeName
deriving DecidableEq

namespace Registry

/-- The registry before the first fixture. -/
def empty : Registry := ⟨.empty, by simp [NameMap.empty]⟩

instance : Inhabited Registry := ⟨empty⟩

/-- The summary for a type. -/
def get? (r : Registry) (typeName : String) : Option Summary := r.fixtures.get? typeName

/-- Whether a type has a published fixture. -/
def contains (r : Registry) (typeName : String) : Bool := r.fixtures.contains typeName

/-- The number of published fixtures. -/
def size (r : Registry) : Nat := r.fixtures.size

/-- Whether nothing is published. -/
def isEmpty (r : Registry) : Bool := r.fixtures.isEmpty

/-- The names of the types in order. -/
def names (r : Registry) : List String := r.fixtures.names

/-- The summaries in order of the names of their types. -/
def summaries (r : Registry) : List Summary := r.fixtures.values

/-- The registry with an entry for a type that has none. -/
def insert (r : Registry) (s : Summary) : Registry :=
  ⟨r.fixtures.insert s.typeName s, fun e he => by
    rcases NameMap.mem_put he with h | h
    · subst h; rfl
    · exact r.named e h⟩

/-- Publishes a fixture. The same one can be published again, and it is an error to publish another
one for its type. -/
def publish (r : Registry) (s : Summary) : Except FixtureError Registry :=
  match r.get? s.typeName with
  | none => .ok (r.insert s)
  | some present => if present = s then .ok r else .error (.conflictingFixture s.typeName)

end Registry

end Fixtures
