import Fixtures.Catalog
import Fixtures.Provider.Basic
import Fixtures.ValueShape

/-!
# `Fixtures.Provider.Table`: providers by type or shape

A table holds compiled providers. A key is a shape tag or a type text; a type text is read inside
a package and kept as its qualified name without arguments, so all spellings of one type meet
under one key, and of two the later in the order of the written keys stays.
-/

set_option autoImplicit false

namespace Fixtures

/-- Compiled providers by shape tag or qualified type name. -/
abbrev ProviderTable := NameMap Provider

namespace ProviderTable

/-- The key under which a written key is kept: a tag, or else the qualified name of the type that
it means inside the package, without arguments. A type has to be one that the catalog or the
library knows. -/
def normalKey (c : Catalog) (package key : String) : Except FixtureError String :=
  let key := Text.trim key
  if ValueShape.isTag key then .ok key
  else
    match TypeRef.parse key with
    | .error cause => .error (.malformedKey key cause)
    | .ok t =>
      let name := (c.qualifyType package t).erasure
      if c.isKnown name then .ok name else .error (.unknownKey key)

/-- Adds the provider of one written key. A provider that stands under the same key already gives
way to it. -/
def addSource (c : Catalog) (package : String) (table : ProviderTable) (e : String × String) :
    Except FixtureError ProviderTable := do
  let key ← normalKey c package e.1
  let provider ← (Provider.compile? e.2).mapError .provider
  return table.insert key provider

/-- Compiles the providers of a package, in the order of their written keys; the first that
fails is the error. -/
def compile (c : Catalog) (package : String) (sources : NameMap String) :
    Except FixtureError ProviderTable :=
  sources.entries.foldlM (addSource c package) .empty

/-- The providers of `top`, and under all other keys those of `table`. This is how the providers of
a type are laid over those of the settings. -/
def layered (table top : ProviderTable) : ProviderTable := table.overlay top

end ProviderTable

end Fixtures
