import Fixtures.Provider.Parser

/-!
# `Fixtures.Provider.Basic`: compiled providers

A provider is a source together with the expression it was read as. `Provider.compile?` reads
all tokens before it looks for an expression, so a source with a statement in it is refused as
such whatever else is wrong with it.
-/

set_option autoImplicit false

namespace Fixtures

/-- A provider: its source, and the expression that computes it. -/
structure Provider where
  source : String
  body : Provider.Expr

namespace Provider

/-- Reads a source as a provider. -/
def compile? (source : String) : Except CompileFault Provider := do
  let body ← parse source.utf8ByteSize (← tokens source)
  return ⟨source, body⟩

end Provider

end Fixtures
