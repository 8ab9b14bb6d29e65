import Fixtures.Error
import Fixtures.Fixture

/-!
# `Fixtures.Report`: what became of the requests of a run

A report has one outcome for each request, in the order of the requests.
-/

set_option autoImplicit false

namespace Fixtures

/-- What became of a request. -/
structure Outcome where
  request : Request
  result : Except FixtureError Fixture

/-- The outcomes of a run, one for each request and in their order. -/
structure Report where
  outcomes : List Outcome

namespace Report

/-- The generated fixtures. -/
def fixtures (r : Report) : List Fixture :=
  r.outcomes.filterMap fun o => o.result.toOption

/-- The failed requests and their errors. -/
def failures (r : Report) : List (Request × FixtureError) :=
  r.outcomes.filterMap fun o =>
    match o.result with
    | .ok _ => none
    | .error e => some (o.request, e)

/-- The first outcome for a type name. Later requests for a type fail, so this is the one that
counts. -/
def outcome? (r : Report) (typeName : String) : Option Outcome :=
  r.outcomes.find? fun o => o.request.typeName == typeName

/-- The number of requests. -/
def total (r : Report) : Nat := r.outcomes.length

/-- The number of generated fixtures. -/
def succeeded (r : Report) : Nat := r.fixtures.length

/-- The number of failed requests. -/
def failed (r : Report) : Nat := r.failures.length

/-- Whether no request failed. -/
def isSuccess (r : Report) : Bool := r.failed == 0

/-- A report in a line. -/
def toText (r : Report) : String :=
  "RunReport(total=" ++ toString r.total ++ ", succeeded=" ++ toString r.succeeded ++ ", failed="
    ++ toString r.failed ++ ")"

end Report

end Fixtures
