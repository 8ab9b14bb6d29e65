import Fixtures.Json.Printer
import Fixtures.Report
import Fixtures.Yaml.Printer

/-!
# `Fixtures.Report.Overview`: a report to print

What a command prints of a report: the counts, a line for each fixture and a line for each
failure. It has three forms, a table to be read and two to be processed.

On a terminal a table is coloured: the marks, the paths, the errors and the word in the line of
counts. The escape sequences for that are not part of the texts here, which are those that go to a
file or a pipe.
-/

set_option autoImplicit false

namespace Fixtures

/-- The line of a fixture. -/
structure FixtureLine where
  typeName : String
  path : String
  constants : Nat
  methods : Nat
deriving DecidableEq

/-- The line of a failed request. -/
structure FailureLine where
  typeName : String
  error : String
deriving DecidableEq

/-- What is printed of a report. -/
structure Overview where
  total : Nat
  succeeded : Nat
  failed : Nat
  fixtures : List FixtureLine
  failures : List FailureLine
deriving DecidableEq

/-- The forms of an overview. -/
inductive OutputFormat where
  | table
  | json
  | yaml
deriving DecidableEq

namespace Overview

/-- The overview of a report. -/
def ofReport (r : Report) : Overview where
  total := r.total
  succeeded := r.succeeded
  failed := r.failed
  fixtures := r.fixtures.map fun f =>
    { typeName := f.typeName, path := f.path, constants := f.constants.length,
      methods := f.methods.length }
  failures := r.failures.map fun e => { typeName := e.1.typeName, error := e.2.message }

/-! ### Data -/

def fixtureJson (l : FixtureLine) : Json :=
  .obj [("type_name", .str l.typeName), ("path", .str l.path), ("constants", .int l.constants),
    ("methods", .int l.methods)]

def failureJson (l : FailureLine) : Json :=
  .obj [("type_name", .str l.typeName), ("error", .str l.error)]

/-- An overview as data. -/
def toJson (o : Overview) : Json :=
  .obj [("total", .int o.total), ("succeeded", .int o.succeeded), ("failed", .int o.failed),
    ("fixtures", .arr (o.fixtures.map fixtureJson)),
    ("failures", .arr (o.failures.map failureJson))]

/-! ### Table -/

/-- A text with blanks behind it up to a width. -/
def padded (width : Nat) (s : String) : String :=
  s ++ String.ofList (List.replicate (width - s.toList.length) ' ')

/-- The line of a fixture in a table. -/
def fixtureRow (l : FixtureLine) : String :=
  "  ✓ " ++ padded 40 l.typeName ++ " " ++ l.path ++ " (" ++ toString l.constants
    ++ " constants, " ++ toString l.methods ++ " methods)"

/-- The line of a failure in a table. -/
def failureRow (l : FailureLine) : String :=
  "  ✗ " ++ padded 40 l.typeName ++ " " ++ l.error

/-- The last line of a table. -/
def countRow (o : Overview) (verb : String) : String :=
  verb ++ (if o.failed = 0 then " ok: " else " failed: ") ++ toString o.succeeded ++ " succeeded, "
    ++ toString o.failed ++ " failed, " ++ toString o.total ++ " total"

/-- An overview as a table, with an empty line before the counts. -/
def toTable (o : Overview) (verb : String) : String :=
  let rows := o.fixtures.map fixtureRow ++ o.failures.map failureRow ++ ["", o.countRow verb]
  String.join (rows.map (· ++ "\n"))

/-- An overview as it is printed. -/
def print (o : Overview) (format : OutputFormat) (verb : String) : String :=
  match format with
  | .table => o.toTable verb
  | .json => o.toJson.pretty ++ "\n"
  | .yaml => Yaml.print o.toJson

end Overview

end Fixtures
