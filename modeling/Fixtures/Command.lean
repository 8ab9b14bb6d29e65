import Fixtures.Command.Arguments
import Fixtures.Command.Settings
import Fixtures.Description.Json
import Fixtures.Engine
import Fixtures.Json.Reader
import Fixtures.Yaml.Value

/-!
# `Fixtures.Command`: generating and checking from the command line

A command loads its settings and a catalog, runs the requests, writes the sources and prints an
overview. Everything it reads is given: the environment, the files and where random UUIDs come
from. What it does is the outcome (`Execution`): the text it prints, the files afterwards, and
whether it succeeds. A failed request stops no file of another from being written.
-/

set_option autoImplicit false

namespace Fixtures

/-! ### Catalogs -/

/-- Reads a list of descriptions. -/
def Catalog.descriptions? {ν : Type} [Document ν] : ν → Option (List TypeDescription) :=
  Document.list? TypeDescription.read?

/-- The descriptions of a catalog file: YAML by its extension, and else JSON. -/
def Catalog.readDescriptions (path text : String) : Except CommandError (List TypeDescription) :=
  if Path.extension? path = some "yaml" ∨ Path.extension? path = some "yml" then
    match (Yaml.Value.ofText? text).bind Catalog.descriptions? with
    | some ds => .ok ds
    | none => .error .yaml
  else
    match (Json.read? text).bind Catalog.descriptions? with
    | some ds => .ok ds
    | none => .error .json

/-- Loads a catalog file. A file that cannot be read, one that is not of its format, and one that
describes a type twice are different errors. -/
def Catalog.load (files : FileTree) (path : String) : Except CommandError Catalog :=
  match files.read? path with
  | none => .error .file
  | some text => do
    let ds ← Catalog.readDescriptions path text
    (Catalog.ofList ds).mapError .fixture

/-! ### Commands -/

/-- What a command has done. -/
structure Execution where
  stdout : String
  /-- The files afterwards. -/
  files : FileTree
  result : Except CommandError Unit

namespace Arguments

/-- The settings with what the command line says about them. -/
def adjust (a : Arguments) (s : Settings) : Settings where
  outDir := a.out.getD s.outDir
  generation := { s.generation with
    emitHeader := s.generation.emitHeader && !a.noHeader
    uuidSeed := a.seed.or s.generation.uuidSeed
    workers := a.workers.getD s.generation.workers }

/-- The verb that stands before the counts. -/
def verb (a : Arguments) : String := if a.generates then "generate" else "check"

/-- The types that are wanted: those given, or else the targets of the catalog. All of them are
wanted with the bounds of their type parameters. -/
def requests (a : Arguments) (c : Catalog) : List Request :=
  let names := if a.types.isEmpty then c.targets else a.types
  names.map fun name => { typeName := name, typeArguments := none }

/-- Runs the requests of a command, with an engine that has published nothing yet. -/
def report (a : Arguments) (s : Settings) (random : String → UuidSource) (files : FileTree) :
    Except CommandError Report := do
  let c ← Catalog.load files a.catalog
  let requests := a.requests c
  if requests.isEmpty then throw (.noTargets a.catalog)
  let e ← (Engine.ofConfig c s.generation).mapError .fixture
  return (e.run random requests .empty).1

end Arguments

/-- Writes the sources of fixtures below a folder, up to the first that cannot be written. Those
before it stay. -/
def FileTree.writeFixtures (outDir : String) : List Fixture → FileTree →
    FileTree × Except CommandError Unit
  | [], t => (t, .ok ())
  | f :: rest, t =>
    match t.write? (Path.join outDir f.path) f.source with
    | none => (t, .error .file)
    | some t => writeFixtures outDir rest t

namespace Arguments

/-- Whether a command writes files. -/
def writes (a : Arguments) : Bool := a.generates && !a.dryRun

/-- What a command does with the report of its run. When a file cannot be written nothing is
printed, and that is the error; otherwise the overview is printed even if requests failed. -/
def conclude (a : Arguments) (s : Settings) (r : Report) (files : FileTree) : Execution :=
  let (files, written) :=
    if a.writes then FileTree.writeFixtures s.outDir r.fixtures files else (files, .ok ())
  match written with
  | .error e => { stdout := "", files, result := .error e }
  | .ok () =>
    let result := if r.isSuccess then .ok () else .error (.generation r.failed r.total)
    { stdout := (Overview.ofReport r).print a.format a.verb, files, result }

/-- Executes a command. It ends at the first error before the run, without an overview. -/
def execute (a : Arguments) (random : String → UuidSource) (environment : NameMap String)
    (files : FileTree) : Execution :=
  let loaded := do
    let s ← Settings.load files environment a.config
    let s := a.adjust s
    return (s, ← a.report s random files)
  match loaded with
  | .error e => { stdout := "", files, result := .error e }
  | .ok (s, r) => a.conclude s r files

end Arguments

end Fixtures
