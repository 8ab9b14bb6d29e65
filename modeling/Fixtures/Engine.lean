import Fixtures.Config
import Fixtures.Constants
import Fixtures.Creation
import Fixtures.Report
import Fixtures.Schedule
import Fixtures.Source

/-!
# `Fixtures.Engine`: generating fixtures

An `Engine` is a catalog with settings under which fixtures can be generated. One pass makes the
fixture of one type: its constants, its creation methods and its source, and then publishes its
summary. `generate` makes a single fixture, `run` makes those of all requests, each after the
fixtures it refers to. Both go from the registry before to the registry after, so an engine is
used again by passing on what it has published.

The UUIDs of a pass come from the seed and the name of its type. Without a seed they come from
`random`, which gives a source for every type; every call may be given another one.
-/

set_option autoImplicit false

namespace Fixtures

/-- A catalog and settings under which fixtures can be generated. The providers of the settings are
compiled once, so an engine is there only if the settings are accepted and all of them compile. -/
structure Engine where
  catalog : Catalog
  config : Config
  /-- The providers of the settings. -/
  defaults : ProviderTable
  /-- The settings are accepted. -/
  isValid : config.validate = .ok ()
  /-- The providers are compiled from their sources, outside of any package. -/
  isCompiled : ProviderTable.compile catalog "" config.providers = .ok defaults

namespace Engine

/-- The engine of a catalog and settings. The settings are looked at before their providers. -/
def ofConfig (catalog : Catalog) (config : Config) : Except FixtureError Engine :=
  match hv : config.validate with
  | .error e => .error e
  | .ok () =>
    match hc : ProviderTable.compile catalog "" config.providers with
    | .error e => .error e
    | .ok defaults => .ok { catalog, config, defaults, isValid := hv, isCompiled := hc }

/-! ### A pass -/

/-- The fields of which a fixture has constants. Whether the transient ones are among them is for
the settings to say. -/
def includedFields (e : Engine) (m : Model) : List ModelField :=
  m.includedFields e.config.includeTransient

/-- Where the UUIDs of a pass come from. With a seed this depends on the name of the type alone, so
a pass draws the same in whatever company it runs. -/
def uuidSource (e : Engine) (random : String → UuidSource) (typeName : String) : UuidSource :=
  match e.config.uuidSeed with
  | some seed => .forPass seed typeName
  | none => random typeName

/-- The pipeline of a pass: the providers of the type come before those of the settings. They are
compiled for each pass, as their keys are read inside the package of the type. -/
def pipeline (e : Engine) (m : Model) : Except FixtureError Pipeline := do
  let own ← ProviderTable.compile e.catalog m.package m.description.providers
  return { providers := e.defaults.layered own, owner := m.type, nullToken := e.config.nullToken }

/-- The fixture that has some constants. Its methods may fail still, and its source is written when
everything else is known. -/
def compose (e : Engine) (m : Model) (constants : List Constant) : Except FixtureError Fixture := do
  let methods ← m.creationMethods (e.includedFields m) constants e.config.nullToken
  return {
    typeName := m.type.qualifiedName
    fixtureName := m.type.fixtureName
    path := Render.path m.package m.type.fixtureSimpleName
    constants
    methods
    source := Source.text e.catalog m constants methods e.config.emitHeader }

/-- The fixture of a type: its providers are compiled first, then its constants are made, and then
all else of it. -/
def fixture (e : Engine) (m : Model) (peers : Peers) (source : UuidSource) :
    Except FixtureError Fixture := do
  let pipeline ← e.pipeline m
  let constants ← ((m.constants (e.includedFields m) pipeline peers).run source).1
  e.compose m constants

/-- Publishes a fixture if it could be made; else nothing is published. -/
def publish (made : Except FixtureError Fixture) (registry : Registry) :
    Except FixtureError Fixture × Registry :=
  match made with
  | .error err => (.error err, registry)
  | .ok f =>
    match registry.publish f.summary with
    | .error err => (.error err, registry)
    | .ok after => (.ok f, after)

/-- One pass: the fixture of a type is made and published. A pass that fails publishes nothing. -/
def pass (e : Engine) (random : String → UuidSource) (targets : List String) (m : Model)
    (registry : Registry) : Except FixtureError Fixture × Registry :=
  publish (e.fixture m { targets, registry } (e.uuidSource random m.type.qualifiedName)) registry

/-- The types of which fixtures are wanted: those marked in the catalog and those requested. A
field of such a type refers to the fixture of its type. -/
def targets (e : Engine) (requests : List Request) : List String :=
  e.catalog.targets ++ requests.map (·.typeName)

/-- Generates one fixture; what it refers to has to be published already. The request alone is
added to the targets, so a type that was requested on another occasion is none. -/
def generate (e : Engine) (random : String → UuidSource) (request : Request)
    (registry : Registry) : Except FixtureError Fixture × Registry :=
  match Model.resolve e.catalog request with
  | .error err => (.error err, registry)
  | .ok m => e.pass random (e.targets [request]) m registry

/-! ### A run -/

/-- The models of requests; only the first request for a type has one. A request that has none for
another reason counts as seen too. -/
def prepare (e : Engine) : List String → List Request → List (Request × Except FixtureError Model)
  | _, [] => []
  | seen, q :: rest =>
    let model := if seen.contains q.typeName then .error (.duplicateRequest q.typeName)
      else Model.resolve e.catalog q
    (q, model) :: e.prepare (q.typeName :: seen) rest

/-- A pass as the schedule sees it: its name, and the types whose fixtures its constants refer to.
Both are known before any constant is made. -/
def node (e : Engine) (targets : List String) (m : Model) : PassNode where
  typeName := m.type.qualifiedName
  dependsOn := (e.includedFields m).filterMap (m.dependency? targets)

/-- Runs passes one after another, each with the registry that the ones before have left. A pass
that fails leaves it as it was, and the others go on. -/
def runPasses (e : Engine) (random : String → UuidSource) (targets : List String) :
    List Model → Registry → List (String × Except FixtureError Fixture) × Registry
  | [], registry => ([], registry)
  | m :: rest, registry =>
    let (result, registry) := e.pass random targets m registry
    let (results, registry) := e.runPasses random targets rest registry
    ((m.type.qualifiedName, result) :: results, registry)

/-- What a run knows before its first pass. Requests have slots in the table of results, models
have places among those that could be resolved, and the schedule speaks of these places. -/
structure Plan where
  /-- The errors of the requests without a model, each with the slot of its request. -/
  refused : List (Nat × FixtureError)
  /-- The models of the others, each with the slot of its request. -/
  models : List (Nat × Model)
  /-- The order of the models by their places. -/
  schedule : Schedule

/-- Refuses requests or resolves their models, and schedules these. Nothing is generated so far,
and the registry is not looked at. -/
def plan (e : Engine) (requests : List Request) : Plan :=
  let prepared := (e.prepare [] requests).zipIdx
  let models := prepared.filterMap fun p => p.1.2.toOption.map fun m => (p.2, m)
  { refused := prepared.filterMap fun p =>
      match p.1.2 with
      | .error err => some (p.2, err)
      | .ok _ => none
    models
    schedule := Schedule.ofNodes (models.map fun p => e.node (e.targets requests) p.2) }

namespace Plan

/-- The errors of the models that the schedule rejects, with their slots. -/
def rejected (p : Plan) : List (Nat × FixtureError) :=
  p.schedule.rejected.filterMap fun r => p.models[r.1]?.map fun m => (m.1, r.2)

/-- The models that have a pass, level by level, with their slots. Inside a level they are in the
order of their places. -/
def scheduled (p : Plan) : List (Nat × Model) :=
  p.schedule.levels.flatten.filterMap fun i => p.models[i]?

/-- What a run writes into the table of results, in this order: the errors of the requests without
a model, those of the rejected models, and what the passes have given. -/
def writes (p : Plan) (finished : List (Except FixtureError Fixture)) :
    List (Nat × Except FixtureError Fixture) :=
  (p.refused ++ p.rejected).map (fun w => (w.1, .error w.2))
    ++ (p.scheduled.map (·.1)).zip finished

end Plan

/-- A table of results after some writes. A slot that is written twice keeps the second result. -/
def fill (slots : Nat) (writes : List (Nat × Except FixtureError Fixture)) :
    Array (Option (Except FixtureError Fixture)) :=
  writes.foldl (fun table w => table.setIfInBounds w.1 (some w.2)) (Array.replicate slots none)

/-- The outcomes of requests as their slots say. A slot that nothing was written into would be an
error of its own. -/
def outcomesOf (requests : List Request)
    (table : Array (Option (Except FixtureError Fixture))) : List Outcome :=
  (requests.zip table.toList).map fun p =>
    { request := p.1, result := p.2.getD (.error (.neverScheduled p.1.typeName)) }

/-- Generates the fixtures of all requests. A request that fails stops no other, but fixtures that
refer to its fixture fail too. The outcomes are in the order of the requests, whatever order the
passes have run in. -/
def run (e : Engine) (random : String → UuidSource) (requests : List Request)
    (registry : Registry) : Report × Registry :=
  let plan := e.plan requests
  let passes := e.runPasses random (e.targets requests) (plan.scheduled.map (·.2)) registry
  let table := fill requests.length (plan.writes (passes.1.map (·.2)))
  ({ outcomes := outcomesOf requests table }, passes.2)

end Engine

end Fixtures
