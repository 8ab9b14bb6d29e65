import Fixtures.Proofs.Engine.Run
import Fixtures.Proofs.Pruned

/-!
# `Fixtures.Proofs.Engine.Pruned`: excluded fields leave no trace but the places of others

A run does the same on a catalog without the fields that have no constants
(`run_pruned`), when every request has a model: the outcomes are the same but for the places that
the constants tell of their fields, and so is the registry.

Model by model, the included fields are the same but for their places. So the passes depend on
each other in the same way (`node_pruned`) and are scheduled in the same order, and each makes the
same fixture but for the places in its constants (`fixture_pruned`). Other passes see only the
summary of a fixture, in which there are no places.
-/

set_option autoImplicit false

namespace Fixtures

/-! ### Without places -/

/-- A fixture whose constants are without the places of their fields. -/
def Fixture.unplaced (f : Fixture) : Fixture :=
  { f with constants := f.constants.map Constant.unplaced }

/-- The summary of a fixture does not show places, so publishing does not see them. -/
theorem Fixture.summary_unplaced (f : Fixture) : f.unplaced.summary = f.summary := by
  have hnames : f.unplaced.constants.map (·.name) = f.constants.map (·.name) := by
    rw [unplaced, List.map_map]
    rfl
  rw [summary, hnames]
  rfl

/-- An outcome without the places of fields. -/
def Outcome.unplaced (o : Outcome) : Outcome :=
  { o with result := o.result.map Fixture.unplaced }

/-- A report without the places of fields. -/
def Report.unplaced (r : Report) : Report := ⟨r.outcomes.map Outcome.unplaced⟩

namespace Engine

variable {e : Engine} {requests : List Request}

/-- The engine with the pruned catalog, under the same settings. Providers are compiled from the
types of the catalog, of which none is lost. -/
def pruned (e : Engine) : Engine where
  catalog := e.catalog.pruned e.config.includeTransient
  config := e.config
  defaults := e.defaults
  isValid := e.isValid
  isCompiled := by
    rw [ProviderTable.compile_pruned]
    exact e.isCompiled

/-- The pruned model, under the settings of the engine. -/
abbrev prunedModel (e : Engine) (m : Model) : Model := m.pruned e.config.includeTransient

/-! ### One pass -/

/-- The pipeline of a model is made of its own providers and those of the settings. Fields do not
occur in it. -/
theorem pipeline_pruned (m : Model) : e.pruned.pipeline (e.prunedModel m) = e.pipeline m := by
  have hcompile : ProviderTable.compile e.pruned.catalog = ProviderTable.compile e.catalog :=
    ProviderTable.compile_pruned
  unfold pipeline
  rw [hcompile]
  rfl

/-- The included fields are the same without their places, as those that are dropped are not
included. -/
theorem map_unplaced_includedFields (m : Model) :
    (e.pruned.includedFields (e.prunedModel m)).map ModelField.unplaced
      = (e.includedFields m).map ModelField.unplaced :=
  m.map_unplaced_pruned

/-- The text of a fixture does not show excluded fields: imports and constants are those of the
included ones. -/
theorem text_pruned (m : Model) (constants : List Constant) (methods : List CreationMethod) :
    Source.text e.pruned.catalog (e.prunedModel m) constants methods e.config.emitHeader
      = Source.text e.catalog m constants methods e.config.emitHeader := by
  have hparameters : Render.typeParameters e.pruned.catalog (e.prunedModel m).description
      = Render.typeParameters e.catalog m.description := by
    unfold Render.typeParameters Render.typeParameter
    rw [show e.pruned.catalog.qualifyType = e.catalog.qualifyType from Catalog.qualifyType_pruned]
    rfl
  unfold Source.text Source.lines
  rw [hparameters]
  rfl

/-- Fixtures are composed in the same way of constants that are the same without places. Methods
are found by names, and texts do not tell places. -/
theorem compose_pruned (m : Model) {constants constants' : List Constant}
    (h : constants'.map Constant.unplaced = constants.map Constant.unplaced) :
    (e.pruned.compose (e.prunedModel m) constants').map Fixture.unplaced
      = (e.compose m constants).map Fixture.unplaced := by
  -- Methods are made of the names of constants and fields.
  have hmethods : (e.prunedModel m).creationMethods (e.pruned.includedFields (e.prunedModel m))
        constants' e.config.nullToken
      = m.creationMethods (e.includedFields m) constants e.config.nullToken := by
    rw [← Model.creationMethods_map Constant.keeps_unplaced, map_unplaced_includedFields, h,
      ← m.creationMethods_map Constant.keeps_unplaced (e.includedFields m)]
    rfl
  have htext : ∀ methods,
      Source.text e.pruned.catalog (e.prunedModel m) constants' methods e.config.emitHeader
        = Source.text e.catalog m constants methods e.config.emitHeader := by
    intro methods
    rw [text_pruned, ← Source.text_unplaced, h, Source.text_unplaced]
  unfold compose
  rw [show e.pruned.config = e.config from rfl, hmethods]
  cases m.creationMethods (e.includedFields m) constants e.config.nullToken with
  | error err => rfl
  | ok methods =>
    simp only [htext, bind, Except.bind, pure, Except.pure, Except.map, Fixture.unplaced, h]
    rfl

/-- A pass makes the same fixture without places. The constants are made field by field, and the
same UUIDs are drawn on the way. -/
theorem fixture_pruned (m : Model) (peers : Peers) (source : UuidSource) :
    (e.pruned.fixture (e.prunedModel m) peers source).map Fixture.unplaced
      = (e.fixture m peers source).map Fixture.unplaced := by
  have hconstants : ∀ pipeline, (((e.prunedModel m).constants
        (e.pruned.includedFields (e.prunedModel m)) pipeline peers).run source).1.map
          (List.map Constant.unplaced)
      = ((m.constants (e.includedFields m) pipeline peers).run source).1.map
        (List.map Constant.unplaced) := by
    intro pipeline
    -- The fields have the same constants because they are the same without their places.
    have hunplaced : ∀ fields, ((m.constants fields pipeline peers).run source).1.map
        (List.map Constant.unplaced)
          = ((m.constants (fields.map ModelField.unplaced) pipeline peers).run source).1 := by
      intro fields
      rw [Model.constants_unplaced, run_map_drawing]
    rw [Model.constants_pruned, hunplaced, hunplaced, map_unplaced_includedFields]
  unfold fixture
  rw [pipeline_pruned]
  refine map_bind_congr (k := id) rfl fun pipeline pipeline' hsame => ?_
  obtain rfl : pipeline' = pipeline := hsame
  exact map_bind_congr (hconstants pipeline') fun constants constants' => compose_pruned m

/-- A seeded pass gives the same fixture without places, and leaves the same registry. -/
theorem pass_pruned (hseed : e.config.uuidSeed.isSome) (random random' : String → UuidSource)
    (targets : List String) (m : Model) (r : Registry) :
    (e.pruned.pass random' targets (e.prunedModel m) r).1.map Fixture.unplaced
        = (e.pass random targets m r).1.map Fixture.unplaced ∧
      (e.pruned.pass random' targets (e.prunedModel m) r).2 = (e.pass random targets m r).2 := by
  have hsource : e.pruned.uuidSource random' (e.prunedModel m).type.qualifiedName
      = e.uuidSource random m.type.qualifiedName := uuidSource_congr hseed rfl ..
  unfold pass
  rw [hsource]
  exact publish_congr_map Fixture.summary_unplaced (fixture_pruned m _ _) r

/-! ### A run -/

/-- The marked types are the same, since pruning drops fields and no types. -/
theorem targets_pruned (requests : List Request) :
    e.pruned.targets requests = e.targets requests := by
  have hmarked : e.pruned.catalog.targets = e.catalog.targets := Catalog.targets_pruned
  unfold targets
  rw [hmarked]

/-- A pruned model depends on the same types, because only included fields have dependencies. -/
theorem node_pruned (targets : List String) (m : Model) :
    e.pruned.node targets (e.prunedModel m) = e.node targets m := by
  have hunplaced : ∀ fields : List ModelField, fields.filterMap (m.dependency? targets)
      = (fields.map ModelField.unplaced).filterMap (m.dependency? targets) := by
    intro fields
    rw [List.filterMap_map]
    rfl
  have hdepends : (e.pruned.includedFields (e.prunedModel m)).filterMap (m.dependency? targets)
      = (e.includedFields m).filterMap (m.dependency? targets) := by
    rw [hunplaced, map_unplaced_includedFields, ← hunplaced]
  exact congrArg (PassNode.mk m.type.qualifiedName) hdepends

/-- The requests have the pruned models. Each one has to have a model, because a field that cannot
be resolved may be one that is dropped. -/
theorem prepare_pruned (h : ∀ q ∈ requests, ∃ m, Model.resolve e.catalog q = .ok m)
    (seen : List String) :
    e.pruned.prepare seen requests
      = (e.prepare seen requests).map fun p => (p.1, p.2.map e.prunedModel) := by
  induction requests generalizing seen with
  | nil => rfl
  | cons q rest ih =>
    obtain ⟨m, hm⟩ := h q List.mem_cons_self
    rw [prepare, prepare, List.map_cons, ih fun q' hq' => h q' (List.mem_cons_of_mem _ hq')]
    have hm' : Model.resolve e.pruned.catalog q = .ok (e.prunedModel m) := Model.resolve_pruned hm
    rw [hm, hm']
    split
    · rfl
    · rfl

section

variable (h : ∀ q ∈ requests, ∃ m, Model.resolve e.catalog q = .ok m)

include h

/-- The models of the pruned run are the pruned ones, in the same order. -/
theorem models_pruned : e.pruned.models requests = (e.models requests).map e.prunedModel := by
  have hok : ∀ p : Request × Except FixtureError Model,
      (p.2.map e.prunedModel).toOption = p.2.toOption.map e.prunedModel := by
    rintro ⟨q, _ | m⟩
    · rfl
    · rfl
  unfold models
  rw [prepare_pruned h, List.filterMap_map, List.map_filterMap]
  exact List.filterMap_congr fun p _ => hok p

/-- So the schedule is made of the same nodes. -/
theorem nodes_pruned : e.pruned.nodes requests = e.nodes requests := by
  unfold nodes
  rw [models_pruned h, targets_pruned, List.map_map]
  exact List.map_congr_left fun m _ => node_pruned (e.targets requests) m

/-- The models run in the same order. -/
theorem levels_pruned :
    e.pruned.levels requests = (e.levels requests).map (List.map e.prunedModel) := by
  unfold levels
  rw [nodes_pruned h, models_pruned h, List.map_map]
  refine List.map_congr_left fun level _ => ?_
  rw [Function.comp_apply, List.map_filterMap]
  exact List.filterMap_congr fun i _ => List.getElem?_map

/-- The same models are rejected, with the same errors. -/
theorem rejections_pruned : e.pruned.rejections requests = e.rejections requests := by
  unfold rejections
  rw [nodes_pruned h, models_pruned h]
  refine List.filterMap_congr fun r _ => ?_
  rw [List.getElem?_map, Option.map_map]
  rfl

end

/-- What passes have given, without the places of fields. -/
def unplacedResults (results : List (String × Except FixtureError Fixture)) :
    List (String × Except FixtureError Fixture) :=
  results.map fun p => (p.1, p.2.map Fixture.unplaced)

/-- Passes of a seeded run give the same fixtures without places, and leave the same registry. -/
theorem runPasses_pruned (hseed : e.config.uuidSeed.isSome)
    (random random' : String → UuidSource) (targets : List String) (ms : List Model)
    (r : Registry) :
    unplacedResults (e.pruned.runPasses random' targets (ms.map e.prunedModel) r).1
        = unplacedResults (e.runPasses random targets ms r).1 ∧
      (e.pruned.runPasses random' targets (ms.map e.prunedModel) r).2
        = (e.runPasses random targets ms r).2 :=
  runPasses_congr_map (g := Fixture.unplaced) e.prunedModel (fun _ => rfl)
    (pass_pruned hseed random random' targets) ms r

/-- The result for the pruned model is the one for the model: it is found by name, and pruning
keeps the name. -/
theorem result_pruned (decided : List (String × Except FixtureError Fixture)) (q : Request)
    (made : Except FixtureError Model) :
    result decided q (made.map e.prunedModel) = result decided q made := by
  cases made with
  | error err => rfl
  | ok m => rfl

/-- A result is found in the same way without places. -/
theorem result_unplaced (decided : List (String × Except FixtureError Fixture)) (q : Request)
    (made : Except FixtureError Model) :
    (result decided q made).map Fixture.unplaced
      = result (unplacedResults decided) q made :=
  result_map decided q made

/-- The requests have the same outcomes without places if the passes have given the same. What the
schedule decides is the same anyway. -/
theorem outcomes_pruned (h : ∀ q ∈ requests, ∃ m, Model.resolve e.catalog q = .ok m)
    {finished finished' : List (String × Except FixtureError Fixture)}
    (hnames : finished.map (·.1) = (e.levels requests).flatten.map (·.type.qualifiedName))
    (hfinished : unplacedResults finished' = unplacedResults finished) :
    (e.pruned.outcomes requests finished').map Outcome.unplaced
      = (e.outcomes requests finished).map Outcome.unplaced := by
  -- The same is decided by rejections and, up to places, by passes.
  have hdecided : unplacedResults (e.rejections requests ++ finished')
      = unplacedResults (e.rejections requests ++ finished) := by
    show mapResults Fixture.unplaced (_ ++ _) = mapResults Fixture.unplaced (_ ++ _)
    rw [mapResults_append, mapResults_append]
    exact congrArg _ hfinished
  have hnames' : finished'.map (·.1)
      = (e.pruned.levels requests).flatten.map (·.type.qualifiedName) := by
    rw [levels_pruned h, ← List.map_flatten, List.map_map,
      map_fst_eq_of_mapResults_eq (g := Fixture.unplaced) hfinished]
    exact hnames
  rw [outcomes_eq hnames', outcomes_eq hnames, prepare_pruned h, rejections_pruned h,
    List.map_map, List.map_map, List.map_map]
  refine List.map_congr_left fun p _ => congrArg (Outcome.mk p.1) ?_
  show (result _ p.1 (p.2.map e.prunedModel)).map Fixture.unplaced
    = (result _ p.1 p.2).map Fixture.unplaced
  rw [result_pruned, result_unplaced, result_unplaced, hdecided]

/-- Fields that have no constants leave no trace in a seeded run but the places of others. Without
them every request has the same outcome, up to the places that constants tell of their fields, and
the registry is the same. That all requests have models is needed: a field without constants is
resolved too, and without it a request may get a model that it has not. -/
theorem run_pruned (hseed : e.config.uuidSeed.isSome)
    (h : ∀ q ∈ requests, ∃ m, Model.resolve e.catalog q = .ok m)
    (random random' : String → UuidSource) (registry : Registry) :
    (e.pruned.run random' requests registry).1.unplaced
        = (e.run random requests registry).1.unplaced ∧
      (e.pruned.run random' requests registry).2 = (e.run random requests registry).2 := by
  obtain ⟨hresults, hregistry⟩ := runPasses_pruned hseed random random'
    (e.targets requests) (e.levels requests).flatten registry
  rw [List.map_flatten, ← levels_pruned h] at hresults hregistry
  rw [run_eq, run_eq, targets_pruned]
  refine ⟨congrArg Report.mk (outcomes_pruned h ?_ hresults), hregistry⟩
  exact map_fst_runPasses e random (e.targets requests) (e.levels requests).flatten registry

/-! ### A ledger

An entry has a static field, a transient one and one of orders. -/

/-- The catalog of entries and orders. -/
def ledger : Catalog where
  types := ⟨[
    ("shop.Entry", shopClass "Entry" [
      { shopField "total" (.primitive .int) [] with isStatic := true },
      { shopField "last" (.named "shop.Order") [] with isTransient := true },
      shopField "order" (.named "shop.Order") []]),
    ("shop.Order", shopClass "Order" [shopField "size" (.primitive .int) []])], by decide⟩
  named := by decide

/-- The engine of the ledger, with a seed and without transient fields. -/
def ledgerEngine : Engine where
  catalog := ledger
  config := { uuidSeed := some 7, includeTransient := false }
  defaults := .empty
  isValid := by decide
  isCompiled := rfl

/-- The order of an entry is the third field of it, and the first one of those that are left.
Nothing else is different. -/
theorem run_pruned_ledger :
    (∀ e ∈ [(ledgerEngine, 2), (ledgerEngine.pruned, 0)],
      ((e.1.run (fun _ => .ofSeed 0) [⟨"shop.Entry", none⟩, ⟨"shop.Order", none⟩]
        .empty).1.outcomes.head?.bind fun o => o.result.toOption.map fun f =>
          f.constants.map fun c => (c.name, c.value, c.fieldIndex))
        = some [("ORDER", "OrderFixture.createOrder()", e.2)]) ∧
      (ledgerEngine.pruned.run (fun _ => .ofSeed 0) [⟨"shop.Entry", none⟩, ⟨"shop.Order", none⟩]
          .empty).1.unplaced
        = (ledgerEngine.run (fun _ => .ofSeed 0) [⟨"shop.Entry", none⟩, ⟨"shop.Order", none⟩]
          .empty).1.unplaced := by
  have hmodels : ∀ q ∈ [(⟨"shop.Entry", none⟩ : Request), ⟨"shop.Order", none⟩],
      ∃ m, Model.resolve ledgerEngine.catalog q = .ok m := by
    have hread : ∀ q ∈ [(⟨"shop.Entry", none⟩ : Request), ⟨"shop.Order", none⟩],
        (Model.resolve ledgerEngine.catalog q).toOption.isSome := by
      decide +kernel
    intro q hq
    obtain ⟨m, hm⟩ := Option.isSome_iff_exists.mp (hread q hq)
    exact ⟨m, toOption_eq_some_iff.mp hm⟩
  have hrun := run_pruned rfl hmodels (fun _ => .ofSeed 0) (fun _ => .ofSeed 0) .empty
  exact ⟨by decide +kernel, hrun.1⟩

end Engine

end Fixtures
