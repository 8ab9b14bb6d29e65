import Fixtures.Proofs.Constants.Draws
import Fixtures.Proofs.Constants.Places
import Fixtures.Proofs.Engine.Run

/-!
# `Fixtures.Proofs.Engine.Seeds`: what another seed changes

A seed decides the UUIDs of a pass and nothing else. If a fixture can be generated under two seeds,
it has the same constants but for the values of drawn ones, and the same creation methods
(`sameButDrawn_of_generate`). The methods pass constants by name, so values do not show in them.

Nothing is said when generating fails under one of the seeds: two constants of one name may have
the same drawn value under one seed and different ones under another.
-/

set_option autoImplicit false

namespace Fixtures.Engine

/-- The engine with another seed. Everything else that it holds is the same, so its proofs are too.
-/
def withSeed (e : Engine) (seed : UInt64) : Engine where
  catalog := e.catalog
  config := { e.config with uuidSeed := some seed }
  defaults := e.defaults
  isValid := e.isValid
  isCompiled := e.isCompiled

/-- Two fixtures of a model are the same but for the values of constants that are drawn, and for
their source texts, which show these values. Which constants these are is decided by the pipeline
and the peers. -/
structure SameButDrawn (e : Engine) (m : Model) (pipeline : Pipeline) (peers : Peers)
    (f f' : Fixture) : Prop where
  typeName : f'.typeName = f.typeName
  fixtureName : f'.fixtureName = f.fixtureName
  path : f'.path = f.path
  methods : f'.methods = f.methods
  constants : List.Forall₂ (m.SameButDrawn pipeline peers (e.includedFields m)) f.constants
    f'.constants

variable {e : Engine} {m : Model}

/-- Constants that are the same but for drawn values give the same creation methods, since
constants are passed by name. -/
theorem creationMethods_eq_of_sameButDrawn {pipeline : Pipeline} {peers : Peers}
    {fields passed : List ModelField} {constants constants' : List Constant}
    (h : List.Forall₂ (m.SameButDrawn pipeline peers fields) constants constants')
    (nullToken : String) :
    m.creationMethods passed constants' nullToken
      = m.creationMethods passed constants nullToken := by
  -- The methods are those of the constants without values.
  have hkeeps : Constant.Keeps fun c => { c with value := "" } := ⟨fun _ => rfl, fun _ => rfl⟩
  have hmap : constants.map (fun c => { c with value := "" })
      = constants'.map fun c => { c with value := "" } := by
    rw [← List.forall₂_eq_eq_eq, List.forall₂_map_left_iff, List.forall₂_map_right_iff]
    exact h.imp fun c c' hc => by rw [hc.same]
  rw [← Model.creationMethods_map hkeeps, ← hmap, Model.creationMethods_map hkeeps]

/-- Two fixtures that are made from two sources of UUIDs are the same but for drawn values. -/
theorem sameButDrawn_of_fixture {peers : Peers} {source source' : UuidSource} {f f' : Fixture}
    (h : e.fixture m peers source = .ok f) (h' : e.fixture m peers source' = .ok f') :
    ∃ pipeline, e.pipeline m = .ok pipeline ∧ e.SameButDrawn m pipeline peers f f' := by
  unfold fixture at h h'
  -- The pipeline is there before anything is drawn, so it is the same.
  obtain ⟨pipeline, hpipeline, h⟩ := bind_eq_ok_iff.mp h
  obtain ⟨pipeline', hpipeline', h'⟩ := bind_eq_ok_iff.mp h'
  obtain rfl : pipeline = pipeline' := Except.ok.inj (hpipeline.symm.trans hpipeline')
  obtain ⟨constants, hconstants, hcompose⟩ := bind_eq_ok_iff.mp h
  obtain ⟨constants', hconstants', hcompose'⟩ := bind_eq_ok_iff.mp h'
  -- Constants are the first that is made with the source.
  have hsame := Model.sameButDrawn_of_eq_ok hconstants hconstants'
  unfold compose at hcompose hcompose'
  rw [creationMethods_eq_of_sameButDrawn hsame] at hcompose'
  obtain ⟨methods, hmethods, hcompose⟩ := bind_eq_ok_iff.mp hcompose
  obtain ⟨methods', hmethods', hcompose'⟩ := bind_eq_ok_iff.mp hcompose'
  obtain rfl : methods = methods' := Except.ok.inj (hmethods.symm.trans hmethods')
  cases hcompose
  cases hcompose'
  exact ⟨pipeline, hpipeline, rfl, rfl, rfl, rfl, hsame⟩

/-- A fixture that is generated is made from the source of its seed, which is that of one pass for
the type of the model. -/
theorem exists_fixture_of_generate {seed : UInt64} {random : String → UuidSource}
    {request : Request} {r : Registry} {f : Fixture}
    (h : ((e.withSeed seed).generate random request r).1 = .ok f) :
    ∃ m, Model.resolve e.catalog request = .ok m ∧
      e.fixture m { targets := e.targets [request], registry := r }
        (.forPass seed m.type.qualifiedName) = .ok f := by
  unfold generate at h
  cases hm : Model.resolve e.catalog request with
  | error err =>
    rw [show (e.withSeed seed).catalog = e.catalog from rfl, hm] at h
    cases h
  | ok m =>
    rw [show (e.withSeed seed).catalog = e.catalog from rfl, hm] at h
    exact ⟨m, rfl, (pass_eq_ok h).1⟩

/-- If a fixture can be generated under two seeds, it is the same but for the values of constants
that the pipeline gives to fields of UUIDs, and to fields whose provider for the exact type or for
the shape calls `uuid`. The two sources are never compared: each step is shown to give the same
from any two sources, unless it draws. -/
theorem sameButDrawn_of_generate {seed seed' : UInt64} {random random' : String → UuidSource}
    {request : Request} {r : Registry} {f f' : Fixture}
    (h : ((e.withSeed seed).generate random request r).1 = .ok f)
    (h' : ((e.withSeed seed').generate random' request r).1 = .ok f') :
    ∃ m pipeline, Model.resolve e.catalog request = .ok m ∧ e.pipeline m = .ok pipeline ∧
      e.SameButDrawn m pipeline { targets := e.targets [request], registry := r } f f' := by
  obtain ⟨m, hm, hmade⟩ := exists_fixture_of_generate h
  obtain ⟨m', hm', hmade'⟩ := exists_fixture_of_generate h'
  obtain rfl : m = m' := Except.ok.inj (hm.symm.trans hm')
  obtain ⟨pipeline, hpipeline, hsame⟩ := sameButDrawn_of_fixture hmade hmade'
  exact ⟨m, pipeline, hm, hpipeline, hsame⟩

/-! ### Tags

A tag has an identifier, which is a UUID, and a size. -/

/-- The catalog of tags. -/
def tags : Catalog where
  types := ⟨[
    ("shop.Tag", shopClass "Tag" [shopField "id" (.named "java.util.UUID") [],
      shopField "size" (.primitive .int) []])], by decide⟩
  named := by decide

/-- The engine of the catalog of tags. -/
def tagsEngine : Engine where
  catalog := tags
  config := {}
  defaults := .empty
  isValid := by decide
  isCompiled := rfl

/-- Tags that are generated under the seeds one and two have other identifiers, and are the same but
for drawn values. -/
theorem sameButDrawn_of_generate_tags :
    ∃ f f',
      ((tagsEngine.withSeed 1).generate (fun _ => .ofSeed 0) ⟨"shop.Tag", none⟩ .empty).1 = .ok f ∧
      ((tagsEngine.withSeed 2).generate (fun _ => .ofSeed 0) ⟨"shop.Tag", none⟩ .empty).1 = .ok f' ∧
      f.constants.map (·.value) ≠ f'.constants.map (·.value) ∧
      ∃ m pipeline, Model.resolve tags ⟨"shop.Tag", none⟩ = .ok m ∧
        tagsEngine.pipeline m = .ok pipeline ∧ tagsEngine.SameButDrawn m pipeline
          { targets := tagsEngine.targets [⟨"shop.Tag", none⟩], registry := .empty } f f' := by
  have hread :
      (((tagsEngine.withSeed 1).generate (fun _ => .ofSeed 0) ⟨"shop.Tag", none⟩
        .empty).1.toOption.bind fun f => ((tagsEngine.withSeed 2).generate (fun _ => .ofSeed 0)
          ⟨"shop.Tag", none⟩ .empty).1.toOption.map fun f' =>
            decide (f.constants.map (·.value) ≠ f'.constants.map (·.value))) = some true := by
    decide +kernel
  obtain ⟨f, hf, hread⟩ := Option.bind_eq_some_iff.mp hread
  obtain ⟨f', hf', hread⟩ := Option.map_eq_some_iff.mp hread
  have hmade := toOption_eq_some_iff.mp hf
  have hmade' := toOption_eq_some_iff.mp hf'
  exact ⟨f, f', hmade, hmade', of_decide_eq_true hread, sameButDrawn_of_generate hmade hmade'⟩

end Fixtures.Engine
