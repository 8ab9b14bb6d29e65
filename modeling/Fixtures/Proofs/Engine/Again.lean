import Fixtures.Proofs.Engine.Upstream

/-!
# `Fixtures.Proofs.Engine.Again`: a fixture that is generated again after a run

After a run `generate` finds in the registry all that the run has published. With a seed it makes
the same fixture again, and publishes nothing new (`generate_eq_of_mem_outcomes`), because

* the UUIDs are those of the seed and the type;
* every entry that the pass in the run has found still stands;
* the summary that is published stands already, so it is not refused.

But the targets are not the same. Those of a run are the marked types and all requested ones, and
those of `generate` are the marked types and the one that is generated. A field of a type that was
only requested is a reference in the run, and gets its value from the pipeline when the fixture is
generated again. So nothing is said of fixtures with such a field, and
`not_generate_eq_of_mem_outcomes` shows that they may be different.
-/

set_option autoImplicit false

namespace Fixtures.Engine

/-- In a run of some requests, the fixture of a request refers to marked types only. A request
without a model refers to nothing. -/
def RefersToMarked (e : Engine) (requests : List Request) (request : Request) : Prop :=
  ∀ m ∈ (Model.resolve e.catalog request).toOption,
    (e.node (e.targets requests) m).dependsOn ⊆ e.catalog.targets

instance (e : Engine) (requests : List Request) (request : Request) :
    Decidable (e.RefersToMarked requests request) :=
  inferInstanceAs (Decidable (∀ m ∈ (Model.resolve e.catalog request).toOption,
    (e.node (e.targets requests) m).dependsOn ⊆ e.catalog.targets))

variable {e : Engine} {requests : List Request} {request : Request} {m : Model}

/-- The targets of a single request of a run are targets of the run. The marked types are in both,
and what is requested alone is requested in the run. -/
theorem targets_singleton_subset (h : request ∈ requests) :
    e.targets [request] ⊆ e.targets requests := by
  refine List.append_subset.mpr ⟨List.subset_append_left _ _, ?_⟩
  refine List.subset_append_of_subset_right _ (List.map_subset _ ?_)
  exact List.cons_subset.mpr ⟨h, List.nil_subset _⟩

/-- When the fixture of a request refers to marked types only, each field depends on the same type
in the run and alone. -/
theorem dependency?_singleton (h : request ∈ requests)
    (hmarked : (e.node (e.targets requests) m).dependsOn ⊆ e.catalog.targets)
    {fld : ModelField} (hfld : fld ∈ e.includedFields m) :
    m.dependency? (e.targets requests) fld = m.dependency? (e.targets [request]) fld := by
  refine Option.ext fun typeName => ⟨fun hdep => ?_, fun hdep => ?_⟩
  · have hmem := hmarked (List.mem_filterMap.mpr ⟨fld, hfld, hdep⟩)
    exact Model.dependency?_of_mem hdep (List.mem_append_left _ hmem)
  · have hmem := Model.mem_of_dependency? hdep
    exact Model.dependency?_of_mem hdep (targets_singleton_subset h hmem)

/-- With a seed a pass makes the fixture of another one again, when each field has the same
dependency and all entries that the other one has found still stand. Entries that it did not find
do not count, since a pass without one of its dependencies gives no fixture. -/
theorem made_again {p p' : Pass} {seed : UInt64} (hseed : e.config.uuidSeed = some seed)
    (hmodel : p'.model = p.model)
    (htargets : ∀ fld ∈ e.includedFields p.model,
      p.model.dependency? p.targets fld = p.model.dependency? p'.targets fld)
    (hgrows : p.found.GrowsTo p'.found) {f : Fixture} (h : (e.outcome p).1 = .ok f) :
    e.made p' = .ok f := by
  -- The same seed and the same type give the same UUIDs.
  have hsource : e.uuidSource p'.random p.model.type.qualifiedName
      = e.uuidSource p.random p.model.type.qualifiedName := by
    simp only [uuidSource, hseed]
  rw [← (outcome_eq_ok h).1, made, made, hmodel, hsource]
  refine (fixture_congr htargets (fun key hkey => ?_) _).symm
  -- The pass has found an entry, so the same one stands there now.
  obtain ⟨s, hs⟩ := exists_get?_of_outcome h key hkey
  exact hs.trans (hgrows key s hs).symm

/-- A fixture whose summary is published already is given, and nothing else is published. To
publish the same summary once more is no conflict. -/
theorem outcome_of_published {p : Pass} {f : Fixture} (hmade : e.made p = .ok f)
    (hentry : p.found.get? f.summary.typeName = some f.summary) :
    e.outcome p = (.ok f, p.found) := by
  show publish (e.made p) p.found = _
  rw [hmade]
  simp only [publish, Registry.publish_of_get? hentry]

/-- After a run with a seed, a request with a fixture that refers to marked types only is generated
again with the same fixture, and the registry stays as it is. The types that are requested in a run
are targets of it, but alone they are not. So a type that is requested and not marked is referred
to in the run, and is given a value of the shape afterwards. -/
theorem generate_eq_of_mem_outcomes (e : Engine) (random random' : String → UuidSource)
    (requests : List Request) (r : Registry) {seed : UInt64}
    (hseed : e.config.uuidSeed = some seed) {o : Outcome}
    (h : o ∈ (e.run random requests r).1.outcomes) {f : Fixture} (hf : o.result = .ok f)
    (hmarked : e.RefersToMarked requests o.request) :
    e.generate random' o.request (e.run random requests r).2
      = (.ok f, (e.run random requests r).2) := by
  obtain ⟨p, hp, hresolve, htargets, hpass⟩ := exists_mem_passes_of_mem_outcomes h hf
  have hkept := growsTo_call hp
  rw [call] at hkept
  have hrequest : o.request ∈ requests := by
    rw [run_eq] at h
    exact request_mem_of_mem_outcomes h
  rw [generate_eq hresolve]
  -- What follows holds of every registry in which the entries of the run stand.
  generalize (e.run random requests r).2 = registry at hkept ⊢
  -- The fixture is made again, and its summary stands in the registry.
  refine outcome_of_published ?_ ?_
  · refine made_again hseed ?_ (fun fld hfld => ?_) ((e.growsTo_outcome p).trans hkept) hpass
    · rfl
    · have hsubset := hmarked p.model (toOption_eq_some_iff.mpr hresolve)
      rw [htargets]
      exact dependency?_singleton hrequest hsubset hfld
  · refine hkept _ _ ?_
    rw [Registry.get?_publish (outcome_eq_ok hpass).2, if_pos rfl]

/-- In the shop all types are marked, and the item of a run is generated again. -/
theorem generate_eq_of_mem_outcomes_shop :
    ∃ o ∈ (shopEngine.run (fun _ => .ofSeed 0) shopRequests .empty).1.outcomes,
      ∃ f, o.result = .ok f ∧ shopEngine.RefersToMarked shopRequests o.request ∧
        f.constants.map (fun c => (c.name, c.value)) =
          [("ORDER", "OrderFixture.createOrder()"), ("ORDER_SIZE", "OrderFixture.SIZE")] ∧
        shopEngine.generate (fun _ => .ofSeed 1) o.request
            (shopEngine.run (fun _ => .ofSeed 0) shopRequests .empty).2
          = (.ok f, (shopEngine.run (fun _ => .ofSeed 0) shopRequests .empty).2) := by
  have hitem :
      ((shopEngine.run (fun _ => .ofSeed 0) shopRequests .empty).1.outcomes.head?.bind fun o =>
        o.result.toOption.map fun f =>
          (decide (shopEngine.RefersToMarked shopRequests o.request),
            f.constants.map fun c => (c.name, c.value))) =
      some (true,
        [("ORDER", "OrderFixture.createOrder()"), ("ORDER_SIZE", "OrderFixture.SIZE")]) := by
    decide +kernel
  obtain ⟨o, ho, hitem⟩ := Option.bind_eq_some_iff.mp hitem
  obtain ⟨f, hf, hitem⟩ := Option.map_eq_some_iff.mp hitem
  obtain ⟨hdecide, hvalues⟩ := Prod.mk.inj hitem
  have hmem := List.mem_of_head? ho
  have hok := toOption_eq_some_iff.mp hf
  have hmarked := of_decide_eq_true hdecide
  exact ⟨o, hmem, f, hok, hmarked, hvalues,
    generate_eq_of_mem_outcomes shopEngine (fun _ => .ofSeed 0) (fun _ => .ofSeed 1) shopRequests
      .empty rfl hmem hok hmarked⟩

/-! ### Orders on demand

Orders are not marked here, so they have fixtures only where they are requested. -/

/-- The catalog: an item is marked and has an order, which is not marked. -/
def onDemand : Catalog where
  types := ⟨[
    ("shop.Item", shopClass "Item" [shopField "order" (.named "shop.Order") []]),
    ("shop.Order",
      { shopClass "Order" [shopField "size" (.primitive .int) []] with fixture := false })],
    by decide⟩
  named := by decide

/-- The engine of the catalog with orders on demand. -/
def onDemandEngine : Engine where
  catalog := onDemand
  config := { uuidSeed := some 7 }
  defaults := .empty
  isValid := shopEngine.isValid
  isCompiled := rfl

/-- An item and its order are requested. -/
def onDemandRequests : List Request := [⟨"shop.Item", none⟩, ⟨"shop.Order", none⟩]

/-- Not every fixture of a run is generated again. With orders on demand, an item refers to its
order when both are requested, and has no order when it is generated again. -/
theorem not_generate_eq_of_mem_outcomes :
    ¬ ∀ (e : Engine) (random : String → UuidSource) (requests : List Request),
      e.config.uuidSeed.isSome →
        ∀ o ∈ (e.run random requests .empty).1.outcomes, ∀ f, o.result = .ok f →
          (e.generate random o.request (e.run random requests .empty).2).1 = .ok f := by
  intro hall
  have hitem :
      ((onDemandEngine.run (fun _ => .ofSeed 0) onDemandRequests .empty).1.outcomes.head?.bind
        fun o => o.result.toOption.map fun f =>
          (f.constants.map (fun c => (c.name, c.value)),
            (onDemandEngine.generate (fun _ => .ofSeed 0) o.request
              (onDemandEngine.run (fun _ => .ofSeed 0) onDemandRequests .empty).2).1.toOption.map
                fun f => f.constants.map fun c => (c.name, c.value))) =
      some ([("ORDER", "OrderFixture.createOrder()")], some [("ORDER", "null")]) := by
    decide +kernel
  obtain ⟨o, ho, hitem⟩ := Option.bind_eq_some_iff.mp hitem
  obtain ⟨f, hf, hitem⟩ := Option.map_eq_some_iff.mp hitem
  obtain ⟨hrun, hagain⟩ := Prod.mk.inj hitem
  have hsame := hall onDemandEngine (fun _ => .ofSeed 0) onDemandRequests rfl o
    (List.mem_of_head? ho) f (toOption_eq_some_iff.mp hf)
  rw [toOption_eq_some_iff.mpr hsame, Option.map_some, hrun] at hagain
  exact absurd hagain (by decide)

end Fixtures.Engine
