import Fixtures.Proofs.Constants.Values

/-!
# `Fixtures.Proofs.Constants.Dependencies`: the dependencies of fields are what their constants read

`Model.dependency?` tells for each field which published fixture its constants refer to, and the
schedule is made from nothing else. `constants_reads_dependencies` says that this is right in both
directions.

* No other entry is read: registries with the same entries for the dependencies give the same
  constants or the same error, and the same UUIDs are drawn.
* Each of them is read: without an entry for one of the dependencies there are no constants.
-/

set_option autoImplicit false

namespace Fixtures.Model

/-- The constants of some fields are made from the entries of the dependencies of these fields and
from no other entries, whether they can be made or not; and they can only be made when all
dependencies are published. Two registries that agree on these entries also leave the source of
UUIDs alike, so nothing that comes behind can tell them apart. -/
theorem constants_reads_dependencies (m : Model) (fields : List ModelField)
    (targets : List String) (pipeline : Pipeline) :
    (∀ r s : Registry,
      (∀ key ∈ fields.filterMap (m.dependency? targets), r.get? key = s.get? key) →
        ∀ source, (m.constants fields pipeline ⟨targets, r⟩).run source
          = (m.constants fields pipeline ⟨targets, s⟩).run source) ∧
    ∀ (r : Registry) (source : UuidSource) (constants : List Constant),
      ((m.constants fields pipeline ⟨targets, r⟩).run source).1 = .ok constants →
        ∀ key ∈ fields.filterMap (m.dependency? targets), ∃ s, r.get? key = some s := by
  constructor
  · intro r s hagree source
    have hsame : m.constants fields pipeline ⟨targets, r⟩
        = m.constants fields pipeline ⟨targets, s⟩ := by
      refine constants_congr ?_ hagree pipeline
      exact fun _ _ => rfl
    rw [hsame]
  · intro r source constants hrun key hkey
    obtain ⟨f, hf, hdep⟩ := List.mem_filterMap.mp hkey
    exact (areConstants_of_eq_ok hrun).exists_published hf hdep

/-! ### An item

It has four fields of types with fixtures. -/

/-- A field of the item, of a type that the catalog need not describe here. -/
def itemField (name typeName : String) (constants : List ConstantDirective) : ModelField where
  description := {
    name, type := .named typeName, isStatic := false, isTransient := false, constants }
  index := 0
  owner := "shop.Item"
  declared := .named typeName
  resolved := .declared typeName [] [] .describedClass

/-- An item that is part of another one, was ordered, and may have been shipped or paid for. -/
def item : Model where
  type := .declared "shop.Item" [] [] .describedClass
  description := {
    package := "shop", name := "Item", kind := .classKind, typeParameters := [], fields := [],
    enumConstants := [], fixture := true, providers := .empty, creators := [] }
  fields := [
    itemField "parent" "shop.Item" [],
    itemField "order" "shop.Order" [⟨"ORDER", some "null", none⟩, ⟨"ORDER_ID", none, some "ID"⟩],
    itemField "shipment" "shop.Shipment" [⟨"SHIPMENT", some "null", none⟩],
    itemField "payment" "shop.Payment" []]

/-- The types with fixtures. -/
def itemTargets : List String := ["shop.Item", "shop.Order", "shop.Payment", "shop.Shipment"]

/-- A pipeline without providers, so that every value is a built-in one. -/
def itemPipeline : Pipeline where
  providers := .empty
  owner := item.type
  nullToken := "null"

/-- Orders and payments are published. -/
def itemRegistry : Registry :=
  (Registry.empty.insert ⟨"shop.Order", "shop.OrderFixture", ["ID"], "createOrder"⟩).insert
    ⟨"shop.Payment", "shop.PaymentFixture", [], "createPayment"⟩

/-- Orders, payments and shipments are published. -/
def shipmentRegistry : Registry :=
  itemRegistry.insert ⟨"shop.Shipment", "shop.ShipmentFixture", [], "createShipment"⟩

/-- The item depends on its order and its payment. It depends on no shipment, because all values of
that field are given, and on no other item. So its constants are the same when shipments are
published too. -/
theorem constants_reads_dependencies_item :
    item.fields.filterMap (item.dependency? itemTargets) = ["shop.Order", "shop.Payment"] ∧
      (item.constants item.fields itemPipeline ⟨itemTargets, itemRegistry⟩).run (.ofSeed 0)
        = (item.constants item.fields itemPipeline ⟨itemTargets, shipmentRegistry⟩).run
            (.ofSeed 0) ∧
      ∃ constants,
        ((item.constants item.fields itemPipeline ⟨itemTargets, itemRegistry⟩).run (.ofSeed 0)).1
          = .ok constants ∧
        ∃ s, itemRegistry.get? "shop.Payment" = some s := by
  have hreads := constants_reads_dependencies item item.fields itemTargets itemPipeline
  have hdeps :
      item.fields.filterMap (item.dependency? itemTargets) = ["shop.Order", "shop.Payment"] := by
    decide +kernel
  have hagree : ∀ key ∈ item.fields.filterMap (item.dependency? itemTargets),
      itemRegistry.get? key = shipmentRegistry.get? key := by
    rw [hdeps]
    decide +kernel
  have hsome : ((item.constants item.fields itemPipeline ⟨itemTargets, itemRegistry⟩).run
      (.ofSeed 0)).1.toOption.isSome = true := by
    decide +kernel
  obtain ⟨constants, hconstants⟩ := Option.isSome_iff_exists.mp hsome
  have hrun := toOption_eq_some_iff.mp hconstants
  refine ⟨hdeps, hreads.1 _ _ hagree _, constants, hrun, ?_⟩
  refine hreads.2 _ _ _ hrun "shop.Payment" ?_
  rw [hdeps]
  exact List.mem_cons_of_mem _ List.mem_cons_self

end Fixtures.Model
