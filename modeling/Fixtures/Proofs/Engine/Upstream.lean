import Fixtures.Proofs.Engine.Calls
import Mathlib.Logic.Relation

/-!
# `Fixtures.Proofs.Engine.Upstream`: nothing is published before what it refers to

A run rejects cycles by its schedule, but `generate` has no schedule and takes any type. What
holds for both is that a pass looks up all dependencies of its model and fails without them
(`exists_get?_of_outcome`).

So the first fixture on a cycle of dependencies is never published. For types without type
parameters that the catalog marks, the dependencies are the same in all calls: the model of such
a type is the same in all requests, and a marked type is a target of every call
(`mem_dependsOn_of_needs`). A type on a cycle of these is not in the registry after any calls
(`isGrounded_of_calls`).
-/

set_option autoImplicit false

namespace Fixtures.Engine

/-- The fixture of a type without type parameters refers to that of another type, which the catalog
marks. Such a reference is there in all calls, whatever else they request. -/
def Needs (e : Engine) (typeName other : String) : Prop :=
  ∃ m ∈ (Model.resolve e.catalog ⟨typeName, none⟩).toOption,
    m.description.typeParameters = [] ∧ other ∈ (e.node e.catalog.targets m).dependsOn

instance (e : Engine) (typeName other : String) : Decidable (e.Needs typeName other) :=
  inferInstanceAs (Decidable (∃ m ∈ (Model.resolve e.catalog ⟨typeName, none⟩).toOption,
    m.description.typeParameters = [] ∧ other ∈ (e.node e.catalog.targets m).dependsOn))

/-- The type lies on a cycle of references. A type that refers to itself directly is on none,
because such a field gets its value from the pipeline. -/
def OnCycle (e : Engine) (typeName : String) : Prop :=
  Relation.TransGen e.Needs typeName typeName

variable {e : Engine} {p : Pass} {typeName other : String}

/-- A pass that gives a fixture finds all dependencies of its model. A missing one is an error of
the field, and the fixture is not made. -/
theorem exists_get?_of_outcome {f : Fixture} (h : (e.outcome p).1 = .ok f) :
    ∀ key ∈ (e.node p.targets p.model).dependsOn, ∃ s, p.found.get? key = some s := by
  intro key hkey
  obtain ⟨hconstants, -⟩ := fixture_eq_ok (outcome_eq_ok h).1
  obtain ⟨fld, hfld, hdep⟩ := List.mem_filterMap.mp hkey
  exact hconstants.exists_published hfld hdep

/-- What a model depends on stays when there are more targets: further targets only make further
fields depend on something. -/
theorem dependsOn_mono {targets targets' : List String} (h : targets ⊆ targets') (m : Model) :
    (e.node targets m).dependsOn ⊆ (e.node targets' m).dependsOn := by
  intro key hkey
  obtain ⟨fld, hfld, hdep⟩ := List.mem_filterMap.mp hkey
  exact List.mem_filterMap.mpr
    ⟨fld, hfld, Model.dependency?_of_mem hdep (h (Model.mem_of_dependency? hdep))⟩

/-- Every proper pass for a type depends on what the type needs. The model of a type without
parameters is the same in all requests, and the marked types are targets of every pass. -/
theorem mem_dependsOn_of_needs (hp : e.IsProper p) (h : e.Needs p.model.type.qualifiedName other) :
    other ∈ (e.node p.targets p.model).dependsOn := by
  obtain ⟨request, hresolve⟩ := hp.resolved
  obtain ⟨m, hm, hparameters, hdep⟩ := h
  rw [Model.qualifiedName_of_resolve hresolve] at hm
  have hm := toOption_eq_some_iff.mp hm
  -- Both models have the description under the requested name, which has no type parameters.
  have hsame : m.description = p.model.description :=
    Option.some.inj ((Model.isOf_of_resolve hm).description.symm.trans
      (Model.isOf_of_resolve hresolve).description)
  rw [hsame] at hparameters
  obtain rfl : m = p.model :=
    Except.ok.inj (hm.symm.trans (Model.resolve_none_of_resolve hresolve hparameters))
  exact dependsOn_mono hp.marked _ hdep

/-- A type on a cycle needs another one on the cycle, namely the next one. -/
theorem OnCycle.exists_needs (h : e.OnCycle typeName) :
    ∃ other, e.Needs typeName other ∧ e.OnCycle other := by
  obtain ⟨other, hneeds, hback⟩ := Relation.TransGen.head'_iff.mp h
  exact ⟨other, hneeds, Relation.TransGen.tail' hback hneeds⟩

/-- That no type on a cycle is published is kept by every pass. The pass that published the first
of them would have found the next one before. -/
theorem keeps_unpublished (e : Engine) :
    e.Keeps fun r => ∀ typeName, e.OnCycle typeName → r.get? typeName = none := by
  intro p hp hfound typeName hcycle
  cases hget : (e.outcome p).2.get? typeName with
  | none => rfl
  | some s =>
    rcases get?_pass hget with hbefore | ⟨f, hf, rfl, -⟩
    · rw [hfound typeName hcycle] at hbefore
      cases hbefore
    -- The pass would be for a type on the cycle, and would have found the next type on it.
    · obtain ⟨other, hneeds, hcycle'⟩ := hcycle.exists_needs
      obtain ⟨s', hs'⟩ := exists_get?_of_outcome hf other (mem_dependsOn_of_needs hp hneeds)
      rw [hfound other hcycle'] at hs'
      cases hs'

/-- After some calls of a fresh engine all that is published has found what it refers to. The
further call is any one, of one fixture or of many. -/
structure IsGrounded (e : Engine) (calls : List Call) : Prop where
  /-- A pass that publishes a fixture finds all dependencies of its model. -/
  upstream : ∀ c, ∀ p ∈ e.passes c (e.history calls), ∀ f, (e.outcome p).1 = .ok f →
    ∀ key ∈ (e.node p.targets p.model).dependsOn, ∃ s, p.found.get? key = some s
  /-- No type on a cycle is published after the calls, nor before or after a pass of a further
  call. -/
  cycles : ∀ typeName, e.OnCycle typeName → (e.history calls).get? typeName = none ∧
    ∀ c, ∀ p ∈ e.passes c (e.history calls),
      p.found.get? typeName = none ∧ (e.outcome p).2.get? typeName = none

/-- Whatever calls a fresh engine gets, a fixture is published after those that it refers to, and
no fixture on a cycle is ever published. A pass that makes its constants finds all dependencies. So
the first of the types on a cycle that is published would find the next one published before. -/
theorem isGrounded_of_calls (e : Engine) (calls : List Call) : e.IsGrounded calls where
  upstream _ _ _ _ hf := exists_get?_of_outcome hf
  cycles typeName hcycle := by
    have hnone := (e.keeps_unpublished).history (fun _ _ => rfl) calls
    refine ⟨hnone typeName hcycle, fun c p hp => ?_⟩
    have hfound := (e.keeps_unpublished).found hnone p hp
    exact ⟨hfound typeName hcycle,
      e.keeps_unpublished p (isProper_of_mem_passes hp) hfound typeName hcycle⟩

/-! ### Carts

Carts and customers are on a cycle, and items are for prices. -/

/-- The catalog: a cart refers to its customer, a customer to the cart, and an item to its price. -/
def carts : Catalog where
  types := ⟨[
    ("shop.Cart", shopClass "Cart" [shopField "customer" (.named "shop.Customer") []]),
    ("shop.Customer", shopClass "Customer" [shopField "cart" (.named "shop.Cart") []]),
    ("shop.Item", shopClass "Item" [shopField "price" (.named "shop.Price") []]),
    ("shop.Price", shopClass "Price" [shopField "amount" (.primitive .int) []])], by decide⟩
  named := by decide

/-- The engine of the catalog of carts. -/
def cartsEngine : Engine where
  catalog := carts
  config := { uuidSeed := some 7 }
  defaults := .empty
  isValid := shopEngine.isValid
  isCompiled := rfl

/-- A cart is generated alone, and then everything is requested. -/
def cartsCalls : List Call :=
  [.generate (fun _ => .ofSeed 0) ⟨"shop.Cart", none⟩,
    .run (fun _ => .ofSeed 0)
      [⟨"shop.Cart", none⟩, ⟨"shop.Customer", none⟩, ⟨"shop.Item", none⟩, ⟨"shop.Price", none⟩]]

/-- A cart is on a cycle and is not published by any of the calls. An item that is generated after
them finds its price. -/
theorem isGrounded_of_calls_carts :
    cartsEngine.OnCycle "shop.Cart" ∧
      (cartsEngine.history cartsCalls).get? "shop.Cart" = none ∧
      ∃ p ∈ cartsEngine.passes (.generate (fun _ => .ofSeed 0) ⟨"shop.Item", none⟩)
          (cartsEngine.history cartsCalls),
        ∃ f, (cartsEngine.outcome p).1 = .ok f ∧ ∃ s, p.found.get? "shop.Price" = some s := by
  have hcycle : cartsEngine.OnCycle "shop.Cart" :=
    .tail (.single (show cartsEngine.Needs "shop.Cart" "shop.Customer" by decide +kernel))
      (by decide +kernel)
  have hgrounded := isGrounded_of_calls cartsEngine cartsCalls
  have hitem :
      ((cartsEngine.passes (.generate (fun _ => .ofSeed 0) ⟨"shop.Item", none⟩)
          (cartsEngine.history cartsCalls)).head?.map fun p =>
        (decide ("shop.Price" ∈ (cartsEngine.node p.targets p.model).dependsOn),
          (cartsEngine.outcome p).1.toOption.isSome)) = some (true, true) := by
    decide +kernel
  obtain ⟨p, hp, hitem⟩ := Option.map_eq_some_iff.mp hitem
  obtain ⟨hdep, hmade⟩ := Prod.mk.inj hitem
  obtain ⟨f, hf⟩ := Option.isSome_iff_exists.mp hmade
  have hmem := List.mem_of_head? hp
  have hok := toOption_eq_some_iff.mp hf
  exact ⟨hcycle, (hgrounded.cycles "shop.Cart" hcycle).1, p, hmem, f, hok,
    hgrounded.upstream _ p hmem f hok "shop.Price" (of_decide_eq_true hdep)⟩

end Fixtures.Engine
