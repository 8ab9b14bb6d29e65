import Fixtures.Proofs.Engine.Run
import Fixtures.Proofs.Summary

/-!
# `Fixtures.Proofs.Engine.Calls`: an engine in use

An engine is called again and again, to generate one fixture or to run many requests, and each
call finds the registry that the one before has left. `Engine.passes` lists the passes of a call,
each with the registry that it finds, and `Engine.history` is the registry after a sequence of
calls of a fresh engine.

What holds of the registry of an engine in use is proved for a single pass: a property that every
proper pass keeps (`Engine.Keeps`) is found by each pass of each call, and holds after all calls
(`Keeps.found`, `Keeps.history`). A pass is proper when its model is that of some request and the
types that the catalog marks are among its targets.

The first such property is that every entry is the summary that the catalog describes for its
type. So no two passes for a type contradict each other, and no entry is ever refused, replaced
or lost (`isStable_of_calls`).
-/

set_option autoImplicit false

namespace Fixtures

/-! ### Calls and passes -/

/-- A call of an engine. Each one may be given another source of UUIDs, which counts only where no
seed is set. -/
inductive Call where
  /-- One fixture is generated. -/
  | generate (random : String → UuidSource) (request : Request)
  /-- The fixtures of all requests are generated. -/
  | run (random : String → UuidSource) (requests : List Request)

namespace Call

/-- Where the UUIDs of a call come from without a seed. -/
def random : Call → String → UuidSource
  | generate random _ => random
  | run random _ => random

/-- What is requested by a call. -/
def requests : Call → List Request
  | generate _ request => [request]
  | run _ requests => requests

end Call

/-- A pass that a call makes: all that decides what it gives, apart from the engine itself. -/
structure Pass where
  random : String → UuidSource
  targets : List String
  model : Model
  /-- The registry that the pass finds. -/
  found : Registry

namespace Engine

/-- The registry that a call leaves. -/
def call (e : Engine) : Call → Registry → Registry
  | .generate random request, r => (e.generate random request r).2
  | .run random requests, r => (e.run random requests r).2

/-- The registry after some calls of a fresh engine. -/
def history (e : Engine) (calls : List Call) : Registry :=
  calls.foldl (fun r c => e.call c r) .empty

/-- The fixture of a pass, before it is published. -/
def made (e : Engine) (p : Pass) : Except FixtureError Fixture :=
  e.fixture p.model { targets := p.targets, registry := p.found }
    (e.uuidSource p.random p.model.type.qualifiedName)

/-- What a pass gives, and the registry that it leaves. -/
def outcome (e : Engine) (p : Pass) : Except FixtureError Fixture × Registry :=
  e.pass p.random p.targets p.model p.found

/-- Passes one after another, each in the registry that the one before leaves. Only what they start
from is listed; what they give is `Engine.outcome`. -/
def passesFrom (e : Engine) (random : String → UuidSource) (targets : List String) :
    List Model → Registry → List Pass
  | [], _ => []
  | m :: rest, r =>
    ⟨random, targets, m, r⟩ ::
      e.passesFrom random targets rest (e.pass random targets m r).2

/-- The models of which a call makes fixtures, in order. A request that has no model, and a model
that is rejected, has no pass. -/
def passModels (e : Engine) : Call → List Model
  | .generate _ request => (Model.resolve e.catalog request).toOption.toList
  | .run _ requests => (e.levels requests).flatten

/-- The passes of a call that finds a registry, in the order in which they run. A call without a
model has none, and neither has a request that is refused or rejected. -/
def passes (e : Engine) (c : Call) (r : Registry) : List Pass :=
  e.passesFrom c.random (e.targets c.requests) (e.passModels c) r

variable {e : Engine} {random : String → UuidSource} {targets : List String} {ms : List Model}
  {c : Call} {r : Registry} {p : Pass}

/-- A pass that gives a fixture has made and published it. What it has made is a matter of the
registry that it found. -/
theorem outcome_eq_ok {f : Fixture} (h : (e.outcome p).1 = .ok f) :
    e.made p = .ok f ∧ p.found.publish f.summary = .ok (e.outcome p).2 :=
  pass_eq_ok h

/-- To generate the fixture of a request with a model is a single pass, with this request and the
marked types as targets. -/
theorem generate_eq {request : Request} {m : Model}
    (h : Model.resolve e.catalog request = .ok m) (random : String → UuidSource) (r : Registry) :
    e.generate random request r = e.outcome ⟨random, e.targets [request], m, r⟩ := by
  unfold generate
  rw [h]
  rfl

/-- A call leaves the registry that its passes leave. To resolve requests and to schedule models
changes nothing. -/
theorem call_eq (e : Engine) (c : Call) (r : Registry) :
    e.call c r = (e.runPasses c.random (e.targets c.requests) (e.passModels c) r).2 := by
  cases c with
  | generate random request =>
    show (e.generate random request r).2 = (e.runPasses random (e.targets [request])
      (Model.resolve e.catalog request).toOption.toList r).2
    unfold generate
    cases Model.resolve e.catalog request with
    | error err => rfl
    | ok m => rfl
  | run random requests => exact congrArg (·.2) (run_eq e random requests r)

/-- Among passes is the one of each model, which finds what the passes before it leave. -/
theorem mem_passesFrom (e : Engine) (random : String → UuidSource) (targets : List String)
    (before : List Model) (m : Model) (after : List Model) (r : Registry) :
    (⟨random, targets, m, (e.runPasses random targets before r).2⟩ : Pass)
      ∈ e.passesFrom random targets (before ++ m :: after) r := by
  induction before generalizing r with
  | nil => exact List.mem_cons_self
  | cons m' before ih => exact List.mem_cons_of_mem _ (ih _)

/-- A fixture in a report is given by a pass of the run, for the model of the request. -/
theorem exists_mem_passes_of_mem_outcomes {requests : List Request} {o : Outcome}
    (h : o ∈ (e.run random requests r).1.outcomes) {f : Fixture} (hf : o.result = .ok f) :
    ∃ p ∈ e.passes (.run random requests) r,
      Model.resolve e.catalog o.request = .ok p.model ∧ p.targets = e.targets requests ∧
        (e.outcome p).1 = .ok f := by
  obtain ⟨m, before, after, hresolve, hsplit, hpass⟩ := exists_pass_of_mem_outcomes h hf
  refine ⟨⟨random, e.targets requests, m, _⟩, ?_, hresolve, rfl, hpass⟩
  show _ ∈ e.passesFrom random (e.targets requests) (e.levels requests).flatten r
  rw [hsplit]
  exact mem_passesFrom e random (e.targets requests) before m after r

/-! ### What every pass keeps -/

/-- A call can make the pass. This is less than to say that the pass is one of some call: nothing
is asked of the registry that it finds. -/
structure IsProper (e : Engine) (p : Pass) : Prop where
  /-- The model is that of a request. -/
  resolved : ∃ request, Model.resolve e.catalog request = .ok p.model
  /-- The types that the catalog marks are targets. -/
  marked : e.catalog.targets ⊆ p.targets

/-- A property of registries that every proper pass keeps. It need not hold of all registries, only
pass from one to the next. -/
def Keeps (e : Engine) (P : Registry → Prop) : Prop :=
  ∀ p, e.IsProper p → P p.found → P (e.outcome p).2

/-- The models of a call are those of requests. Nothing else gets into a call. -/
theorem exists_request_of_mem_passModels {m : Model} (h : m ∈ e.passModels c) :
    ∃ request, Model.resolve e.catalog request = .ok m := by
  cases c with
  | generate random request =>
    exact ⟨request, toOption_eq_some_iff.mp (Option.mem_toList.mp h)⟩
  | run random requests =>
    obtain ⟨q, hq⟩ := mem_models_iff.mp (mem_models_of_mem_levels h)
    exact ⟨q, (resolve_of_mem_prepare hq).1⟩

/-- The passes of a call are for its models, with its targets. By induction on the models. -/
theorem model_mem_of_mem_passesFrom (h : p ∈ e.passesFrom random targets ms r) :
    p.model ∈ ms ∧ p.targets = targets := by
  induction ms generalizing r with
  | nil => cases h
  | cons m rest ih =>
    rcases List.mem_cons.mp h with rfl | hrest
    · exact ⟨List.mem_cons_self, rfl⟩
    · exact (ih hrest).imp_left (List.mem_cons_of_mem _)

/-- A call can make its passes. The marked types are targets in each call, since the targets are
these and the requested types. -/
theorem isProper_of_mem_passes (h : p ∈ e.passes c r) : e.IsProper p where
  resolved := exists_request_of_mem_passModels (model_mem_of_mem_passesFrom h).1
  marked := by
    rw [(model_mem_of_mem_passesFrom h).2]
    exact List.subset_append_left _ _

/-- What each of some passes keeps is found by all of them, and holds after them. This is the
induction of the module; all others use it through `Keeps`. -/
theorem passesFrom_induction {P : Registry → Prop}
    (h : ∀ p ∈ e.passesFrom random targets ms r, P p.found → P (e.outcome p).2) (hr : P r) :
    (∀ p ∈ e.passesFrom random targets ms r, P p.found) ∧
      P (e.runPasses random targets ms r).2 := by
  induction ms generalizing r with
  | nil => exact ⟨fun p hp => absurd hp List.not_mem_nil, hr⟩
  | cons m rest ih =>
    -- The first pass finds `r`, and the others find what it leaves.
    have hnext := h ⟨random, targets, m, r⟩ List.mem_cons_self hr
    obtain ⟨hfound, hend⟩ := ih (fun p hp => h p (List.mem_cons_of_mem _ hp)) hnext
    exact ⟨List.forall_mem_cons.mpr ⟨hr, hfound⟩, hend⟩

namespace Keeps

variable {P : Registry → Prop}

/-- What every pass keeps is found by the passes of a call. -/
theorem found (h : e.Keeps P) (hr : P r) : ∀ p ∈ e.passes c r, P p.found :=
  (passesFrom_induction (fun p hp => h p (isProper_of_mem_passes hp)) hr).1

/-- What every pass keeps is kept by a call. -/
theorem call (h : e.Keeps P) (hr : P r) : P (e.call c r) := by
  rw [call_eq]
  exact (passesFrom_induction (fun p hp => h p (isProper_of_mem_passes (c := c) hp)) hr).2

/-- What every pass keeps holds after all calls. -/
theorem history (h : e.Keeps P) (hempty : P .empty) (calls : List Call) :
    P (e.history calls) := by
  refine List.foldlRecOn calls _ hempty fun r hr c _ => ?_
  exact h.call hr

end Keeps

/-! ### Entries stay -/

/-- A pass loses no entry and changes none. Publishing writes an entry where there was none, and
refuses another summary where there was one. -/
theorem growsTo_outcome (e : Engine) (p : Pass) : p.found.GrowsTo (e.outcome p).2 := by
  rcases h : e.outcome p with ⟨err | f, after⟩
  · exact publish_eq_error h ▸ .refl p.found
  · exact Registry.growsTo_publish (publish_eq_ok h).2

/-- That some entries stay is kept by every pass. So entries stay in all calls, whatever these are.
-/
theorem keeps_growsTo (e : Engine) (r : Registry) : e.Keeps r.GrowsTo :=
  fun p _ h => h.trans (e.growsTo_outcome p)

/-- A pass leaves no entry that the call does not leave too, because the passes behind it keep them
all. -/
theorem growsTo_of_mem_passesFrom (h : p ∈ e.passesFrom random targets ms r) :
    (e.outcome p).2.GrowsTo (e.runPasses random targets ms r).2 := by
  induction ms generalizing r with
  | nil => cases h
  | cons m rest ih =>
    show (e.outcome p).2.GrowsTo
      (e.runPasses random targets rest (e.pass random targets m r).2).2
    -- The passes behind the first one begin with what it leaves.
    rcases List.mem_cons.mp h with rfl | hrest
    · exact (passesFrom_induction (fun q _ hq => hq.trans (e.growsTo_outcome q)) (.refl _)).2
    · exact ih hrest

/-- What a pass publishes stays in the call. -/
theorem growsTo_call (h : p ∈ e.passes c r) : (e.outcome p).2.GrowsTo (e.call c r) := by
  rw [call_eq]
  exact growsTo_of_mem_passesFrom h

/-- Further calls lose no entry and change none, however many there are. -/
theorem growsTo_history (e : Engine) (calls more : List Call) :
    (e.history calls).GrowsTo (e.history (calls ++ more)) := by
  rw [history, history, List.foldl_append]
  exact List.foldlRecOn more _ (.refl _) fun r hr c _ => (e.keeps_growsTo _).call hr

/-! ### Entries are as described -/

/-- The summary that the catalog describes for a type. It is a function of the catalog and of one
setting, so it is the same for all calls. -/
def summary? (e : Engine) (typeName : String) : Option Summary :=
  (e.catalog.get? typeName).map (·.summary e.config.includeTransient)

/-- Every entry of the registry is as described. A fresh engine's registry, which has no entries,
is so. -/
def Describes (e : Engine) (r : Registry) : Prop :=
  ∀ key s, r.get? key = some s → e.summary? key = some s

/-- The fixture of a proper pass has the summary that is described for the type. Neither the type
arguments of the request nor the values of constants show in a summary. -/
theorem summary?_of_made (hp : e.IsProper p) {f : Fixture} (h : e.made p = .ok f) :
    e.summary? p.model.type.qualifiedName = some f.summary := by
  obtain ⟨request, hresolve⟩ := hp.resolved
  have hm := Model.isOf_of_resolve hresolve
  -- The name of the model is the requested one, under which the catalog has the description.
  rw [summary_of_fixture_eq_ok hm h, Model.qualifiedName_of_resolve hresolve, summary?,
    hm.description, Option.map_some]

/-- The fixture of a pass is for the type of its model. -/
theorem typeName_of_made {f : Fixture} (h : e.made p = .ok f) :
    f.summary.typeName = p.model.type.qualifiedName := by
  obtain ⟨-, constants, hcompose⟩ := fixture_eq_ok h
  exact (compose_eq_ok hcompose).1

/-- That all entries are as described is kept by every pass: a new entry is the summary of a
fixture, and this is as described. -/
theorem keeps_describes (e : Engine) : e.Keeps e.Describes := by
  intro p hp hfound key s hs
  rcases get?_pass hs with hbefore | ⟨f, hf, rfl, rfl⟩
  · exact hfound key s hbefore
  · exact summary?_of_made hp (outcome_eq_ok hf).1

/-- What is described for a type is not refused where all entries are as described: an entry that
stands there already is the same one. -/
theorem exists_publish_eq_ok {s : Summary} (hr : e.Describes r)
    (hs : e.summary? s.typeName = some s) : ∃ after, r.publish s = .ok after := by
  cases hget : r.get? s.typeName with
  | none => exact ⟨r.insert s, by simp only [Registry.publish, hget]⟩
  | some present =>
    obtain rfl : present = s := Option.some.inj ((hr _ _ hget).symm.trans hs)
    exact ⟨r, Registry.publish_of_get? hget⟩

/-- After some calls of a fresh engine, no further call contradicts what is published. The further
call is any one, so this speaks of all passes that could ever follow. -/
structure IsStable (e : Engine) (calls : List Call) : Prop where
  /-- Every fixture that a pass makes has the summary that catalog and settings describe for its
  type. -/
  described : ∀ c, ∀ p ∈ e.passes c (e.history calls), ∀ f, e.made p = .ok f →
    e.summary? p.model.type.qualifiedName = some f.summary
  /-- No fixture that a pass makes is refused. -/
  accepted : ∀ c, ∀ p ∈ e.passes c (e.history calls), ∀ f, e.made p = .ok f →
    ∃ after, p.found.publish f.summary = .ok after
  /-- The passes of a call find all entries of the calls before, and what they find and publish
  stays. -/
  kept : ∀ c, ∀ p ∈ e.passes c (e.history calls),
    (e.history calls).GrowsTo p.found ∧ p.found.GrowsTo (e.outcome p).2 ∧
      (e.outcome p).2.GrowsTo (e.history (calls ++ [c]))
  /-- All entries stay in further calls. -/
  lasting : ∀ more, (e.history calls).GrowsTo (e.history (calls ++ more))

/-- Whatever calls a fresh engine gets, a type has one summary only, so that no fixture is refused
and no entry is replaced or lost. The step is that a pass publishes what catalog and settings
describe for its type, in whatever state it finds the registry; the rest is by induction on the
calls. -/
theorem isStable_of_calls (e : Engine) (calls : List Call) : e.IsStable calls where
  described _ _ hp _ hf := summary?_of_made (isProper_of_mem_passes hp) hf
  accepted c p hp f hf := by
    have hempty : e.Describes .empty := fun _ _ h => by cases h
    have hfound := (e.keeps_describes).found ((e.keeps_describes).history hempty calls) p hp
    refine exists_publish_eq_ok hfound ?_
    rw [typeName_of_made hf]
    exact summary?_of_made (isProper_of_mem_passes hp) hf
  kept c p hp := by
    refine ⟨(e.keeps_growsTo _).found (.refl _) p hp, e.growsTo_outcome p, ?_⟩
    rw [history, List.foldl_append]
    exact growsTo_call hp
  lasting := e.growsTo_history calls

/-- An item that is generated again after a run has the summary that it had in the run. -/
theorem isStable_of_calls_shop :
    shopEngine.IsStable [.run (fun _ => .ofSeed 0) shopRequests] ∧
      (shopEngine.passes (.generate (fun _ => .ofSeed 1) ⟨"shop.Item", none⟩)
          (shopEngine.history [.run (fun _ => .ofSeed 0) shopRequests])).map
        (fun p => (p.found.get? "shop.Item", (shopEngine.made p).toOption.map (·.summary))) =
      [(some ⟨"shop.Item", "shop.ItemFixture", ["ORDER", "ORDER_SIZE"], "createItem"⟩,
        some ⟨"shop.Item", "shop.ItemFixture", ["ORDER", "ORDER_SIZE"], "createItem"⟩)] :=
  ⟨isStable_of_calls shopEngine _, by decide +kernel⟩

end Engine

end Fixtures
