import Fixtures.Proofs.Engine.Decided
import Fixtures.Proofs.Engine.Fresh
import Fixtures.Proofs.Schedule.Named

/-!
# `Fixtures.Proofs.Engine.Comparison`: two runs with models in common

Two runs number their passes, put them into levels and fill their registries independently of each
other. What has to be the same when the models of the one are among those of the other, each with
the same dependencies and none depending on the rest (`IsPartOf`)?

* The dependencies by name are the same from there on (`IsPartOf.sameFrom`), so the same models
  run, and the others are rejected, be it for another cycle of the same length.
* The models that run come in order in both runs (`isInOrder_levels`), so their fixtures solve the
  same equation (`IsPartOf.isAmong`).

That makes the results of such a model the same (`IsPartOf.sameResult`), and the entries too
(`IsPartOf.get?_run`).
-/

set_option autoImplicit false

namespace Fixtures.Engine

open Schedule (IsStuck IsReason IsShortestCycle SameFrom)

/-- A model waits for another one, by the names of their types. Places mean different models in
different runs, and names do not. -/
def waits (e : Engine) (requests : List Request) : String → String → Prop :=
  Schedule.Waits (e.nodes requests)

/-- Twice the same result, or a shortest cycle twice. Both cycles lead through the type, so they
have the same length. -/
inductive SameResult (R : String → String → Prop) (name : String) :
    Except FixtureError Fixture → Except FixtureError Fixture → Prop
  | same (x : Except FixtureError Fixture) : SameResult R name x x
  | cycle {path path' : List String} (h : IsShortestCycle R name path)
      (h' : IsShortestCycle R name path') :
      SameResult R name (.error (.cycle path)) (.error (.cycle path'))

/-- The outcomes are of one request, with the same result or with a shortest cycle. There may be
several shortest cycles through a type, and which of them is told depends on the order of the
requests. -/
structure SameOutcome (R : String → String → Prop) (o o' : Outcome) : Prop where
  request : o.request = o'.request
  result : SameResult R o.request.typeName o.result o'.result

/-- Two reasons why a model does not run are the same, or both are a shortest cycle. A model that
is on a cycle is never rejected for being behind one, so the reasons are of one kind. -/
theorem SameResult.of_isReason {R : String → String → Prop} {name : String}
    {err err' : FixtureError} (h : IsReason R name err) (h' : IsReason R name err') :
    SameResult R name (.error err) (.error err') := by
  cases h with
  | cycle path hpath =>
    cases h' with
    | cycle path' hpath' => exact .cycle hpath hpath'
    | behindCycle hnone =>
      obtain ⟨others, -, hcycle, -⟩ := hpath
      exact absurd hcycle (hnone others)
  | behindCycle hnone =>
    cases h' with
    | cycle path' hpath' =>
      obtain ⟨others, -, hcycle, -⟩ := hpath'
      exact absurd hcycle (hnone others)
    | behindCycle _ => exact .same _

variable {e : Engine} {random random' : String → UuidSource} {requests requests' : List Request}
  {seed : UInt64} {m m' : Model}

/-! ### One run -/

/-- A model waits for another one when it depends on its type. That the types are different ones
need not be said, since no model depends on its own type. -/
theorem waits_iff {a b : String} :
    e.waits requests a b ↔ ∃ m ∈ e.models requests, ∃ m' ∈ e.models requests,
      m.type.qualifiedName = a ∧ m'.type.qualifiedName = b ∧
        b ∈ (e.node (e.targets requests) m).dependsOn := by
  unfold waits Schedule.Waits nodes
  simp only [List.mem_map, exists_exists_and_eq_and]
  constructor
  · rintro ⟨-, m, hm, m', hm', ha, hb, hdep⟩
    exact ⟨m, hm, m', hm', ha, hb, hdep⟩
  · rintro ⟨m, hm, m', hm', rfl, rfl, hdep⟩
    refine ⟨fun hsame => ?_, m, hm, m', hm', rfl, rfl, hdep⟩
    exact qualifiedName_not_mem_dependsOn e (e.targets requests) m (hsame ▸ hdep)

/-- The models that run are those that are not stuck. -/
theorem mem_levels_iff :
    m ∈ (e.levels requests).flatten ↔
      m ∈ e.models requests ∧ ¬ IsStuck (e.waits requests) m.type.qualifiedName := by
  rw [levels, ← List.filterMap_flatten, List.mem_filterMap]
  constructor
  · rintro ⟨i, hi, hm⟩
    refine ⟨List.mem_of_getElem? hm, ?_⟩
    exact (Schedule.mem_levels_iff_not_isStuck Schedule.Search.isLawful_depthFirst
      (nodup_nodes e requests) (getElem?_nodes hm)).mp hi
  · rintro ⟨hm, hfree⟩
    obtain ⟨i, hi⟩ := List.getElem?_of_mem hm
    refine ⟨i, ?_, hi⟩
    exact (Schedule.mem_levels_iff_not_isStuck Schedule.Search.isLawful_depthFirst
      (nodup_nodes e requests) (getElem?_nodes hi)).mpr hfree

/-- The models that run come in order. So what was found of fresh passes holds of those of a run.
-/
theorem isInOrder_levels (e : Engine) (requests : List Request) :
    e.IsInOrder (e.targets requests) (e.levels requests).flatten where
  names := (List.nodup_append.mp (nodup_decided_names e requests)).2.1
  reads := by
    rw [List.pairwise_flatten]
    constructor
    · intro level hlevel
      refine List.pairwise_of_forall_mem_list fun m hm m' hm' => ?_
      exact not_mem_dependsOn_of_mem_levels hlevel hm hm'
    · rw [List.pairwise_iff_getElem]
      intro l l' hl hl' hlt m hm m' hm' hdep
      -- A dependency stands in a lower level, and this one would stand in a higher one.
      have hlow := level_lt_of_mem_dependsOn (List.getElem?_eq_getElem hl) hm
        (List.getElem?_eq_getElem hl') hm' hdep
      exact Nat.lt_asymm hlt hlow

/-- A rejected model is stuck, and its result is the reason. Both are told by names, and so can be
compared with another run. -/
theorem exists_reason_of_mem_rejections {name : String} {x : Except FixtureError Fixture}
    (h : (name, x) ∈ e.rejections requests) :
    IsStuck (e.waits requests) name ∧
      ∃ err, x = .error err ∧ IsReason (e.waits requests) name err := by
  obtain ⟨i, m, err, hi, hrejected, rfl, rfl⟩ := mem_rejections_iff.mp h
  -- The place of the model is that of its node, for which the schedule gives the reason.
  have hnode := getElem?_nodes hi
  have hnodup := nodup_nodes e requests
  have hlawful := Schedule.Search.isLawful_depthFirst
  exact ⟨Schedule.isStuck_of_mem_rejected hlawful hnodup hnode hrejected, err, rfl,
    Schedule.isReason_of_mem_rejected hlawful hnodup hnode hrejected⟩

/-- The result of a pass of a fresh engine is the fixture that is made with what the run leaves.
Which passes came before it does not matter any more. -/
theorem eq_freshMade_of_mem_runPasses {x : Except FixtureError Fixture}
    (hm : m ∈ e.models requests)
    (h : (m.type.qualifiedName, x) ∈
      (e.runPasses random (e.targets requests) (e.levels requests).flatten .empty).1) :
    m ∈ (e.levels requests).flatten ∧
      x = e.freshMade random (e.targets requests) (e.levels requests).flatten m := by
  obtain ⟨m', hm', hname, rfl⟩ := mem_freshPasses (isInOrder_levels e requests) h
  obtain rfl := eq_of_mem_models (mem_models_of_mem_levels hm') hm hname
  exact ⟨hm', rfl⟩

/-- A run of a fresh engine publishes no summary but those of the models that run. -/
theorem get?_run_eq_none {key : String}
    (h : key ∉ (e.levels requests).flatten.map (·.type.qualifiedName)) :
    (e.run random requests .empty).2.get? key = none := by
  rw [run_eq]
  exact get?_runPasses_of_notMem h

/-- A model that does not run has no entry. -/
theorem notMem_map_levels (hm : m ∈ e.models requests)
    (hlevel : m ∉ (e.levels requests).flatten) :
    m.type.qualifiedName ∉ (e.levels requests).flatten.map (·.type.qualifiedName) := by
  intro hname
  obtain ⟨m', hm', hsame⟩ := List.mem_map.mp hname
  obtain rfl := eq_of_mem_models (mem_models_of_mem_levels hm') hm hsame
  exact hlevel hm'

/-! ### Two runs -/

/-- The models of some requests are among those of other ones. The further models of the others may
depend on them, but not they on the further ones. -/
structure IsPartOf (e : Engine) (requests requests' : List Request) : Prop where
  /-- All of them are. -/
  models : e.models requests ⊆ e.models requests'
  /-- Their fields depend on the same types. -/
  dependency : ∀ m ∈ e.models requests, ∀ fld ∈ e.includedFields m,
    m.dependency? (e.targets requests) fld = m.dependency? (e.targets requests') fld
  /-- What they depend on is not of the rest. -/
  closed : ∀ m ∈ e.models requests, ∀ m' ∈ e.models requests',
    m'.type.qualifiedName ∈ (e.node (e.targets requests) m).dependsOn → m' ∈ e.models requests

namespace IsPartOf

variable (h : e.IsPartOf requests requests')

include h

/-- The models depend on the same types, each field on the same one. -/
theorem dependsOn_eq (hm : m ∈ e.models requests) :
    (e.node (e.targets requests) m).dependsOn = (e.node (e.targets requests') m).dependsOn :=
  List.filterMap_congr (h.dependency m hm)

/-- The models wait for the same ones, and these are among them. So all that can be said of a model
by following its dependencies is the same in both runs. -/
theorem sameFrom :
    SameFrom (· ∈ (e.models requests).map (·.type.qualifiedName)) (e.waits requests)
      (e.waits requests') where
  step a ha b := by
    obtain ⟨m, hm, rfl⟩ := List.mem_map.mp ha
    rw [waits_iff, waits_iff]
    constructor
    · rintro ⟨m₁, hm₁, m₂, hm₂, hname, rfl, hdep⟩
      exact ⟨m₁, h.models hm₁, m₂, h.models hm₂, hname, rfl, h.dependsOn_eq hm₁ ▸ hdep⟩
    -- In the larger run too the type has one model, and what it depends on is not of the rest.
    · rintro ⟨m₁, hm₁, m₂, hm₂, hname, rfl, hdep⟩
      obtain rfl := eq_of_mem_models hm₁ (h.models hm) hname
      rw [← h.dependsOn_eq hm] at hdep
      exact ⟨m₁, hm, m₂, h.closed m₁ hm m₂ hm₂ hdep, rfl, rfl, hdep⟩
  closed a _ b hab := by
    obtain ⟨-, -, m', hm', -, rfl, -⟩ := waits_iff.mp hab
    exact List.mem_map_of_mem hm'

/-- The same ones of the models run. -/
theorem mem_levels_iff (hm : m ∈ e.models requests) :
    m ∈ (e.levels requests).flatten ↔ m ∈ (e.levels requests').flatten := by
  have hname := List.mem_map_of_mem (f := (·.type.qualifiedName)) hm
  rw [Engine.mem_levels_iff, Engine.mem_levels_iff]
  constructor
  · rintro ⟨-, hfree⟩
    exact ⟨h.models hm, fun hstuck => hfree (h.sameFrom.symm.isStuck hname hstuck)⟩
  · rintro ⟨-, hfree⟩
    exact ⟨hm, fun hstuck => hfree (h.sameFrom.isStuck hname hstuck)⟩

/-- The passes of the one run are among those of the other one, with the same dependencies. What
was found of two solutions of one equation holds of the two runs. -/
theorem isAmong :
    e.IsAmong (e.targets requests) (e.levels requests).flatten (e.targets requests')
      (e.levels requests').flatten where
  subset _ hm := (h.mem_levels_iff (mem_models_of_mem_levels hm)).mp hm
  dependency m hm := h.dependency m (mem_models_of_mem_levels hm)
  closed m hm m' hm' hdep := by
    have hmodel := h.closed m (mem_models_of_mem_levels hm) m' (mem_models_of_mem_levels hm') hdep
    exact (h.mem_levels_iff hmodel).mpr hm'

variable (hseed : e.config.uuidSeed = some seed)

include hseed

/-- The passes make the same fixtures. -/
theorem freshMade_eq (random random' : String → UuidSource)
    (hm : m ∈ (e.levels requests).flatten) :
    e.freshMade random (e.targets requests) (e.levels requests).flatten m
      = e.freshMade random' (e.targets requests') (e.levels requests').flatten m :=
  Engine.freshMade_eq hseed (isInOrder_levels e requests) (isInOrder_levels e requests')
    h.isAmong m hm

/-- What is decided for a model is the same, or it is a shortest cycle in both runs. -/
theorem sameResult {x x' : Except FixtureError Fixture} (hm : m ∈ e.models requests)
    (hx : (m.type.qualifiedName, x) ∈ e.decided random requests .empty)
    (hx' : (m.type.qualifiedName, x') ∈ e.decided random' requests' .empty) :
    SameResult (e.waits requests) m.type.qualifiedName x x' := by
  have hname := List.mem_map_of_mem (f := (·.type.qualifiedName)) hm
  -- It is rejected in both runs or runs in both, since it is stuck in both or in none.
  rcases List.mem_append.mp hx with hrejected | hpass <;>
    rcases List.mem_append.mp hx' with hrejected' | hpass'
  · obtain ⟨-, err, rfl, herr⟩ := exists_reason_of_mem_rejections hrejected
    obtain ⟨-, err', rfl, herr'⟩ := exists_reason_of_mem_rejections hrejected'
    exact .of_isReason herr (h.sameFrom.symm.isReason hname herr')
  · obtain ⟨hstuck, -⟩ := exists_reason_of_mem_rejections hrejected
    obtain ⟨hm', -⟩ := eq_freshMade_of_mem_runPasses (h.models hm) hpass'
    exact absurd (h.sameFrom.isStuck hname hstuck) (Engine.mem_levels_iff.mp hm').2
  · obtain ⟨hstuck, -⟩ := exists_reason_of_mem_rejections hrejected'
    obtain ⟨hm', -⟩ := eq_freshMade_of_mem_runPasses hm hpass
    exact absurd (h.sameFrom.symm.isStuck hname hstuck) (Engine.mem_levels_iff.mp hm').2
  · obtain ⟨hm', rfl⟩ := eq_freshMade_of_mem_runPasses hm hpass
    obtain ⟨-, rfl⟩ := eq_freshMade_of_mem_runPasses (h.models hm) hpass'
    rw [h.freshMade_eq hseed random random' hm']
    exact .same _

/-- The result of a request with a model is the same. -/
theorem sameResult_result {q : Request} (hm : m ∈ e.models requests)
    (hname : m.type.qualifiedName = q.typeName) :
    SameResult (e.waits requests) q.typeName
      (result (e.decided random requests .empty) q (.ok m))
      (result (e.decided random' requests' .empty) q (.ok m)) := by
  obtain ⟨x, hx⟩ := exists_mem_decided random .empty hm
  obtain ⟨x', hx'⟩ := exists_mem_decided random' .empty (h.models hm)
  rw [result_of_mem_decided hx, result_of_mem_decided hx', ← hname]
  exact h.sameResult hseed hm hx hx'

/-- The entry of a model is the same. -/
theorem get?_run (hm : m ∈ e.models requests) :
    (e.run random requests .empty).2.get? m.type.qualifiedName
      = (e.run random' requests' .empty).2.get? m.type.qualifiedName := by
  by_cases hlevel : m ∈ (e.levels requests).flatten
  · have hlevel' := (h.mem_levels_iff hm).mp hlevel
    rw [run_eq, run_eq]
    show (e.freshPasses random _ _).2.get? _ = (e.freshPasses random' _ _).2.get? _
    rw [get?_freshPasses_of_mem (isInOrder_levels e requests) hlevel,
      get?_freshPasses_of_mem (isInOrder_levels e requests') hlevel',
      h.freshMade_eq hseed random random' hlevel]
  · -- A model that runs in neither run has an entry in neither.
    have hlevel' := mt (h.mem_levels_iff hm).mpr hlevel
    rw [get?_run_eq_none (notMem_map_levels hm hlevel),
      get?_run_eq_none (notMem_map_levels (h.models hm) hlevel')]

end IsPartOf

/-- No entry is that of a type without a model, because nothing else is published in a run of a
fresh engine. -/
theorem get?_run_of_notMem {key : String}
    (h : key ∉ (e.models requests).map (·.type.qualifiedName)) :
    (e.run random requests .empty).2.get? key = none := by
  refine get?_run_eq_none fun hkey => h ?_
  obtain ⟨m, hm, rfl⟩ := List.mem_map.mp hkey
  exact List.mem_map_of_mem (mem_models_of_mem_levels hm)

end Fixtures.Engine
