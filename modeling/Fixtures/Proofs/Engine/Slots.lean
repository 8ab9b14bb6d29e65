import Fixtures.Proofs.Engine.Pass
import Fixtures.Proofs.Model
import Fixtures.Proofs.Schedule.Levels

/-!
# `Fixtures.Proofs.Engine.Slots`: every slot of a run is written once

A run counts in three ways. Its table of results has a slot for each request, the models have
places among those that could be resolved, and the schedule speaks of these places. The errors and
results come from three sides in this order: from requests without a model, from the schedule, and
from the passes. Nothing in the run checks that no slot is written twice or left empty.

It is so because each step only divides what it has. The requests are divided into those with an
error and those with a model (`refused_append_models_perm`), and the models into those that are
rejected and those that run (`stopped_append_scheduled_perm`). So the slots that are written
are those of all requests, each once (`map_fst_writes_perm`), and a write finds its slot empty
(`getElem?_fill_of_append`).

From there on slots are not needed. The outcome of a request is what is found under the name of its
type among all that is decided (`outcomes_eq`), and the other modules on runs speak of names.
-/

set_option autoImplicit false

namespace Fixtures.Engine

variable {e : Engine} {random : String → UuidSource} {requests : List Request}

/-! ### The models -/

/-- Every request is prepared, in order. So the places of prepared requests are the slots. -/
theorem map_fst_prepare (e : Engine) (seen : List String) (requests : List Request) :
    (e.prepare seen requests).map (·.1) = requests := by
  induction requests generalizing seen with
  | nil => rfl
  | cons q rest ih => rw [prepare, List.map_cons, ih]

theorem length_prepare (e : Engine) (seen : List String) (requests : List Request) :
    (e.prepare seen requests).length = requests.length := by
  rw [← List.length_map (·.1), map_fst_prepare]

/-- A prepared model is resolved from its request, whose type was not requested before. The
induction goes along the requests, and those seen so far only become more. -/
theorem resolve_of_mem_prepare {seen : List String} {q : Request} {m : Model}
    (h : (q, .ok m) ∈ e.prepare seen requests) :
    Model.resolve e.catalog q = .ok m ∧ q.typeName ∉ seen := by
  induction requests generalizing seen with
  | nil => cases h
  | cons q' rest ih =>
    rw [prepare] at h
    rcases List.mem_cons.mp h with hfirst | hrest
    · rw [Prod.mk.injEq] at hfirst
      obtain ⟨rfl, hmodel⟩ := hfirst
      split at hmodel
      · cases hmodel
      · next hseen => exact ⟨hmodel.symm, by simpa using hseen⟩
    · obtain ⟨hresolve, hseen⟩ := ih hrest
      exact ⟨hresolve, fun hq => hseen (List.mem_cons_of_mem _ hq)⟩

/-- A request with a model is the first one for its type, so looking for its type finds it and no
request before. -/
theorem find?_prepare {seen : List String} {q : Request} {m : Model}
    (h : (q, .ok m) ∈ e.prepare seen requests) :
    (e.prepare seen requests).find? (fun p => p.1.typeName == q.typeName) = some (q, .ok m) := by
  induction requests generalizing seen with
  | nil => cases h
  | cons q' rest ih =>
    rw [prepare] at h ⊢
    rcases List.mem_cons.mp h with hfirst | hrest
    · rw [← hfirst]
      exact List.find?_cons_of_pos (by simp)
    · have hne : q'.typeName ≠ q.typeName := by
        intro heq
        exact (resolve_of_mem_prepare hrest).2 (heq ▸ List.mem_cons_self)
      rw [List.find?_cons_of_neg (by simpa using hne)]
      exact ih hrest

/-- Of two prepared models for one type both are the same, because both are found first. -/
theorem eq_of_mem_prepare {seen : List String} {q q' : Request} {m m' : Model}
    (h : (q, .ok m) ∈ e.prepare seen requests) (h' : (q', .ok m') ∈ e.prepare seen requests)
    (hname : q.typeName = q'.typeName) : m = m' := by
  have hfirst := find?_prepare h
  rw [hname, find?_prepare h'] at hfirst
  cases hfirst
  rfl

/-- The models of the requests that have one. Their order is that of the requests, but their
numbers are other ones as soon as one request has no model. -/
def models (e : Engine) (requests : List Request) : List Model :=
  (e.prepare [] requests).filterMap fun p => p.2.toOption

/-- A model of the run is that of some request. -/
theorem mem_models_iff {m : Model} :
    m ∈ e.models requests ↔ ∃ q, (q, .ok m) ∈ e.prepare [] requests := by
  simp only [models, List.mem_filterMap, toOption_eq_some_iff]
  constructor
  · rintro ⟨⟨q, made⟩, hmem, rfl⟩
    exact ⟨q, hmem⟩
  · rintro ⟨q, hmem⟩
    exact ⟨(q, .ok m), hmem, rfl⟩

/-- Prepared models have different names. A model has the name that was requested, and a name is
only prepared once. -/
theorem nodup_filterMap_prepare (e : Engine) (seen : List String) (requests : List Request) :
    (((e.prepare seen requests).filterMap fun p => p.2.toOption).map
      (·.type.qualifiedName)).Nodup := by
  induction requests generalizing seen with
  | nil => exact List.nodup_nil
  | cons q rest ih =>
    rw [prepare, List.filterMap_cons]
    split
    · exact ih _
    · next m hm =>
      rw [List.map_cons, List.nodup_cons]
      refine ⟨fun hmem => ?_, ih _⟩
      have hfirst : Model.resolve e.catalog q = .ok m := by
        have hmodel := toOption_eq_some_iff.mp hm
        split at hmodel
        · cases hmodel
        · exact hmodel
      -- A later model of this name would be resolved from a request that comes too late.
      obtain ⟨m', hm', hname⟩ := List.mem_map.mp hmem
      obtain ⟨⟨q', made⟩, hmem', hmade⟩ := List.mem_filterMap.mp hm'
      obtain rfl := toOption_eq_some_iff.mp hmade
      obtain ⟨hresolve, hseen⟩ := resolve_of_mem_prepare hmem'
      rw [Model.qualifiedName_of_resolve hresolve, Model.qualifiedName_of_resolve hfirst] at hname
      exact hseen (List.mem_cons.mpr (.inl hname))

/-- The models of a run have different names. This is what schedules rest on. -/
theorem nodup_models (e : Engine) (requests : List Request) :
    ((e.models requests).map (·.type.qualifiedName)).Nodup :=
  nodup_filterMap_prepare e [] requests

/-! ### Names -/

/-- The passes as the schedule sees them. The places that a schedule speaks of are places in this
list. -/
def nodes (e : Engine) (requests : List Request) : List PassNode :=
  (e.models requests).map (e.node (e.targets requests))

/-- The models that run, level by level. The schedule gives places, and a place that is none of a
model would be dropped here; there are no such places. -/
def levels (e : Engine) (requests : List Request) : List (List Model) :=
  (Schedule.ofNodes (e.nodes requests)).levels.map fun level =>
    level.filterMap fun i => (e.models requests)[i]?

/-- What is decided for the models that do not run, told under the names of their types. -/
def rejections (e : Engine) (requests : List Request) :
    List (String × Except FixtureError Fixture) :=
  (Schedule.ofNodes (e.nodes requests)).rejected.filterMap fun r =>
    (e.models requests)[r.1]?.map fun m => (m.type.qualifiedName, .error r.2)

/-- Every pass gives a result under the name of its type, in order, whether it makes a fixture or
not. -/
theorem map_fst_runPasses (e : Engine) (random : String → UuidSource) (targets : List String)
    (ms : List Model) (r : Registry) :
    (e.runPasses random targets ms r).1.map (·.1) = ms.map (·.type.qualifiedName) := by
  induction ms generalizing r with
  | nil => rfl
  | cons m rest ih => exact congrArg (_ :: ·) (ih _)

/-- Under different names every entry is found. -/
theorem lookup_eq_some_of_mem {β : Type} {entries : List (String × β)} {name : String} {x : β}
    (hnodup : (entries.map (·.1)).Nodup) (h : (name, x) ∈ entries) :
    entries.lookup name = some x := by
  obtain ⟨before, after, rfl⟩ := List.append_of_mem h
  refine List.lookup_eq_some_iff.mpr ⟨before, after, rfl, fun p hp => ?_⟩
  rw [List.map_append, List.map_cons] at hnodup
  have hne := List.disjoint_of_nodup_append hnodup (List.mem_map_of_mem hp)
  rw [bne_iff_ne]
  rintro rfl
  exact hne List.mem_cons_self

/-- The result of a request: the error that kept it from having a model, or what was decided for
its type. -/
def result (decided : List (String × Except FixtureError Fixture)) (request : Request) :
    Except FixtureError Model → Except FixtureError Fixture
  | .error err => .error err
  | .ok m =>
    (decided.lookup m.type.qualifiedName).getD (.error (.neverScheduled request.typeName))

/-! ### Places -/

/-- The items of a list by all its places are the list. A permutation of the places is so turned
into one of the items. -/
theorem filterMap_range_getElem? {α β : Type} (f : α → β) (items : List α) :
    ((List.range items.length).filterMap fun i => items[i]?.map f) = items.map f := by
  induction items with
  | nil => rfl
  | cons item rest ih =>
    rw [List.length_cons, List.range_succ_eq_map, List.filterMap_cons, List.filterMap_map]
    exact congrArg (f item :: ·) ih

/-- The models of a plan are those of the requests. The plan only adds to each one the slot of its
request. -/
theorem map_snd_models_plan (e : Engine) (requests : List Request) :
    (e.plan requests).models.map (·.2) = e.models requests := by
  have hmodels : (e.prepare [] requests).zipIdx.filterMap (fun p => p.1.2.toOption)
      = (e.prepare [] requests).filterMap fun p => p.2.toOption := by
    conv_rhs => rw [← List.zipIdx_map_fst (i := 0) (l := e.prepare [] requests)]
    rw [List.filterMap_map]
    rfl
  rw [plan, List.map_filterMap, models, ← hmodels]
  simp only [Option.map_map, Function.comp_def, Option.map_id']

/-- A model of a plan is that of the request in its slot. -/
theorem mem_models_plan_iff {slot : Nat} {m : Model} :
    (slot, m) ∈ (e.plan requests).models ↔
      ∃ q, (e.prepare [] requests)[slot]? = some (q, .ok m) := by
  simp only [plan, List.mem_filterMap, Option.map_eq_some_iff, toOption_eq_some_iff,
    Prod.exists, Prod.mk.injEq, List.mk_mem_zipIdx_iff_getElem?]
  constructor
  · rintro ⟨q, made, i, hi, m, rfl, rfl, rfl⟩
    exact ⟨q, hi⟩
  · rintro ⟨q, hq⟩
    exact ⟨q, _, slot, hq, m, rfl, rfl, rfl⟩

/-- A refused request is one with an error, in its slot: its type was requested before, or it has
no model. -/
theorem mem_refused_plan_iff {slot : Nat} {err : FixtureError} :
    (slot, err) ∈ (e.plan requests).refused ↔
      ∃ q, (e.prepare [] requests)[slot]? = some (q, .error err) := by
  simp only [plan, List.mem_filterMap, Prod.exists, List.mk_mem_zipIdx_iff_getElem?]
  constructor
  · rintro ⟨q, made, i, hi, hmade⟩
    cases made with
    | error err' =>
      cases hmade
      exact ⟨q, hi⟩
    | ok m => cases hmade
  · rintro ⟨q, hq⟩
    exact ⟨q, _, slot, hq, rfl⟩

/-- The schedule of a plan is that of the passes. -/
theorem schedule_plan (e : Engine) (requests : List Request) :
    (e.plan requests).schedule = Schedule.ofNodes (e.nodes requests) := by
  have hnodes : (e.plan requests).models.map (fun p => e.node (e.targets requests) p.2)
      = e.nodes requests := by
    rw [nodes, ← map_snd_models_plan, List.map_map]
    rfl
  rw [← hnodes]
  rfl

/-- The passes of a run have different names. -/
theorem nodup_nodes (e : Engine) (requests : List Request) :
    ((e.nodes requests).map (·.typeName)).Nodup := by
  rw [nodes, List.map_map]
  exact nodup_models e requests

/-- Every pass stands once in a level or once among the rejected ones. This is where the run relies
on its schedule. -/
theorem ofNodes_nodes_perm (e : Engine) (requests : List Request) :
    ((Schedule.ofNodes (e.nodes requests)).levels.flatten ++
      (Schedule.ofNodes (e.nodes requests)).rejected.map (·.1)).Perm
        (List.range (e.models requests).length) := by
  have hlength : (e.nodes requests).length = (e.models requests).length := List.length_map _
  rw [← hlength]
  exact Schedule.arrange_perm Schedule.Search.isLawful_depthFirst (nodup_nodes e requests)

namespace Plan

/-- The models that the schedule rejects, with their slots and their errors. -/
def stopped (p : Plan) : List ((Nat × Model) × FixtureError) :=
  p.schedule.rejected.filterMap fun r => p.models[r.1]?.map fun m => (m, r.2)

/-- What is written for the rejected models are their errors, into their slots. -/
theorem rejected_eq (p : Plan) : p.rejected = p.stopped.map fun s => (s.1.1, s.2) := by
  rw [rejected, stopped, List.map_filterMap]
  simp only [Option.map_map]
  rfl

end Plan

/-- The models that are named among the rejected ones are those that are stopped, so errors under
names and errors in slots are the same. -/
theorem rejections_eq (e : Engine) (requests : List Request) :
    e.rejections requests = (e.plan requests).stopped.map fun s =>
      (s.1.2.type.qualifiedName, .error s.2) := by
  rw [rejections, Plan.stopped, schedule_plan, List.map_filterMap, ← map_snd_models_plan]
  simp only [List.getElem?_map, Option.map_map]
  rfl

/-- The models that run are those that are scheduled, level by level. -/
theorem map_snd_scheduled_plan (e : Engine) (requests : List Request) :
    (e.plan requests).scheduled.map (·.2) = (e.levels requests).flatten := by
  rw [Plan.scheduled, schedule_plan, List.map_filterMap, levels, ← List.filterMap_flatten,
    ← map_snd_models_plan]
  simp only [List.getElem?_map]

/-- Each model of a plan is rejected or runs, once. The places of the schedule are all places of
models, and stay so when models are put for them. -/
theorem stopped_append_scheduled_perm (e : Engine) (requests : List Request) :
    ((e.plan requests).stopped.map (·.1) ++ (e.plan requests).scheduled).Perm
      (e.plan requests).models := by
  have hplaces := (ofNodes_nodes_perm e requests).filterMap
    fun i => ((e.plan requests).models[i]?).map id
  -- A place of the schedule is a place among the models of the plan.
  have hlength : (e.models requests).length = (e.plan requests).models.length := by
    rw [← map_snd_models_plan, List.length_map]
  rw [hlength, filterMap_range_getElem?, List.map_id, List.filterMap_append,
    List.filterMap_map, ← schedule_plan] at hplaces
  simp only [Option.map_id_fun, id_eq] at hplaces
  refine List.perm_append_comm.trans (.trans (.of_eq ?_) hplaces)
  rw [Plan.scheduled, Plan.stopped, List.map_filterMap]
  simp only [Option.map_map, Function.comp_def, Option.map_id']

/-! ### Slots -/

/-- Each request is refused or has a model, once. All prepared requests are split by whether they
have a model, and the slots are split with them. -/
theorem refused_append_models_perm (e : Engine) (requests : List Request) :
    ((e.plan requests).refused.map (·.1) ++ (e.plan requests).models.map (·.1)).Perm
      (List.range requests.length) := by
  have hsplit := (List.filter_append_perm (fun p => !p.1.2.isOk)
    (e.prepare [] requests).zipIdx).map (·.2)
  rw [List.map_append, List.zipIdx_map_snd, length_prepare, ← List.range_eq_range'] at hsplit
  -- The two filters are the two parts of a plan, read by slot.
  refine .trans (.of_eq ?_) hsplit
  rw [plan, List.map_filterMap, List.map_filterMap]
  refine congrArg₂ (· ++ ·) ?_ ?_
  · rw [← List.filterMap_eq_map, List.filterMap_filter]
    refine List.filterMap_congr fun p _ => ?_
    cases p.1.2 with
    | error err => rfl
    | ok m => rfl
  · rw [← List.filterMap_eq_map, List.filterMap_filter]
    refine List.filterMap_congr fun p _ => ?_
    cases p.1.2 with
    | error err => rfl
    | ok m => rfl

/-- What a run writes is for every slot, once, when there is a result for every scheduled model.
The two divisions are put together: requests into refused ones and models, models into stopped and
scheduled ones. -/
theorem map_fst_writes_perm (e : Engine) (requests : List Request)
    {finished : List (Except FixtureError Fixture)}
    (hlength : finished.length = (e.plan requests).scheduled.length) :
    (((e.plan requests).writes finished).map (·.1)).Perm (List.range requests.length) := by
  have hmodels := (stopped_append_scheduled_perm e requests).map (·.1)
  rw [List.map_append, List.map_map] at hmodels
  refine .trans (.of_eq ?_)
    ((hmodels.append_left _).trans (refused_append_models_perm e requests))
  rw [Plan.writes, List.map_append, List.map_map, List.map_append, Plan.rejected_eq, List.map_map,
    List.map_fst_zip (by rw [List.length_map, hlength]), List.append_assoc]
  rfl

/-- A slot that no write is for is as it was. A write changes its own slot only. -/
theorem getElem?_foldl_of_not_mem {writes : List (Nat × Except FixtureError Fixture)}
    {slot : Nat} (h : slot ∉ writes.map (·.1))
    (table : Array (Option (Except FixtureError Fixture))) :
    (writes.foldl (fun table w => table.setIfInBounds w.1 (some w.2)) table)[slot]?
      = table[slot]? := by
  induction writes generalizing table with
  | nil => rfl
  | cons w rest ih =>
    obtain ⟨hne, hrest⟩ := not_or.mp (mt List.mem_cons.mpr h)
    rw [List.foldl_cons, ih hrest, Array.getElem?_setIfInBounds_ne (Ne.symm hne)]

/-- The table has a slot for each request. -/
theorem size_fill (slots : Nat) (writes : List (Nat × Except FixtureError Fixture)) :
    (fill slots writes).size = slots := by
  have hfold : ∀ table : Array (Option (Except FixtureError Fixture)),
      (writes.foldl (fun table w => table.setIfInBounds w.1 (some w.2)) table).size
        = table.size := by
    induction writes with
    | nil => exact fun table => rfl
    | cons w rest ih => exact fun table => (ih _).trans Array.size_setIfInBounds
  rw [fill, hfold, Array.size_replicate]

/-- When every slot is written once, it has what is written for it in the end: the writes behind it
are for other slots. -/
theorem getElem?_fill_of_mem {slots slot : Nat} {x : Except FixtureError Fixture}
    {writes : List (Nat × Except FixtureError Fixture)}
    (h : (writes.map (·.1)).Perm (List.range slots)) (hmem : (slot, x) ∈ writes) :
    (fill slots writes)[slot]? = some (some x) := by
  obtain ⟨before, after, rfl⟩ := List.append_of_mem hmem
  have hnodup := h.symm.nodup List.nodup_range
  rw [List.map_append, List.map_cons] at hnodup
  have hlt : slot < (fill slots before).size := by
    rw [size_fill]
    exact List.mem_range.mp (h.subset (List.mem_map.mpr ⟨_, hmem, rfl⟩))
  have hnot : slot ∉ after.map (·.1) :=
    (List.nodup_cons.mp (List.nodup_append.mp hnodup).2.1).1
  rw [fill, List.foldl_append, List.foldl_cons, getElem?_foldl_of_not_mem hnot,
    Array.getElem?_setIfInBounds_self_of_lt (by exact hlt)]

/-- The outcome of a request is what is in its slot. -/
theorem getElem?_outcomesOf {slot : Nat} {q : Request} {x : Except FixtureError Fixture}
    {table : Array (Option (Except FixtureError Fixture))} (hq : requests[slot]? = some q)
    (hx : table[slot]? = some (some x)) : (outcomesOf requests table)[slot]? = some ⟨q, x⟩ := by
  rw [← Array.getElem?_toList] at hx
  have hzip : (requests.zip table.toList)[slot]? = some (q, some x) :=
    List.getElem?_zip_eq_some.mpr ⟨hq, hx⟩
  rw [outcomesOf, List.getElem?_map, hzip]
  rfl

/-! ### From slots to names -/

/-- The outcomes of the requests, when the passes have finished with some results. The names of the
results are not looked at; what counts is their order. -/
def outcomes (e : Engine) (requests : List Request)
    (finished : List (String × Except FixtureError Fixture)) : List Outcome :=
  outcomesOf requests (fill requests.length ((e.plan requests).writes (finished.map (·.2))))

/-- Each model is rejected or runs, once, and so does its name stand once among those that are
decided. -/
theorem decided_names_perm (e : Engine) (requests : List Request) :
    ((e.rejections requests).map (·.1) ++
      (e.levels requests).flatten.map (·.type.qualifiedName)).Perm
        ((e.models requests).map (·.type.qualifiedName)) := by
  have hnames := (stopped_append_scheduled_perm e requests).map (·.2.type.qualifiedName)
  refine .trans (.of_eq ?_) (hnames.trans (.of_eq ?_))
  · rw [rejections_eq, ← map_snd_scheduled_plan, List.map_append, List.map_map, List.map_map,
      List.map_map]
    rfl
  · rw [← map_snd_models_plan, List.map_map]
    rfl

/-- No two rejected or running models have one name. -/
theorem nodup_decided_names (e : Engine) (requests : List Request) :
    ((e.rejections requests).map (·.1) ++
      (e.levels requests).flatten.map (·.type.qualifiedName)).Nodup :=
  (decided_names_perm e requests).symm.nodup (nodup_models e requests)

section

variable {finished : List (String × Except FixtureError Fixture)}
  (hfinished : finished.map (·.1) = (e.levels requests).flatten.map (·.type.qualifiedName))

include hfinished

/-- When the passes have finished, every scheduled model has a result, so no result and no model is
left over when they are put together. -/
theorem length_finished : (finished.map (·.2)).length = (e.plan requests).scheduled.length := by
  have hlength := congrArg List.length hfinished
  rw [← map_snd_scheduled_plan] at hlength
  simpa using hlength

/-- What is decided for a model is written into the slot of its request. Slots and names meet here.
-/
theorem exists_mem_writes {slot : Nat} {m : Model} (h : (slot, m) ∈ (e.plan requests).models) :
    ∃ x, (slot, x) ∈ (e.plan requests).writes (finished.map (·.2)) ∧
      (m.type.qualifiedName, x) ∈ e.rejections requests ++ finished := by
  rcases List.mem_append.mp ((stopped_append_scheduled_perm e requests).symm.subset h)
    with hstopped | hscheduled
  · obtain ⟨⟨_, err⟩, hmem, rfl⟩ := List.mem_map.mp hstopped
    refine ⟨.error err, List.mem_append_left _ ?_, List.mem_append_left _ ?_⟩
    · rw [Plan.rejected_eq]
      exact List.mem_map.mpr ⟨(slot, err),
        List.mem_append_right _ (List.mem_map.mpr ⟨_, hmem, rfl⟩), rfl⟩
    · rw [rejections_eq]
      exact List.mem_map.mpr ⟨_, hmem, rfl⟩
  · -- The result at the place of the model in the order is that of its pass.
    obtain ⟨k, hk⟩ := List.getElem?_of_mem hscheduled
    have hname : (finished.map (·.1))[k]? = some m.type.qualifiedName := by
      rw [hfinished, ← map_snd_scheduled_plan, List.getElem?_map, List.getElem?_map, hk]
      rfl
    rw [List.getElem?_map] at hname
    obtain ⟨⟨_, x⟩, hx, rfl⟩ := Option.map_eq_some_iff.mp hname
    refine ⟨x, List.mem_append_right _ ?_, List.mem_append_right _ (List.mem_of_getElem? hx)⟩
    refine List.mem_of_getElem? (i := k) ?_
    rw [List.getElem?_zip_eq_some, List.getElem?_map, List.getElem?_map, hk, hx]
    exact ⟨rfl, rfl⟩

/-- The outcome of a request is its error, or what is decided for the type of its model. From here
on nothing needs to be said of slots. -/
theorem outcomes_eq : e.outcomes requests finished = (e.prepare [] requests).map fun p =>
    { request := p.1, result := result (e.rejections requests ++ finished) p.1 p.2 } := by
  have hslots := map_fst_writes_perm e requests (length_finished hfinished)
  have hnodup : ((e.rejections requests ++ finished).map (·.1)).Nodup := by
    rw [List.map_append, hfinished]
    exact nodup_decided_names e requests
  refine List.ext_getElem? fun i => ?_
  rw [List.getElem?_map]
  cases hprepared : (e.prepare [] requests)[i]? with
  | none =>
    rw [List.getElem?_eq_none_iff, length_prepare] at hprepared
    refine List.getElem?_eq_none ?_
    rw [outcomes, outcomesOf, List.length_map, List.length_zip]
    exact (Nat.min_le_left _ _).trans hprepared
  | some p =>
    obtain ⟨q, made⟩ := p
    have hrequest : requests[i]? = some q := by
      rw [← map_fst_prepare e [] requests, List.getElem?_map, hprepared, Option.map_some]
    -- One thing is written into the slot, and it is the result.
    have hwrite : (i, result (e.rejections requests ++ finished) q made) ∈
        (e.plan requests).writes (finished.map (·.2)) := by
      cases made with
      | error err =>
        have hrefused := mem_refused_plan_iff.mpr ⟨q, hprepared⟩
        exact List.mem_append_left _
          (List.mem_map.mpr ⟨_, List.mem_append_left _ hrefused, rfl⟩)
      | ok m =>
        obtain ⟨x, hx, hdecided⟩ :=
          exists_mem_writes hfinished (mem_models_plan_iff.mpr ⟨q, hprepared⟩)
        rw [result, lookup_eq_some_of_mem hnodup hdecided, Option.getD_some]
        exact hx
    exact getElem?_outcomesOf hrequest (getElem?_fill_of_mem hslots hwrite)

end

/-- A run goes through its levels and reports the outcomes. This is the form in which other modules
take a run apart. -/
theorem run_eq (e : Engine) (random : String → UuidSource) (requests : List Request)
    (registry : Registry) :
    e.run random requests registry =
      (⟨e.outcomes requests
          (e.runPasses random (e.targets requests) (e.levels requests).flatten registry).1⟩,
        (e.runPasses random (e.targets requests) (e.levels requests).flatten registry).2) := by
  rw [← map_snd_scheduled_plan]
  rfl

end Fixtures.Engine
