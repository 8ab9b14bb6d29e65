import Fixtures.Proofs.Engine.Slots

/-!
# `Fixtures.Proofs.Engine.Run`: the parts of a run

`run_eq` takes a run apart: the models of the requests (`models`), their schedule, the models
level by level (`levels`), the errors of the rejected ones (`rejections`), and the outcomes that
the report has in the end. The lemmas of this module say how the parts fit together:

* the model whose type another model depends on stands in a lower level
  (`level_lt_of_mem_dependsOn`);
* what a pass gives is the outcome of its request (`outcome?_of_mem_finished`), and a fixture in
  the report was given by the pass of its request (`exists_pass_of_mem_outcomes`);
* what is published after some passes was published before, or is the summary of a fixture that
  one of the passes gave (`get?_runPasses`).
-/

set_option autoImplicit false

namespace Fixtures.Engine

variable {e : Engine} {random : String → UuidSource} {requests : List Request}

/-! ### The levels -/

/-- The models of a level are those of the places in the level of the schedule. What the schedule
says of places is said of models through this lemma. -/
theorem exists_inLevel_of_mem {l : Nat} {level : List Model}
    (h : (e.levels requests)[l]? = some level) {m : Model} (hm : m ∈ level) :
    ∃ i, (e.models requests)[i]? = some m ∧
      Schedule.InLevel (Schedule.ofNodes (e.nodes requests)).levels l i := by
  rw [levels, List.getElem?_map] at h
  obtain ⟨places, hplaces, rfl⟩ := Option.map_eq_some_iff.mp h
  obtain ⟨i, hi, hmodel⟩ := List.mem_filterMap.mp hm
  exact ⟨i, hmodel, places, hplaces, hi⟩

/-- The models that run are models of the run. -/
theorem mem_models_of_mem_levels {m : Model} (h : m ∈ (e.levels requests).flatten) :
    m ∈ e.models requests := by
  obtain ⟨level, hlevel, hm⟩ := List.mem_flatten.mp h
  obtain ⟨l, hl⟩ := List.getElem?_of_mem hlevel
  obtain ⟨i, hi, -⟩ := exists_inLevel_of_mem hl hm
  exact List.mem_of_getElem? hi

/-- A node does not depend on its own type. A field of its own type takes its value from the
pipeline, so there is no loop of one pass. -/
theorem qualifiedName_not_mem_dependsOn (e : Engine) (targets : List String) (m : Model) :
    m.type.qualifiedName ∉ (e.node targets m).dependsOn := by
  intro h
  obtain ⟨f, -, hdep⟩ := List.mem_filterMap.mp h
  exact Model.target?_ne (Model.dependency?_eq_some_iff.mp hdep).2 rfl

/-- The pass at the place of a model is its node: nodes and models are numbered alike. -/
theorem getElem?_nodes {i : Nat} {m : Model} (h : (e.models requests)[i]? = some m) :
    (e.nodes requests)[i]? = some (e.node (e.targets requests) m) := by
  rw [nodes, List.getElem?_map, h]
  rfl

/-- The model whose type another model depends on stands in a lower level, so its pass is over
before the level of the other one begins. -/
theorem level_lt_of_mem_dependsOn {l l' : Nat} {level level' : List Model} {m m' : Model}
    (h : (e.levels requests)[l]? = some level) (hm : m ∈ level)
    (h' : (e.levels requests)[l']? = some level') (hm' : m' ∈ level')
    (hdep : m'.type.qualifiedName ∈ (e.node (e.targets requests) m).dependsOn) : l' < l := by
  obtain ⟨i, hi, hil⟩ := exists_inLevel_of_mem h hm
  obtain ⟨j, hj, hjl⟩ := exists_inLevel_of_mem h' hm'
  have hdepends : Schedule.DependsOn (e.nodes requests) i j := by
    refine ⟨?_, _, _, getElem?_nodes hi, getElem?_nodes hj, hdep⟩
    -- The model itself is no target of its fields.
    rintro rfl
    rw [hi] at hj
    cases hj
    exact qualifiedName_not_mem_dependsOn e (e.targets requests) m hdep
  -- The schedule puts the dependency into some lower level, and each place is in one level only.
  have hlawful := Schedule.Search.isLawful_depthFirst
  obtain ⟨low, hlt, hlow⟩ := hil.exists_lt hlawful (nodup_nodes e requests) hdepends
  exact hjl.unique hlawful (nodup_nodes e requests) hlow ▸ hlt

/-- No model of a level is for a type that a model of the same level depends on. So the passes of a
level can run in any order. -/
theorem not_mem_dependsOn_of_mem_levels {level : List Model} (h : level ∈ e.levels requests)
    {m m' : Model} (hm : m ∈ level) (hm' : m' ∈ level) :
    m'.type.qualifiedName ∉ (e.node (e.targets requests) m).dependsOn := by
  intro hdep
  obtain ⟨l, hl⟩ := List.getElem?_of_mem h
  exact Nat.lt_irrefl l (level_lt_of_mem_dependsOn hl hm hl hm' hdep)

/-! ### What is decided -/

/-- A rejection is the error of the schedule for the place of the model, told under the name of the
model's type. -/
theorem mem_rejections_iff {name : String} {x : Except FixtureError Fixture} :
    (name, x) ∈ e.rejections requests ↔
      ∃ j m err, (e.models requests)[j]? = some m ∧
        (j, err) ∈ (Schedule.ofNodes (e.nodes requests)).rejected ∧
        m.type.qualifiedName = name ∧ x = .error err := by
  simp only [rejections, List.mem_filterMap, Option.map_eq_some_iff, Prod.mk.injEq, Prod.exists]
  constructor
  · rintro ⟨j, err, hrejected, m, hplace, rfl, rfl⟩
    exact ⟨j, m, err, hplace, hrejected, rfl, rfl⟩
  · rintro ⟨j, m, err, hplace, hrejected, rfl, rfl⟩
    exact ⟨j, err, hrejected, m, hplace, rfl, rfl⟩

/-- The rejected models have errors, so a fixture is always the gift of a pass. -/
theorem ok_not_mem_rejections {name : String} {f : Fixture} :
    (name, .ok f) ∉ e.rejections requests := by
  intro h
  obtain ⟨-, -, err, -, -, -, hok⟩ := mem_rejections_iff.mp h
  cases hok

section

variable {finished : List (String × Except FixtureError Fixture)}

/-- An outcome is that of a request. -/
theorem request_mem_of_mem_outcomes {o : Outcome} (h : o ∈ e.outcomes requests finished) :
    o.request ∈ requests := by
  obtain ⟨p, hp, rfl⟩ := List.mem_map.mp h
  exact (List.of_mem_zip hp).1

/-- A request with a fixture has a model, and its pass has finished with the fixture. Neither a
request that is not resolved nor a rejected one has a fixture. -/
theorem exists_model_of_outcome
    (hfinished : finished.map (·.1) = (e.levels requests).flatten.map (·.type.qualifiedName))
    {o : Outcome} (h : o ∈ e.outcomes requests finished) {f : Fixture} (hf : o.result = .ok f) :
    ∃ m, (o.request, .ok m) ∈ e.prepare [] requests ∧
      (m.type.qualifiedName, .ok f) ∈ finished := by
  rw [outcomes_eq hfinished] at h
  obtain ⟨⟨q, made⟩, hp, rfl⟩ := List.mem_map.mp h
  cases made with
  | error err => cases hf
  | ok m =>
    refine ⟨m, hp, ?_⟩
    rw [result] at hf
    cases hlookup : (e.rejections requests ++ finished).lookup m.type.qualifiedName with
    | none =>
      rw [hlookup] at hf
      cases hf
    | some made =>
      -- What is found was decided by a rejection or by a pass, and a rejection is an error.
      rw [hlookup, Option.getD_some] at hf
      subst hf
      obtain ⟨before, after, hdecided, -⟩ := List.lookup_eq_some_iff.mp hlookup
      have hmem : (m.type.qualifiedName, .ok f) ∈ e.rejections requests ++ finished := by
        rw [hdecided]
        exact List.mem_append_cons_self
      exact (List.mem_append.mp hmem).resolve_left ok_not_mem_rejections

/-- A fixture that a pass has finished with is what the report has for its type. Repeated requests
do not hide it, because the first request for a type is the one that is resolved. -/
theorem outcome?_of_mem_finished
    (hfinished : finished.map (·.1) = (e.levels requests).flatten.map (·.type.qualifiedName))
    {name : String} {f : Fixture} (h : (name, .ok f) ∈ finished) :
    ∃ o, Report.outcome? ⟨e.outcomes requests finished⟩ name = some o ∧ o.result = .ok f := by
  have hname : name ∈ finished.map (·.1) := List.mem_map.mpr ⟨_, h, rfl⟩
  rw [hfinished] at hname
  obtain ⟨m, hm, rfl⟩ := List.mem_map.mp hname
  obtain ⟨q, hq⟩ := mem_models_iff.mp (mem_models_of_mem_levels hm)
  have hqname := Model.qualifiedName_of_resolve (resolve_of_mem_prepare hq).1
  refine ⟨⟨q, result (e.rejections requests ++ finished) q (.ok m)⟩, ?_, ?_⟩
  · rw [Report.outcome?, outcomes_eq hfinished, List.find?_map, hqname]
    exact congrArg _ (find?_prepare hq)
  · -- Each name is decided once, by a rejection or by a pass, so looking it up finds the fixture.
    have hnodup : ((e.rejections requests ++ finished).map (·.1)).Nodup := by
      rw [List.map_append, hfinished]
      exact nodup_decided_names e requests
    rw [result, lookup_eq_some_of_mem hnodup (List.mem_append_right _ h), Option.getD_some]

end

/-! ### One pass after another -/

/-- Passes run in two parts, the second part in the registry that the first one leaves. The parts
may be levels, or what is before and after one pass. -/
theorem runPasses_append (e : Engine) (random : String → UuidSource) (targets : List String)
    (ms rest : List Model) (r : Registry) :
    e.runPasses random targets (ms ++ rest) r =
      ((e.runPasses random targets ms r).1 ++
          (e.runPasses random targets rest (e.runPasses random targets ms r).2).1,
        (e.runPasses random targets rest (e.runPasses random targets ms r).2).2) := by
  induction ms generalizing r with
  | nil => rfl
  | cons m ms ih =>
    simp only [List.cons_append, runPasses]
    rw [ih]

/-- A result is given by a pass, in the registry that the passes before it leave. -/
theorem exists_pass_of_mem_runPasses {targets : List String} {ms : List Model} {r : Registry}
    {name : String} {made : Except FixtureError Fixture}
    (h : (name, made) ∈ (e.runPasses random targets ms r).1) :
    ∃ before m after, ms = before ++ m :: after ∧ m.type.qualifiedName = name ∧
      (e.pass random targets m (e.runPasses random targets before r).2).1 = made := by
  induction ms generalizing r with
  | nil => cases h
  | cons m rest ih =>
    rcases List.mem_cons.mp h with hfirst | hrest
    · rw [Prod.mk.injEq] at hfirst
      exact ⟨[], m, rest, rfl, hfirst.1.symm, hfirst.2.symm⟩
    · obtain ⟨before, m', after, hsplit, hname, hmade⟩ := ih hrest
      exact ⟨m :: before, m', after, congrArg (m :: ·) hsplit, hname, hmade⟩

/-- A fixture in the report is given by the pass of the request's model, in the registry that the
passes before it leave. Statements on a pass become statements on reports here. -/
theorem exists_pass_of_mem_outcomes {r : Registry} {o : Outcome}
    (h : o ∈ (e.run random requests r).1.outcomes) {f : Fixture} (hf : o.result = .ok f) :
    ∃ m before after, Model.resolve e.catalog o.request = .ok m ∧
      (e.levels requests).flatten = before ++ m :: after ∧
      (e.pass random (e.targets requests) m
        (e.runPasses random (e.targets requests) before r).2).1 = .ok f := by
  rw [run_eq] at h
  obtain ⟨m, hm, hfinished⟩ :=
    exists_model_of_outcome (map_fst_runPasses e random _ _ r) h hf
  obtain ⟨before, m', after, hsplit, hname, hpass⟩ := exists_pass_of_mem_runPasses hfinished
  -- The pass is that of a model of the same name, so it is the model of the request.
  have hm' : m' ∈ (e.levels requests).flatten := by
    rw [hsplit]
    exact List.mem_append_cons_self
  obtain ⟨q, hq⟩ := mem_models_iff.mp (mem_models_of_mem_levels hm')
  have hresolve := (resolve_of_mem_prepare hm).1
  have hresolve' := (resolve_of_mem_prepare hq).1
  obtain rfl : m = m' := by
    refine eq_of_mem_prepare hm hq ?_
    rw [← Model.qualifiedName_of_resolve hresolve,
      ← Model.qualifiedName_of_resolve hresolve', hname]
  exact ⟨m, before, after, hresolve, hsplit, hpass⟩

/-! ### Runs that are the same but for a part of the fixtures -/

section

variable {g : Fixture → Fixture}

/-- What passes have given, with the fixtures changed and the errors left as they are. Two runs are
compared by a change that forgets the part in which they differ. -/
def mapResults (g : Fixture → Fixture) (results : List (String × Except FixtureError Fixture)) :
    List (String × Except FixtureError Fixture) :=
  results.map fun p => (p.1, p.2.map g)

/-- The results of two parts of a run are changed part by part. -/
theorem mapResults_append (before after : List (String × Except FixtureError Fixture)) :
    mapResults g (before ++ after) = mapResults g before ++ mapResults g after :=
  List.map_append

/-- Results that differ in a part of the fixtures only have the same names. -/
theorem map_fst_eq_of_mapResults_eq {results results' : List (String × Except FixtureError Fixture)}
    (h : mapResults g results' = mapResults g results) :
    results'.map (·.1) = results.map (·.1) := by
  have hnames := congrArg (List.map (·.1)) h
  rw [mapResults, mapResults, List.map_map, List.map_map] at hnames
  exact hnames

/-- A result is found in the same way among changed fixtures, because it is found by the name of
its type. -/
theorem result_map (decided : List (String × Except FixtureError Fixture)) (q : Request)
    (made : Except FixtureError Model) :
    (result decided q made).map g = result (mapResults g decided) q made := by
  -- Looking up goes by names, which are kept.
  have hlookup : ∀ name, (mapResults g decided).lookup name
      = (decided.lookup name).map (·.map g) := by
    intro name
    induction decided with
    | nil => rfl
    | cons p rest ih =>
      obtain ⟨other, made⟩ := p
      rw [mapResults, List.map_cons, List.lookup_cons, List.lookup_cons, ← mapResults, ih]
      dsimp only
      cases name == other with
      | true => rfl
      | false => rfl
  cases made with
  | error err => rfl
  | ok m =>
    show Except.map g ((decided.lookup m.type.qualifiedName).getD _)
      = ((mapResults g decided).lookup m.type.qualifiedName).getD _
    rw [hlookup]
    cases decided.lookup m.type.qualifiedName with
    | none => rfl
    | some made => rfl

/-- Passes give the same, up to a change of fixtures, and leave the same registry, when each of
them does. The models may differ too, as long as they are for the same types. -/
theorem runPasses_congr_map {e e' : Engine} {random random' : String → UuidSource}
    {targets : List String} (other : Model → Model)
    (hname : ∀ m, (other m).type.qualifiedName = m.type.qualifiedName)
    (hpass : ∀ m r, (e'.pass random' targets (other m) r).1.map g
        = (e.pass random targets m r).1.map g ∧
      (e'.pass random' targets (other m) r).2 = (e.pass random targets m r).2)
    (ms : List Model) (r : Registry) :
    mapResults g (e'.runPasses random' targets (ms.map other) r).1
        = mapResults g (e.runPasses random targets ms r).1 ∧
      (e'.runPasses random' targets (ms.map other) r).2 = (e.runPasses random targets ms r).2 := by
  induction ms generalizing r with
  | nil => exact ⟨rfl, rfl⟩
  | cons m rest ih =>
    obtain ⟨hresult, hregistry⟩ := hpass m r
    obtain ⟨hrest, hlast⟩ := ih (e.pass random targets m r).2
    simp only [List.map_cons, runPasses, mapResults, hname] at hrest hlast ⊢
    rw [hregistry, hresult]
    exact ⟨congrArg _ hrest, hlast⟩

end

/-- A pass leaves a fixture's summary in the registry, or it leaves the registry as it is. The
entry of another type is never touched. -/
theorem get?_pass {targets : List String} {m : Model} {r : Registry} {key : String}
    {s : Summary} (h : (e.pass random targets m r).2.get? key = some s) :
    r.get? key = some s ∨ ∃ f, (e.pass random targets m r).1 = .ok f ∧
      m.type.qualifiedName = key ∧ f.summary = s := by
  rcases hpass : e.pass random targets m r with ⟨_ | f, after⟩
  · rw [hpass] at h
    rw [← publish_eq_error hpass]
    exact .inl h
  · rw [hpass] at h
    obtain ⟨hmade, hpublish⟩ := publish_eq_ok hpass
    obtain ⟨-, constants, hcompose⟩ := fixture_eq_ok hmade
    rw [Registry.get?_publish hpublish] at h
    split at h
    · next hkey =>
      cases h
      exact .inr ⟨f, rfl, (compose_eq_ok hcompose).1.symm.trans hkey, rfl⟩
    · exact .inl h

/-- What is published after some passes was published before, or is the summary of a fixture that
a pass has given. -/
theorem get?_runPasses {targets : List String} {ms : List Model} {r : Registry} {key : String}
    {s : Summary} (h : (e.runPasses random targets ms r).2.get? key = some s) :
    r.get? key = some s ∨
      ∃ f, (key, .ok f) ∈ (e.runPasses random targets ms r).1 ∧ f.summary = s := by
  induction ms generalizing r with
  | nil => exact .inl h
  | cons m rest ih =>
    -- The rest of the passes may have published it, or it was there after the first pass.
    rcases ih h with hnext | ⟨f, hf, hs⟩
    · rcases get?_pass hnext with hbefore | ⟨f, hf, hname, hs⟩
      · exact .inl hbefore
      · have hfirst : (key, .ok f) = (m.type.qualifiedName, (e.pass random targets m r).1) := by
          rw [hf, hname]
        exact .inr ⟨f, List.mem_cons.mpr (.inl hfirst), hs⟩
    · exact .inr ⟨f, List.mem_cons_of_mem _ hf, hs⟩

/-! ### A shop

Items and coupons are for orders, so their passes are those of one level, above that of orders.
Statements on runs are tried out on this catalog. -/

/-- A class of the shop. -/
def shopClass (name : String) (fields : List FieldDescription) : TypeDescription where
  package := "shop"
  name
  kind := .classKind
  typeParameters := []
  fields
  enumConstants := []
  fixture := true
  providers := .empty
  creators := []

/-- A field of a class of the shop. -/
def shopField (name : String) (type : TypeRef) (constants : List ConstantDirective) :
    FieldDescription where
  name
  type
  isStatic := false
  isTransient := false
  constants

/-- The catalog: an item refers to the default method of its order and to a constant of it, and a
coupon to the default method. -/
def shop : Catalog where
  types := ⟨[
    ("shop.Coupon", shopClass "Coupon" [shopField "order" (.named "shop.Order") []]),
    ("shop.Item", shopClass "Item" [shopField "order" (.named "shop.Order")
      [⟨"ORDER", none, none⟩, ⟨"ORDER_SIZE", none, some "SIZE"⟩]]),
    ("shop.Order", shopClass "Order" [shopField "size" (.primitive .int) []])], by decide⟩
  named := by decide

/-- The engine of the shop, with a seed, so that its runs are the same wherever random UUIDs come
from. -/
def shopEngine : Engine where
  catalog := shop
  config := { uuidSeed := some 7 }
  defaults := .empty
  isValid := by decide
  isCompiled := rfl

/-- Items and coupons are requested before the orders that they are for. -/
def shopRequests : List Request :=
  [⟨"shop.Item", none⟩, ⟨"shop.Coupon", none⟩, ⟨"shop.Order", none⟩]

end Fixtures.Engine
