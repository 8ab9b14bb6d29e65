import Fixtures.Proofs.Engine.Run

/-!
# `Fixtures.Proofs.Engine.References`: no reference of a report dangles

A run that begins with the empty registry publishes what its own passes give. So a lookup that
succeeds finds the summary of a fixture in the same report, and whatever a constant refers to is
in that fixture (`IsIntact`). The one thing about summaries that this needs is that a constant
that is found by halving is listed; that all listed ones are found is not needed.
-/

set_option autoImplicit false

namespace Fixtures

/-- The expression, written inside a package, refers to something that the fixture has: to the
constant of that name, or without a name to its first creation method. -/
inductive Fixture.Offers (g : Fixture) (package : String) : Option String → String → Prop
  | constant (name : String) (h : name ∈ g.constants.map (·.name)) :
      Offers g package (some name) (Render.name package g.fixtureName ++ "." ++ name)
  | method (method : CreationMethod) (h : g.methods.head? = some method) :
      Offers g package none (Render.name package g.fixtureName ++ "." ++ method.name ++ "()")

/-- A reference to the summary of a fixture refers to something that the fixture has. A summary
knows a fixture by name, the names of its constants and its first method, and each of these is the
fixture's own. -/
theorem Fixture.offers_of_referenceText {g : Fixture} {package value : String}
    {constant : Option String} (hmethods : g.methods ≠ [])
    (h : g.summary.referenceText package constant = .ok value) :
    g.Offers package constant value := by
  cases constant with
  | some name =>
    simp only [Summary.referenceText] at h
    split at h
    · next hfound =>
      rw [← Except.ok.inj h]
      exact .constant name (Registry.mem_of_hasConstant hfound)
    · cases h
  | none =>
    simp only [Summary.referenceText] at h
    rw [← Except.ok.inj h]
    obtain ⟨method, rest, hcons⟩ := List.exists_cons_of_ne_nil hmethods
    have hhead : g.methods.head? = some method := by rw [hcons, List.head?_cons]
    -- The summary has kept the name of the first method.
    have hdefault : g.summary.defaultMethod = method.name := by
      simp only [Fixture.summary, Fixture.defaultMethod?, hhead]
      rfl
    rw [hdefault]
    exact .method method hhead

/-- The report has a fixture for a type: the first outcome for the type is this fixture. A later
outcome for the same type is an error, since requests are not repeated. -/
def Report.Has (report : Report) (typeName : String) (g : Fixture) : Prop :=
  ∃ o, report.outcome? typeName = some o ∧ o.result = .ok g

namespace Engine

variable {e : Engine} {random : String → UuidSource} {requests : List Request}

/-- Nothing that the fixture `f` of the model `m` depends on or refers to is missing in the
report. -/
structure IsIntact (e : Engine) (requests : List Request) (report : Report) (m : Model)
    (f : Fixture) : Prop where
  /-- Every dependency of an included field is a requested type with a fixture in the report. -/
  upstream : ∀ fld ∈ e.includedFields m, ∀ typeName,
    m.dependency? (e.targets requests) fld = some typeName →
      typeName ∈ requests.map (·.typeName) ∧ ∃ g, report.Has typeName g
  /-- Where a directive of an included field gives a reference, there is a constant of its name,
  and the value of each such constant refers to something in the fixture of the target. -/
  references : ∀ fld ∈ e.includedFields m, ∃ ds, fld.directives = .ok ds ∧
    ∀ d ∈ ds, ∀ typeName constant,
      ValueSource.of (m.target? (e.targets requests) fld) fld d
          = .ok (.reference typeName constant) →
        ∃ g, report.Has typeName g ∧ (∃ c ∈ f.constants, c.name = d.name) ∧
          ∀ c ∈ f.constants, c.name = d.name → g.Offers m.package constant c.value
  /-- Every constant is the one of a directive of an included field. -/
  origin : ∀ c ∈ f.constants, ∃ fld ∈ e.includedFields m, m.IsConstantOfField fld c

/-- A fixture in a report is for a requested type. The outcomes are those of the requests, and no
type gets one because another one depends on it. -/
theorem mem_requests_of_has {r : Registry} {typeName : String} {g : Fixture}
    (h : (e.run random requests r).1.Has typeName g) :
    typeName ∈ requests.map (·.typeName) := by
  obtain ⟨o, ho, -⟩ := h
  rw [run_eq] at ho
  have hname := List.find?_some ho
  have hrequest := request_mem_of_mem_outcomes (List.mem_of_find?_eq_some ho)
  exact List.mem_map.mpr ⟨o.request, hrequest, by simpa using hname⟩

/-- A fixture that a pass has given has a creation method. -/
theorem methods_ne_nil_of_mem_runPasses {targets : List String} {ms : List Model} {r : Registry}
    {name : String} {g : Fixture} (h : (name, .ok g) ∈ (e.runPasses random targets ms r).1) :
    g.methods ≠ [] := by
  obtain ⟨before, m, after, -, -, hpass⟩ := exists_pass_of_mem_runPasses h
  obtain ⟨hmade, -⟩ := pass_eq_ok hpass
  obtain ⟨-, constants, hcompose⟩ := fixture_eq_ok hmade
  exact Model.creationMethods_ne_nil (compose_eq_ok hcompose).2.2.2

/-- What a pass of a fresh run finds in the registry is the summary of a fixture that the report
has. It was given by a pass before, and what a pass has given stays in the report. -/
theorem exists_has_of_get? {before rest : List Model}
    (hsplit : (e.levels requests).flatten = before ++ rest) {typeName : String} {s : Summary}
    (h : (e.runPasses random (e.targets requests) before .empty).2.get? typeName = some s) :
    ∃ g, (e.run random requests .empty).1.Has typeName g ∧ g.summary = s ∧ g.methods ≠ [] := by
  rcases get?_runPasses h with hempty | ⟨g, hg, hs⟩
  · cases hempty
  · refine ⟨g, ?_, hs, methods_ne_nil_of_mem_runPasses hg⟩
    rw [run_eq]
    refine outcome?_of_mem_finished (map_fst_runPasses _ _ _ _ _) ?_
    rw [hsplit, runPasses_append]
    exact List.mem_append_left _ hg

/-- In the report of a fresh run all fixtures are intact: their dependencies have fixtures in the
same report, and their references are to constants and methods of these. A pass sees summaries
only, so this needs two things: what is published in a run is the summary of a fixture in its
report, and a summary offers what the fixture has. The registry has to be empty at first, since a
summary of an earlier run need not be of a fixture in this report. -/
theorem isIntact_of_mem_outcomes (e : Engine) (random : String → UuidSource)
    (requests : List Request) {o : Outcome} (h : o ∈ (e.run random requests .empty).1.outcomes)
    {f : Fixture} (hf : o.result = .ok f) :
    ∃ m, Model.resolve e.catalog o.request = .ok m ∧
      e.IsIntact requests (e.run random requests .empty).1 m f := by
  obtain ⟨m, before, after, hresolve, hsplit, hpass⟩ := exists_pass_of_mem_outcomes h hf
  refine ⟨m, hresolve, ?_⟩
  obtain ⟨hmade, -⟩ := pass_eq_ok hpass
  obtain ⟨hconstants, -⟩ := fixture_eq_ok hmade
  -- Each lookup of the pass has found a summary, and each summary is that of a fixture.
  constructor
  case upstream =>
    intro fld hfld typeName hdep
    obtain ⟨s, hs⟩ := hconstants.exists_published hfld hdep
    obtain ⟨g, hg, -, -⟩ := exists_has_of_get? hsplit hs
    exact ⟨mem_requests_of_has hg, g, hg⟩
  case references =>
    intro fld hfld
    obtain ⟨ds, hds, hvalues⟩ := hconstants.written fld hfld
    refine ⟨ds, hds, fun d hd typeName constant hof => ?_⟩
    obtain ⟨value, hvalue, hexists, hall⟩ := hvalues d hd
    obtain ⟨s, hs, htext⟩ := hvalue.reference hof
    obtain ⟨g, hg, rfl, hmethods⟩ := exists_has_of_get? hsplit hs
    refine ⟨g, hg, hexists, fun c hc hcname => ?_⟩
    rw [hall c hc hcname]
    exact Fixture.offers_of_referenceText hmethods htext
  case origin => exact hconstants.origin

/-- The item is made after the order that it refers to, though it is requested before. -/
theorem isIntact_of_mem_outcomes_shop :
    ∃ o ∈ (shopEngine.run (fun _ => .ofSeed 0) shopRequests .empty).1.outcomes,
      ∃ f, o.result = .ok f ∧
        f.constants.map (fun c => (c.name, c.value)) =
          [("ORDER", "OrderFixture.createOrder()"), ("ORDER_SIZE", "OrderFixture.SIZE")] ∧
        ∃ m, Model.resolve shop o.request = .ok m ∧
          shopEngine.IsIntact shopRequests
            (shopEngine.run (fun _ => .ofSeed 0) shopRequests .empty).1 m f := by
  have hvalues :
      ((shopEngine.run (fun _ => .ofSeed 0) shopRequests .empty).1.outcomes.head?.bind
        fun o => o.result.toOption.map fun f => f.constants.map fun c => (c.name, c.value))
      = some [("ORDER", "OrderFixture.createOrder()"), ("ORDER_SIZE", "OrderFixture.SIZE")] := by
    decide +kernel
  obtain ⟨o, ho, hvalues⟩ := Option.bind_eq_some_iff.mp hvalues
  obtain ⟨f, hf, hvalues⟩ := Option.map_eq_some_iff.mp hvalues
  have hmem := List.mem_of_head? ho
  have hok := toOption_eq_some_iff.mp hf
  exact ⟨o, hmem, f, hok, hvalues,
    isIntact_of_mem_outcomes shopEngine (fun _ => .ofSeed 0) shopRequests hmem hok⟩

end Engine

end Fixtures
