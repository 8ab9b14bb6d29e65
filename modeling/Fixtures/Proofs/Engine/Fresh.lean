import Fixtures.Proofs.Engine.Calls

/-!
# `Fixtures.Proofs.Engine.Fresh`: what passes give that begin with nothing published

Passes one after another are a story: each finds what the ones before it have left. When they
begin with the empty registry, each for another type and after all that it depends on
(`IsInOrder`), there is nothing to tell. The registry that they leave says it all:

* each pass gives the fixture that is made with that last registry (`fst_pass_eq_freshMade`);
* each type stands there with the summary of this fixture, or not at all when there is none
  (`get?_freshPasses_of_mem`), and no other type does.

So the last registry solves an equation in which the order of the passes does not occur. The
equation has one solution, since what a pass depends on comes before it: `freshMade_eq` compares
two solutions, where the one may have further passes that the other knows nothing of.
-/

set_option autoImplicit false

namespace Fixtures.Engine

/-- The models are for different types, and none depends on the type of a later one. The levels of
a schedule, read one after another, are such a list, and so is any rearrangement within the levels.
-/
structure IsInOrder (e : Engine) (targets : List String) (ms : List Model) : Prop where
  /-- No two are for one type. -/
  names : (ms.map (·.type.qualifiedName)).Nodup
  /-- What one depends on is not the type of a later one. -/
  reads : ms.Pairwise fun m m' => m'.type.qualifiedName ∉ (e.node targets m).dependsOn

/-- The passes of some models from the empty registry, with what they give and the registry that
they leave. -/
def freshPasses (e : Engine) (random : String → UuidSource) (targets : List String)
    (ms : List Model) : List (String × Except FixtureError Fixture) × Registry :=
  e.runPasses random targets ms .empty

/-- The fixture of a model, made with what the fresh passes of some models leave. The model need
not be one of these, and its own entry is not looked at. -/
def freshMade (e : Engine) (random : String → UuidSource) (targets : List String)
    (ms : List Model) (m : Model) : Except FixtureError Fixture :=
  e.made ⟨random, targets, m, (e.freshPasses random targets ms).2⟩

variable {e : Engine} {random : String → UuidSource} {targets : List String}
  {ms before after : List Model} {m : Model}

/-! ### What passes leave alone -/

/-- Passes write no entries but those of their types. By induction on the passes, each of which is
local to the entry of its own type. -/
theorem get?_runPasses_of_notMem {r : Registry} {key : String}
    (h : key ∉ ms.map (·.type.qualifiedName)) :
    (e.runPasses random targets ms r).2.get? key = r.get? key := by
  induction ms generalizing r with
  | nil => rfl
  | cons m rest ih =>
    rw [List.map_cons, List.mem_cons, not_or] at h
    show (e.runPasses random targets rest (e.pass random targets m r).2).2.get? key = _
    rw [ih h.2, (localTo_pass e random targets m).frame r key h.1]

/-- The entry under a key is the one before the rest of the passes, if none of these is for the
key. -/
theorem get?_freshPasses_append {key : String} (h : key ∉ after.map (·.type.qualifiedName)) :
    (e.freshPasses random targets (before ++ after)).2.get? key
      = (e.freshPasses random targets before).2.get? key := by
  unfold freshPasses
  rw [runPasses_append]
  exact get?_runPasses_of_notMem h

/-- What is not published cannot be refused: a summary is refused only next to another one of the
same type. -/
theorem fst_publish_of_get?_eq_none {made : Except FixtureError Fixture} {r : Registry}
    (h : ∀ f, made = .ok f → r.get? f.summary.typeName = none) : (publish made r).1 = made := by
  cases made with
  | error err => rfl
  | ok f =>
    have hnone := h f rfl
    simp only [publish, Registry.publish, hnone]

/-! ### One pass among fresh ones -/

section

variable (h : e.IsInOrder targets (before ++ m :: after))

include h

/-- A pass comes before those for the types that it does not depend on, and is for another type. -/
theorem IsInOrder.notMem_after :
    m.type.qualifiedName ∉ before.map (·.type.qualifiedName) ∧
      m.type.qualifiedName ∉ after.map (·.type.qualifiedName) := by
  have hnames := h.names
  rw [List.map_append, List.map_cons] at hnames
  constructor
  · intro hmem
    exact List.disjoint_of_nodup_append hnames hmem List.mem_cons_self
  · exact (List.nodup_cons.mp (List.nodup_append.mp hnames).2.1).1

/-- What a pass depends on is neither its own type nor that of a later one. -/
theorem IsInOrder.notMem_of_mem_dependsOn {key : String}
    (hkey : key ∈ (e.node targets m).dependsOn) :
    key ∉ (m :: after).map (·.type.qualifiedName) := by
  intro hmem
  obtain ⟨m', hm', rfl⟩ := List.mem_map.mp hmem
  rcases List.mem_cons.mp hm' with rfl | hlater
  · exact qualifiedName_not_mem_dependsOn e targets m' hkey
  · have hreads := (List.pairwise_append.mp h.reads).2.1
    exact (List.pairwise_cons.mp hreads).1 m' hlater hkey

/-- A pass finds the entries of its dependencies as they are in the end, because the passes behind
it are not for any of them. -/
theorem freshMade_eq_made :
    e.freshMade random targets (before ++ m :: after) m
      = e.made ⟨random, targets, m, (e.freshPasses random targets before).2⟩ := by
  refine fixture_congr ?_ (fun key hkey => ?_) _
  · exact fun _ _ => rfl
  · exact get?_freshPasses_append (h.notMem_of_mem_dependsOn hkey)

/-- A pass finds no entry of its own type, as no pass before it is for this type. -/
theorem get?_freshPasses_before :
    (e.freshPasses random targets before).2.get? m.type.qualifiedName = none :=
  get?_runPasses_of_notMem h.notMem_after.1

/-- A pass gives the fixture that is made with what all passes leave. -/
theorem fst_pass_eq_freshMade :
    (e.pass random targets m (e.freshPasses random targets before).2).1
      = e.freshMade random targets (before ++ m :: after) m := by
  rw [freshMade_eq_made h]
  refine fst_publish_of_get?_eq_none fun f hf => ?_
  have hname : f.summary.typeName = m.type.qualifiedName :=
    typeName_of_made (p := ⟨random, targets, m, _⟩) hf
  rw [hname]
  exact get?_freshPasses_before h

/-- After all passes the entry of a type is the summary of its fixture, if there is one. This is
the equation that the last registry solves. -/
theorem get?_freshPasses :
    (e.freshPasses random targets (before ++ m :: after)).2.get? m.type.qualifiedName
      = (e.freshMade random targets (before ++ m :: after) m).toOption.map (·.summary) := by
  -- The passes behind that of the type do not write its entry.
  have hown : (e.freshPasses random targets (before ++ m :: after)).2.get? m.type.qualifiedName
      = (e.pass random targets m (e.freshPasses random targets before).2).2.get?
          m.type.qualifiedName := by
    unfold freshPasses
    rw [runPasses_append]
    exact get?_runPasses_of_notMem h.notMem_after.2
  rw [hown, ← fst_pass_eq_freshMade h]
  -- Without a fixture the entry is still missing, and with one it is the summary.
  rcases hpass : e.pass random targets m (e.freshPasses random targets before).2
    with ⟨err | f, left⟩
  · rw [publish_eq_error hpass]
    exact get?_freshPasses_before h
  · obtain ⟨hmade, hpublish⟩ := publish_eq_ok hpass
    have hname : f.summary.typeName = m.type.qualifiedName :=
      typeName_of_made (p := ⟨random, targets, m, _⟩) hmade
    show left.get? m.type.qualifiedName = some f.summary
    rw [Registry.get?_publish hpublish, if_pos hname]

end

/-! ### All fresh passes -/

/-- Each of some fresh passes gives the fixture that is made with what all of them leave. So the
results of the passes do not tell in which order they ran. -/
theorem mem_freshPasses {name : String} {made : Except FixtureError Fixture}
    (h : e.IsInOrder targets ms) (hmade : (name, made) ∈ (e.freshPasses random targets ms).1) :
    ∃ m ∈ ms, m.type.qualifiedName = name ∧ made = e.freshMade random targets ms m := by
  obtain ⟨before, m, after, rfl, hname, rfl⟩ := exists_pass_of_mem_runPasses hmade
  exact ⟨m, List.mem_append_cons_self, hname, fst_pass_eq_freshMade h⟩

/-- After fresh passes the entry of a type is the summary of its fixture, if there is one. The
place of the pass among the others is of no importance. -/
theorem get?_freshPasses_of_mem (h : e.IsInOrder targets ms) (hm : m ∈ ms) :
    (e.freshPasses random targets ms).2.get? m.type.qualifiedName
      = (e.freshMade random targets ms m).toOption.map (·.summary) := by
  obtain ⟨before, after, rfl⟩ := List.append_of_mem hm
  exact get?_freshPasses h

/-- Among fresh passes there are others, for models that depend on none of the rest, and that have
the same dependencies for both sets of targets. -/
structure IsAmong (e : Engine) (targets : List String) (ms : List Model) (targets' : List String)
    (ms' : List Model) : Prop where
  /-- All of the ones are among the others. -/
  subset : ms ⊆ ms'
  /-- Their fields depend on the same types. -/
  dependency : ∀ m ∈ ms, ∀ fld ∈ e.includedFields m,
    m.dependency? targets fld = m.dependency? targets' fld
  /-- What they depend on is not of the rest. -/
  closed : ∀ m ∈ ms, ∀ m' ∈ ms', m'.type.qualifiedName ∈ (e.node targets m).dependsOn → m' ∈ ms

/-- With a seed, fresh passes make the same fixtures as among other ones. The entries of what a
pass depends on are the same in the end, because they are those of earlier passes, or there are
none. -/
theorem freshMade_eq {random' : String → UuidSource} {targets' : List String} {ms' : List Model}
    {seed : UInt64} (hseed : e.config.uuidSeed = some seed) (h : e.IsInOrder targets ms)
    (h' : e.IsInOrder targets' ms') (hamong : e.IsAmong targets ms targets' ms') :
    ∀ m ∈ ms, e.freshMade random targets ms m = e.freshMade random' targets' ms' m := by
  -- By induction on the passes that are left, when those before make the same fixtures.
  suffices hrest : ∀ after before, ms = before ++ after →
      (∀ m ∈ before, e.freshMade random targets ms m = e.freshMade random' targets' ms' m) →
      ∀ m ∈ ms, e.freshMade random targets ms m = e.freshMade random' targets' ms' m from
    hrest ms [] rfl (by simp)
  intro after
  induction after with
  | nil =>
    rintro before hsplit hbefore m hm
    rw [hsplit, List.append_nil] at hm
    exact hbefore m hm
  | cons m after ih =>
    intro before hsplit hbefore
    refine ih (before ++ [m]) (by simpa using hsplit) fun m' hm' => ?_
    rcases List.mem_append.mp hm' with hm' | hm'
    · exact hbefore m' hm'
    obtain rfl := List.mem_singleton.mp hm'
    have hmem : m' ∈ ms := by simp [hsplit]
    -- Seeded sources are made of the seed and the name.
    have hsource : e.uuidSource random m'.type.qualifiedName
        = e.uuidSource random' m'.type.qualifiedName := by
      simp only [uuidSource, hseed]
    unfold freshMade made
    rw [hsource]
    refine fixture_congr (hamong.dependency m' hmem) (fun key hkey => ?_) _
    show (e.freshPasses random targets ms).2.get? key
      = (e.freshPasses random' targets' ms').2.get? key
    by_cases hpass : ∃ d ∈ ms', d.type.qualifiedName = key
    · obtain ⟨d, hd, rfl⟩ := hpass
      have hdms := hamong.closed m' hmem d hd hkey
      -- The dependency has its pass before, so its fixture is the same by assumption.
      have hdbefore : d ∈ before := by
        rw [hsplit] at hdms h
        rcases List.mem_append.mp hdms with hd | hd
        · exact hd
        · exact absurd (List.mem_map_of_mem hd) (h.notMem_of_mem_dependsOn hkey)
      rw [get?_freshPasses_of_mem h hdms, get?_freshPasses_of_mem h' hd, hbefore d hdbefore]
    · -- No pass is for this type, so neither registry has an entry for it.
      have hnone' : key ∉ ms'.map (·.type.qualifiedName) := by
        intro hkey
        obtain ⟨d, hd, hname⟩ := List.mem_map.mp hkey
        exact hpass ⟨d, hd, hname⟩
      have hnone : key ∉ ms.map (·.type.qualifiedName) := fun hkey =>
        hnone' (List.map_subset _ hamong.subset hkey)
      unfold freshPasses
      rw [get?_runPasses_of_notMem hnone, get?_runPasses_of_notMem hnone']

end Fixtures.Engine
