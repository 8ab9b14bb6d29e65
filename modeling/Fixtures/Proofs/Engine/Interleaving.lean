import Fixtures.Proofs.Engine.Run

/-!
# `Fixtures.Proofs.Engine.Interleaving`: the passes of a level at the same time

The passes of a level work at the same time, as many as there are workers, and share the
registry. `Engine.run` makes them one after another. This module has the shared work itself, and
shows that nobody can see the difference.

* `Engine.advance` is one step of a pass: the constants of one field, for which it looks up at
  most one entry, or the last step, which publishes. Between two steps of a pass other passes may
  take any number of steps.
* `Engine.Step` lets any pass of a crew take its next step, and `Engine.RunsTo` sends the levels
  of a run through such crews, one crew for each chunk of a level.

Why the order does not matter: a step of a pass is local to the entries that its node depends on
and the entry of its own type (`localTo_advance`), and none of these is written by another pass
of the level (`areApart_of_mem_levels`). So a step can be exchanged with everything that other
passes do, and what a crew would give if its passes were finished one after another stays the same
along each step (`finishAll_advance`). At the end all are finished.
-/

set_option autoImplicit false

namespace Fixtures

/-! ### One pass in steps -/

/-- How far a pass has got. The constants and the source of UUIDs are the pass's own; only the
registry is shared. -/
inductive Progress where
  /-- Some constants are made, and those of the fields in `left` are still to be made. -/
  | working (pipeline : Pipeline) (left : List ModelField) (constants : NameMap Constant)
      (source : UuidSource)
  /-- The pass has ended. -/
  | finished (made : Except FixtureError Fixture)

namespace Progress

/-- The fields of which the constants are still to be made. A pass that has ended has none left. -/
def left : Progress → List ModelField
  | working _ left _ _ => left
  | finished _ => []

/-- The greatest number of steps to the end: one for each field that is left, and the one that
publishes. A field that fails ends the pass earlier. -/
def steps : Progress → Nat
  | working _ left _ _ => left.length + 1
  | finished _ => 0

/-- How far a pass has got when the constants of a field are added, with `left` behind it. An error
ends the pass without publishing. -/
def afterField (pipeline : Pipeline) (left : List ModelField) :
    Except FixtureError (NameMap Constant) × UuidSource → Progress
  | (.error err, _) => finished (.error err)
  | (.ok constants, source) => working pipeline left constants source

/-- Only the fields behind the added one may be left, and none of them after an error. -/
theorem left_afterField (pipeline : Pipeline) (left : List ModelField)
    (made : Except FixtureError (NameMap Constant) × UuidSource) :
    (afterField pipeline left made).left ⊆ left := by
  rcases made with ⟨err | constants, source⟩
  · exact List.nil_subset left
  · exact List.Subset.refl left

/-- A step for each of these fields and the last one may be left. -/
theorem steps_afterField_le (pipeline : Pipeline) (left : List ModelField)
    (made : Except FixtureError (NameMap Constant) × UuidSource) :
    (afterField pipeline left made).steps ≤ left.length + 1 := by
  rcases made with ⟨err | constants, source⟩
  · exact Nat.zero_le _
  · exact Nat.le_refl _

end Progress

namespace Engine

/-- A pass before its first step. The pipeline is made without the registry, so it takes no step of
its own. -/
def start (e : Engine) (random : String → UuidSource) (m : Model) : Progress :=
  match e.pipeline m with
  | .error err => .finished (.error err)
  | .ok pipeline =>
    .working pipeline (e.includedFields m) .empty (e.uuidSource random m.type.qualifiedName)

/-- One step of a pass: it adds the constants of a field, and at last it publishes, which looks its
entry up and writes it at once. A lock is held for each of these and not between them. -/
def advance (e : Engine) (targets : List String) (m : Model) :
    Progress → Registry.Access Progress
  | .finished made, r => (.finished made, r)
  | .working _ [] constants _, r =>
    let (made, after) := publish (e.compose m constants.values) r
    (.finished made, after)
  | .working pipeline (f :: left) constants source, r =>
    (.afterField pipeline left ((m.addField pipeline ⟨targets, r⟩ constants f).run source), r)

/-- All that is left of a pass, without interruption. It is what a crew is compared by: a step
changes how far a pass has got, but not what it would finish with. -/
def finish (e : Engine) (targets : List String) (m : Model) :
    Progress → Registry.Access (Except FixtureError Fixture)
  | .finished made, r => (made, r)
  | .working pipeline left constants source, r =>
    publish (do
      let constants ← ((left.foldlM (m.addField pipeline ⟨targets, r⟩) constants).run source).1
      e.compose m constants.values) r

variable {e : Engine} {random : String → UuidSource} {targets : List String}

/-- A pass that is not interrupted is the pass of a run. So the steps are a finer account of the
same work. -/
theorem finish_start (e : Engine) (random : String → UuidSource) (targets : List String)
    (m : Model) : e.finish targets m (e.start random m) = e.pass random targets m := by
  funext r
  unfold start pass fixture
  cases e.pipeline m with
  | error err => rfl
  | ok pipeline =>
    show publish _ r = publish (((m.constants _ _ _).run _).1 >>= _) r
    unfold Model.constants
    rw [run_bind_drawing]
    rcases ((e.includedFields m).foldlM (m.addField pipeline ⟨targets, r⟩) NameMap.empty).run
      (e.uuidSource random m.type.qualifiedName) with ⟨err | constants, source⟩
    · rfl
    · rfl

/-- What is left of a pass stays the same when it takes a step, as long as nobody else changes the
registry in between. -/
theorem finish_advance (e : Engine) (targets : List String) (m : Model) (progress : Progress)
    (r : Registry) :
    e.finish targets m (e.advance targets m progress r).1 (e.advance targets m progress r).2
      = e.finish targets m progress r := by
  cases progress with
  | finished made => rfl
  | working pipeline left constants source =>
    cases left with
    | nil => rfl
    | cons f left =>
      -- The fold over the fields that are left begins with the field of the step.
      simp only [advance, finish, List.foldlM_cons]
      rw [run_bind_drawing]
      rcases (m.addField pipeline ⟨targets, r⟩ constants f).run source with ⟨err | next, after⟩
      · rfl
      · rfl

/-- No step adds to the fields that are left, so the dependencies that are still to be looked up
only become fewer. -/
theorem left_advance (e : Engine) (targets : List String) (m : Model) (progress : Progress)
    (r : Registry) : (e.advance targets m progress r).1.left ⊆ progress.left := by
  cases progress with
  | finished made => exact List.Subset.refl _
  | working pipeline left constants source =>
    cases left with
    | nil => exact List.Subset.refl _
    | cons f left =>
      exact List.Subset.trans (Progress.left_afterField _ _ _) (List.subset_cons_self f left)

/-- Every step of a pass that has not ended brings it nearer to its end. A step for a field uses up
this field, and the last step ends the pass. -/
theorem steps_advance (e : Engine) (targets : List String) (m : Model) {progress : Progress}
    (r : Registry) (h : progress.steps ≠ 0) :
    (e.advance targets m progress r).1.steps < progress.steps := by
  cases progress with
  | finished made => exact absurd rfl h
  | working pipeline left constants source =>
    cases left with
    | nil => exact Nat.zero_lt_one
    | cons f left =>
      exact Nat.lt_succ_of_le (Progress.steps_afterField_le _ _ _)

/-! ### What a step reads and writes -/

/-- The entries of the dependencies of some included fields are among those that the node of the
model depends on. -/
theorem agree_of_subset {m : Model} {fields : List ModelField} {r s : Registry}
    (hfields : fields ⊆ e.includedFields m)
    (hagree : ∀ key ∈ (e.node targets m).dependsOn, r.get? key = s.get? key) :
    ∀ key ∈ fields.filterMap (m.dependency? targets), r.get? key = s.get? key := by
  intro key hkey
  obtain ⟨f, hf, hdep⟩ := List.mem_filterMap.mp hkey
  exact hagree key (List.mem_filterMap.mpr ⟨f, hfields hf, hdep⟩)

/-- One step of a pass reads entries that its node depends on, and reads and writes the entry of
its own type. This bounds what can be seen of other passes in between. -/
theorem localTo_advance (e : Engine) (targets : List String) (m : Model) {progress : Progress}
    (hleft : progress.left ⊆ e.includedFields m) :
    Registry.LocalTo (e.advance targets m progress) (e.node targets m).dependsOn
      m.type.qualifiedName := by
  cases progress with
  | finished made => exact Registry.localTo_of_read _ fun _ _ _ => rfl
  | working pipeline left constants source =>
    cases left with
    | nil =>
      -- The last step looks nothing up; what it publishes is for the type of the model.
      have hpublish : Registry.LocalTo (fun r => publish (e.compose m constants.values) r)
          (e.node targets m).dependsOn m.type.qualifiedName :=
        localTo_publish (fun _ f h => (compose_eq_ok h).1) fun _ _ _ => rfl
      exact hpublish.map Progress.finished
    | cons f left =>
      -- A step for a field changes nothing, and reads the entry of the field's dependency.
      refine Registry.localTo_of_read _ fun r s hagree => ?_
      have hfield : m.addField pipeline ⟨targets, r⟩ constants f
          = m.addField pipeline ⟨targets, s⟩ constants f := by
        refine Model.addField_congr ?_ (fun key hkey => ?_) pipeline constants
        · rfl
        · exact agree_of_subset hleft hagree key
            (List.mem_filterMap.mpr ⟨f, List.mem_cons_self, hkey⟩)
      rw [hfield]

/-- What is left of a pass reads entries that its node depends on, and reads and writes the entry
of its own type. It is the same bound as for a step. -/
theorem localTo_finish (e : Engine) (targets : List String) (m : Model) {progress : Progress}
    (hleft : progress.left ⊆ e.includedFields m) :
    Registry.LocalTo (e.finish targets m progress) (e.node targets m).dependsOn
      m.type.qualifiedName := by
  cases progress with
  | finished made => exact Registry.localTo_of_read _ fun _ _ _ => rfl
  | working pipeline left constants source =>
    refine localTo_publish (fun r f h => ?_) (fun r s hagree => ?_)
    · obtain ⟨constants', -, hcompose⟩ := bind_eq_ok_iff.mp h
      exact (compose_eq_ok hcompose).1
    · have hfields : left.foldlM (m.addField pipeline ⟨targets, r⟩) constants
          = left.foldlM (m.addField pipeline ⟨targets, s⟩) constants := by
        refine Model.addFields_congr ?_ (agree_of_subset hleft hagree) pipeline constants
        exact fun _ _ => rfl
      rw [hfields]

/-! ### Crews -/

/-- Passes at work, each as far as it has got. -/
abbrev Crew := List (Model × Progress)

/-- The passes of some models before their first steps. None of them has looked at the registry
yet. -/
def crew (e : Engine) (random : String → UuidSource) (ms : List Model) : Crew :=
  ms.map fun m => (m, e.start random m)

/-- Some pass of a crew that has not ended takes a step. Which one is left open, and with it the
number of threads and all of their timing. -/
inductive Step (e : Engine) (targets : List String) : Crew × Registry → Crew × Registry → Prop
  | step (before after : Crew) (m : Model) (progress : Progress) (r : Registry)
      (h : progress.steps ≠ 0) :
      Step e targets (before ++ (m, progress) :: after, r)
        (before ++ (m, (e.advance targets m progress r).1) :: after,
          (e.advance targets m progress r).2)

/-- Finishes the passes of a crew one after another, in the order of the crew and wherever each of
them stands. -/
def finishAll (e : Engine) (targets : List String) :
    Crew → Registry.Access (List (String × Except FixtureError Fixture))
  | [], r => ([], r)
  | (m, progress) :: rest, r =>
    let (made, r) := e.finish targets m progress r
    let (more, r) := e.finishAll targets rest r
    ((m.type.qualifiedName, made) :: more, r)

/-- To finish passes that have not started is to run them. -/
theorem finishAll_crew (e : Engine) (random : String → UuidSource) (targets : List String)
    (ms : List Model) : e.finishAll targets (e.crew random ms) = e.runPasses random targets ms := by
  induction ms with
  | nil => rfl
  | cons m rest ih =>
    funext r
    show finishAll e targets ((m, e.start random m) :: e.crew random rest) r = _
    rw [finishAll, runPasses, finish_start, ih]

/-- The models are for different types, and none is for a type that another one depends on. The
models of a level are so. -/
structure AreApart (e : Engine) (targets : List String) (ms : List Model) : Prop where
  /-- No two are for one type. -/
  names : (ms.map (·.type.qualifiedName)).Nodup
  /-- What one depends on is not the type of another one, nor its own. -/
  reads : ∀ m ∈ ms, ∀ m' ∈ ms, m'.type.qualifiedName ∉ (e.node targets m).dependsOn

/-- The passes of a crew are apart, and the fields that are left are included ones. Both stay so
whatever step is taken. -/
structure Crew.IsFit (e : Engine) (targets : List String) (crew : Crew) : Prop where
  apart : e.AreApart targets (crew.map (·.1))
  left : ∀ p ∈ crew, p.2.left ⊆ e.includedFields p.1

/-- The models of a level are apart: the names of all models are different ones, and dependencies
stand in lower levels. -/
theorem areApart_of_mem_levels {requests : List Request} {level : List Model}
    (h : level ∈ e.levels requests) : e.AreApart (e.targets requests) level where
  names := by
    -- Models that run have different names, in one level and in all of them.
    have hall := (List.nodup_append.mp (nodup_decided_names e requests)).2.1
    exact hall.sublist ((List.sublist_flatten_of_mem h).map _)
  reads _ hm _ hm' := not_mem_dependsOn_of_mem_levels h hm hm'

/-- Models among such that are apart are apart, so it does not matter how a level is divided into
chunks. -/
theorem AreApart.sublist {ms chosen : List Model} (h : e.AreApart targets ms)
    (hsub : chosen.Sublist ms) : e.AreApart targets chosen where
  names := h.names.sublist (hsub.map _)
  reads m hm m' hm' := h.reads m (hsub.subset hm) m' (hsub.subset hm')

/-- A crew that has not started is fit when its models are apart. -/
theorem isFit_crew {ms : List Model} (h : e.AreApart targets ms) (random : String → UuidSource) :
    (e.crew random ms).IsFit e targets where
  apart := by
    rw [crew, List.map_map]
    exact (List.map_id ms).symm ▸ h
  left := by
    intro p hp
    obtain ⟨m, -, rfl⟩ := List.mem_map.mp hp
    show (e.start random m).left ⊆ e.includedFields m
    unfold start
    split
    · exact List.nil_subset _
    · exact List.Subset.refl _

/-- The passes behind the first one of a fit crew are a fit crew. Inductions on crews go this way.
-/
theorem Crew.IsFit.tail {p : Model × Progress} {crew : Crew}
    (h : Crew.IsFit e targets (p :: crew)) : crew.IsFit e targets where
  apart := h.apart.sublist (List.sublist_cons_self _ _)
  left q hq := h.left q (List.mem_cons_of_mem _ hq)

/-- Whatever step is taken, the passes of a crew would finish with the same results, and leave
the same registry. The passes before the one that takes the step do not notice it, and it does
not notice when they are finished first. -/
theorem finishAll_advance (before after : Crew) (m : Model) (progress : Progress)
    (hfit : (before ++ (m, progress) :: after).IsFit e targets) (r : Registry) :
    e.finishAll targets (before ++ (m, (e.advance targets m progress r).1) :: after)
        (e.advance targets m progress r).2
      = e.finishAll targets (before ++ (m, progress) :: after) r := by
  induction before generalizing r with
  | nil => simp only [List.nil_append, finishAll, finish_advance]
  | cons first before ih =>
    have hmem : (m, progress) ∈ before ++ (m, progress) :: after :=
      List.mem_append_cons_self
    have hleft := hfit.left (m, progress) (List.mem_cons_of_mem _ hmem)
    have hadvance := localTo_advance e targets m hleft
    have hfinish := localTo_finish e targets first.1 (hfit.left first List.mem_cons_self)
    have hm : m ∈ (before ++ (m, progress) :: after).map (·.1) := List.mem_map_of_mem hmem
    -- Two passes of a crew are for different types, and neither reads the entry of the other.
    have hne : first.1.type.qualifiedName ≠ m.type.qualifiedName := by
      have hnames := (List.nodup_cons.mp hfit.apart.names).1
      exact fun heq => hnames (List.mem_map.mpr ⟨m, hm, heq.symm⟩)
    have hreads := hfit.apart.reads first.1 List.mem_cons_self m (List.mem_cons_of_mem _ hm)
    have hreads' := hfit.apart.reads m (List.mem_cons_of_mem _ hm) first.1 List.mem_cons_self
    simp only [List.cons_append, finishAll]
    -- The first pass finishes as it would before the step; then the step is taken after it.
    rw [hfinish.fst_after hadvance hne hreads, hfinish.comm hadvance hne hreads hreads',
      ← hadvance.fst_after hfinish hne.symm hreads', ih hfit.tail]

namespace Step

variable {s s' : Crew × Registry}

/-- A fit crew stays fit. -/
theorem isFit (h : e.Step targets s s') (hfit : s.1.IsFit e targets) : s'.1.IsFit e targets := by
  cases h with
  | step before after m progress r hsteps =>
    constructor
    case apart =>
      have hapart := hfit.apart
      rw [List.map_append, List.map_cons] at hapart ⊢
      exact hapart
    case left =>
      intro p hp
      rcases List.mem_append.mp hp with hp | hp
      · exact hfit.left p (List.mem_append_left _ hp)
      · rcases List.mem_cons.mp hp with rfl | hp
        · have hleft := hfit.left (m, progress) (List.mem_append_cons_self)
          exact List.Subset.trans (left_advance e targets m progress r) hleft
        · exact hfit.left p (List.mem_append_right _ (List.mem_cons_of_mem _ hp))

/-- What the passes of a fit crew would finish with stays the same. -/
theorem finishAll_eq (h : e.Step targets s s') (hfit : s.1.IsFit e targets) :
    e.finishAll targets s'.1 s'.2 = e.finishAll targets s.1 s.2 := by
  cases h with
  | step before after m progress r hsteps => exact finishAll_advance before after m progress hfit r

end Step

/-- However many steps are taken, a fit crew stays fit, and would finish with the same results and
the same registry. By induction on the steps. -/
theorem finishAll_of_steps {s s' : Crew × Registry}
    (h : Relation.ReflTransGen (e.Step targets) s s') (hfit : s.1.IsFit e targets) :
    s'.1.IsFit e targets ∧ e.finishAll targets s'.1 s'.2 = e.finishAll targets s.1 s.2 := by
  induction h with
  | refl => exact ⟨hfit, rfl⟩
  | tail _ hstep ih => exact ⟨hstep.isFit ih.1, (hstep.finishAll_eq ih.1).trans ih.2⟩

/-! ### The end of a crew -/

/-- The greatest number of steps that a crew can take, which is the sum of those of its passes. -/
def Crew.steps : Crew → Nat
  | [] => 0
  | p :: rest => p.2.steps + Crew.steps rest

/-- A step uses one of the steps up. -/
theorem Step.steps_lt {s s' : Crew × Registry} (h : e.Step targets s s') :
    s'.1.steps < s.1.steps := by
  cases h with
  | step before after m progress r hsteps =>
    induction before with
    | nil => exact Nat.add_lt_add_right (steps_advance e targets m r hsteps) _
    | cons p before ih => exact Nat.add_lt_add_left ih _

/-- No crew takes steps forever. So the equation of results is not one of runs that may never end.
-/
theorem wellFounded_step (e : Engine) (targets : List String) :
    WellFounded fun s' s => e.Step targets s s' :=
  Subrelation.wf (fun h => Step.steps_lt h) (measure fun s : Crew × Registry => s.1.steps).wf

/-- Every crew can go on until all its passes have ended. No pass ever waits for another one, so
there is no deadlock. -/
theorem exists_steps_to_end (e : Engine) (targets : List String) (s : Crew × Registry) :
    ∃ s', Relation.ReflTransGen (e.Step targets) s s' ∧ ∀ p ∈ s'.1, p.2.steps = 0 := by
  induction s using (wellFounded_step e targets).induction with
  | _ s ih =>
    by_cases hend : ∀ p ∈ s.1, p.2.steps = 0
    · exact ⟨s, .refl, hend⟩
    · simp only [not_forall] at hend
      -- A pass that has not ended can take a step, whatever the others do.
      obtain ⟨⟨m, progress⟩, hmem, hsteps⟩ := hend
      obtain ⟨crew, r⟩ := s
      obtain ⟨before, after, rfl⟩ := List.append_of_mem hmem
      have hstep : e.Step targets (before ++ (m, progress) :: after, r) _ :=
        .step before after m progress r hsteps
      obtain ⟨s', hs', hend⟩ := ih _ hstep
      exact ⟨s', .head hstep hs', hend⟩

/-- All passes of a crew have ended, with these results under the names of their types. The results
are in the order of the crew, not in that in which the passes ended. -/
def Crew.EndsWith (crew : Crew) (results : List (String × Except FixtureError Fixture)) : Prop :=
  crew.map (fun p => (p.1.type.qualifiedName, p.2))
    = results.map fun x => (x.1, Progress.finished x.2)

/-- A crew has results when none of its passes has a step left, since only a pass that has ended
has none. -/
theorem Crew.exists_endsWith {crew : Crew} (h : ∀ p ∈ crew, p.2.steps = 0) :
    ∃ results, crew.EndsWith results := by
  induction crew with
  | nil => exact ⟨[], rfl⟩
  | cons p crew ih =>
    obtain ⟨results, hresults⟩ := ih fun q hq => h q (List.mem_cons_of_mem _ hq)
    obtain ⟨m, progress⟩ := p
    cases progress with
    | working pipeline left constants source =>
      exact absurd (h _ List.mem_cons_self) (Nat.succ_ne_zero _)
    | finished made =>
      exact ⟨(m.type.qualifiedName, made) :: results, congrArg (_ :: ·) hresults⟩

/-- Nothing is left to do for a crew whose passes have ended: its results are theirs, and the
registry stays. -/
theorem finishAll_of_endsWith (e : Engine) (targets : List String) {crew : Crew}
    {results : List (String × Except FixtureError Fixture)} (h : crew.EndsWith results)
    (r : Registry) : e.finishAll targets crew r = (results, r) := by
  induction crew generalizing results with
  | nil =>
    cases results with
    | nil => rfl
    | cons x results => cases h
  | cons p crew ih =>
    obtain ⟨m, progress⟩ := p
    cases results with
    | nil => cases h
    | cons x results =>
      obtain ⟨hfirst, hrest⟩ := List.cons.inj h
      obtain ⟨hname, hprogress⟩ := Prod.mk.inj hfirst
      subst hprogress
      have hx : (m.type.qualifiedName, x.2) = x := Prod.ext hname rfl
      simp only [finishAll, finish]
      rw [ih hrest, hx]

/-- The passes of some models, working at the same time, may end with these results and leave this
registry. Each way in which the steps can follow each other is one way to end. -/
def RunsTogether (e : Engine) (random : String → UuidSource) (targets : List String)
    (ms : List Model) (r : Registry) (results : List (String × Except FixtureError Fixture))
    (after : Registry) : Prop :=
  ∃ crew : Crew, Relation.ReflTransGen (e.Step targets) (e.crew random ms, r) (crew, after) ∧
    crew.EndsWith results

/-- Working at the same time, passes that are apart end as they do one after another. There is some
way to end, and all ways end in the same. -/
theorem runsTogether_iff {ms : List Model} (h : e.AreApart targets ms) {r after : Registry}
    {results : List (String × Except FixtureError Fixture)} :
    e.RunsTogether random targets ms r results after ↔
      e.runPasses random targets ms r = (results, after) := by
  have hfit : Crew.IsFit e targets (e.crew random ms, r).1 := isFit_crew h random
  have hstart : e.finishAll targets (e.crew random ms) r = e.runPasses random targets ms r := by
    rw [finishAll_crew]
  constructor
  -- Of a crew that has ended nothing is left, and until then it stays the same what is left.
  · rintro ⟨crew, hsteps, hends⟩
    rw [← hstart, ← finishAll_of_endsWith e targets hends after]
    exact (finishAll_of_steps hsteps hfit).2.symm
  -- Some crew ends, and whatever it ends with is what the passes give one after another.
  · intro hrun
    obtain ⟨⟨crew, after'⟩, hsteps, hend⟩ := exists_steps_to_end e targets (e.crew random ms, r)
    obtain ⟨results', hends⟩ := Crew.exists_endsWith hend
    have hfinish := (finishAll_of_steps hsteps hfit).2
    rw [finishAll_of_endsWith e targets hends after', hstart, hrun, Prod.mk.injEq] at hfinish
    obtain ⟨rfl, rfl⟩ := hfinish
    exact ⟨crew, hsteps, hends⟩

/-! ### The crews of a run -/

/-- The items in chunks of a size, which is at least 1; the last one may be shorter. Each chunk is
for one crew. -/
def chunks {α : Type} (size : Nat) : List α → List (List α)
  | [] => []
  | item :: rest => (item :: rest.take (size - 1)) :: chunks size (rest.drop (size - 1))
termination_by items => items.length
decreasing_by
  rw [List.length_drop, List.length_cons]
  omega

/-- The chunks are all the items, in order. -/
theorem flatten_chunks {α : Type} (size : Nat) (items : List α) :
    (chunks size items).flatten = items := by
  induction items using chunks.induct size with
  | case1 => rw [chunks, List.flatten_nil]
  | case2 item rest ih =>
    rw [chunks, List.flatten_cons, ih, List.cons_append, List.take_append_drop]

/-- Divided into chunks, levels have the same items in the same order. So the number of workers
does not change which passes there are. -/
theorem flatten_flatMap_chunks {α : Type} (size : Nat) (levels : List (List α)) :
    (levels.flatMap (chunks size)).flatten = levels.flatten := by
  induction levels with
  | nil => rfl
  | cons level levels ih =>
    rw [List.flatMap_cons, List.flatten_append, flatten_chunks, ih, List.flatten_cons]

/-- Crews may work one after another, each when the one before has ended, with these results.
Passes of one crew may take turns at will, and so a crew may end in several ways as far as this
definition tells. -/
inductive RunsInTurn (e : Engine) (random : String → UuidSource) (targets : List String) :
    List (List Model) → Registry → List (String × Except FixtureError Fixture) → Registry → Prop
  | nil (r : Registry) : RunsInTurn e random targets [] r [] r
  | cons {ms : List Model} {rest : List (List Model)} {r next after : Registry}
      {results more : List (String × Except FixtureError Fixture)}
      (first : e.RunsTogether random targets ms r results next)
      (others : RunsInTurn e random targets rest next more after) :
      RunsInTurn e random targets (ms :: rest) r (results ++ more) after

/-- Crews of passes that are apart end as their passes do one after another. Nothing is asked of
passes in different crews, because these never work at the same time. -/
theorem runsInTurn_iff {crews : List (List Model)} (h : ∀ ms ∈ crews, e.AreApart targets ms)
    {r after : Registry} {results : List (String × Except FixtureError Fixture)} :
    e.RunsInTurn random targets crews r results after ↔
      e.runPasses random targets crews.flatten r = (results, after) := by
  induction crews generalizing r results with
  | nil =>
    constructor
    · intro hrun
      cases hrun
      rfl
    · intro hrun
      cases hrun
      exact .nil _
  | cons ms rest ih =>
    have hms := h ms List.mem_cons_self
    have hothers := fun ms' hms' => h ms' (List.mem_cons_of_mem _ hms')
    -- The first crew leaves the registry that the others find.
    rw [List.flatten_cons, runPasses_append]
    constructor
    · intro hrun
      cases hrun with
      | cons first others =>
        have hfirst := (runsTogether_iff hms).mp first
        have hrest := (ih hothers).mp others
        rw [hfirst, hrest]
    · intro hrun
      rw [Prod.mk.injEq] at hrun
      obtain ⟨rfl, rfl⟩ := hrun
      exact .cons ((runsTogether_iff hms).mpr rfl) ((ih hothers).mpr rfl)

/-- A run may give a report and leave a registry, when the passes of each level work in crews of
as many as there are workers. An engine has `Config.effectiveWorkers` of them. -/
def RunsTo (e : Engine) (workers : Nat) (random : String → UuidSource) (requests : List Request)
    (r : Registry) (report : Report) (after : Registry) : Prop :=
  ∃ results, e.RunsInTurn random (e.targets requests)
      ((e.levels requests).flatMap (chunks workers)) r results after ∧
    report = ⟨e.outcomes requests results⟩

/-- Passes in the chunks of a level are apart, as they are in the level. -/
theorem areApart_of_mem_chunks {requests : List Request} {workers : Nat} {ms : List Model}
    (h : ms ∈ (e.levels requests).flatMap (chunks workers)) :
    e.AreApart (e.targets requests) ms := by
  obtain ⟨level, hlevel, hms⟩ := List.mem_flatMap.mp h
  refine (areApart_of_mem_levels hlevel).sublist ?_
  have hsub := List.sublist_flatten_of_mem hms
  rwa [flatten_chunks] at hsub

/-- However many workers there are and however their steps follow each other, a run gives the
report and leaves the registry that it gives and leaves when its passes work one after another,
level by level and in the order of the requests.

The reason is part of the statement: the passes of a level are for different types, none of which
another pass of the level depends on; and a step of a pass reads no entries but those of the types
it depends on and of its own type, and writes none but that. And no crew can work forever, so each
comes to that end. -/
theorem runsTo_iff_run_eq (e : Engine) (random : String → UuidSource) (requests : List Request)
    (registry : Registry) :
    (∀ workers report after, e.RunsTo workers random requests registry report after ↔
      e.run random requests registry = (report, after)) ∧
    (∀ level ∈ e.levels requests, e.AreApart (e.targets requests) level ∧
      ∀ m ∈ level, ∀ progress : Progress, progress.left ⊆ e.includedFields m →
        Registry.LocalTo (e.advance (e.targets requests) m progress)
          (e.node (e.targets requests) m).dependsOn m.type.qualifiedName) ∧
    WellFounded fun s' s => e.Step (e.targets requests) s s' := by
  refine ⟨fun workers report after => ?_, fun level hlevel => ?_, wellFounded_step e _⟩
  · have hcrews : ∀ ms ∈ (e.levels requests).flatMap (chunks workers),
        e.AreApart (e.targets requests) ms := fun ms hms => areApart_of_mem_chunks hms
    rw [run_eq]
    constructor
    · rintro ⟨results, hturn, rfl⟩
      have hrun := (runsInTurn_iff hcrews).mp hturn
      rw [flatten_flatMap_chunks] at hrun
      rw [hrun]
    · intro hrun
      rw [Prod.mk.injEq] at hrun
      obtain ⟨rfl, rfl⟩ := hrun
      refine ⟨_, (runsInTurn_iff hcrews).mpr ?_, rfl⟩
      rw [flatten_flatMap_chunks]
  · exact ⟨areApart_of_mem_levels hlevel, fun m _ progress => localTo_advance e _ m⟩

/-- In the shop two passes work at the same time, and both look up what the level below them has
published. -/
theorem runsTo_iff_run_eq_shop :
    (shopEngine.levels shopRequests).map (·.map (·.type.qualifiedName)) =
        [["shop.Order"], ["shop.Item", "shop.Coupon"]] ∧
      (shopEngine.run (fun _ => .ofSeed 0) shopRequests .empty).1.isSuccess = true ∧
      (∀ report after,
        shopEngine.RunsTo 2 (fun _ => .ofSeed 0) shopRequests .empty report after ↔
          shopEngine.run (fun _ => .ofSeed 0) shopRequests .empty = (report, after)) ∧
      ∀ level ∈ shopEngine.levels shopRequests,
        shopEngine.AreApart (shopEngine.targets shopRequests) level := by
  have h := runsTo_iff_run_eq shopEngine (fun _ => .ofSeed 0) shopRequests .empty
  refine ⟨by decide +kernel, by decide +kernel, h.1 2, fun level hlevel => ?_⟩
  exact (h.2.1 level hlevel).1

end Engine

end Fixtures
