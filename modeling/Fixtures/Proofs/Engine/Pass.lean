import Fixtures.Engine
import Fixtures.Proofs.Constants.Values
import Fixtures.Proofs.Registry

/-!
# `Fixtures.Proofs.Engine.Pass`: what one pass reads, makes and publishes

A pass makes a fixture and publishes its summary. `fixture_eq_ok` takes a made fixture apart into
its constants and methods, `publish_eq_ok` says what is published, and `localTo_pass` that a pass
reads no entry of the registry but those of the types that its node depends on, and writes none
but its own.
-/

set_option autoImplicit false

namespace Fixtures

/-! ### Creation methods -/

/-- A fixture has a creation method, whatever the creators of its type are: the stub without
creators, the one of the only constructor, or one for each creator. So the first method, which the
fixtures of other types refer to, always exists. -/
theorem Model.creationMethods_ne_nil {m : Model} {fields : List ModelField}
    {constants : List Constant} {nullToken : String} {methods : List CreationMethod}
    (h : m.creationMethods fields constants nullToken = .ok methods) : methods ≠ [] := by
  unfold creationMethods at h
  split at h
  · cases h
    exact List.cons_ne_nil _ _
  · split at h
    · obtain ⟨method, -, h⟩ := bind_eq_ok_iff.mp h
      cases h
      exact List.cons_ne_nil _ _
    · next creators hne =>
      obtain ⟨made, hmade, h⟩ := bind_eq_ok_iff.mp h
      split at h
      · cases h
      · cases h
        -- There is a creator, and each creator gives a method.
        obtain ⟨creator, rest, hcons⟩ := List.exists_cons_of_ne_nil hne
        rw [hcons, List.mapM_cons] at hmade
        obtain ⟨first, -, hmade⟩ := bind_eq_ok_iff.mp hmade
        obtain ⟨more, -, hmade⟩ := bind_eq_ok_iff.mp hmade
        cases hmade
        exact List.cons_ne_nil _ _

namespace Engine

variable {e : Engine} {random : String → UuidSource} {targets : List String} {m : Model}

/-! ### Making a fixture -/

/-- A composed fixture is for the type of the model, and has the given constants and the creation
methods that are made with them. Composing adds no constant and drops none. -/
theorem compose_eq_ok {constants : List Constant} {f : Fixture}
    (h : e.compose m constants = .ok f) :
    f.typeName = m.type.qualifiedName ∧ f.fixtureName = m.type.fixtureName ∧
      f.constants = constants ∧
      m.creationMethods (e.includedFields m) constants e.config.nullToken = .ok f.methods := by
  unfold compose at h
  obtain ⟨methods, hmethods, h⟩ := bind_eq_ok_iff.mp h
  cases h
  exact ⟨rfl, rfl, rfl, hmethods⟩

/-- A fixture that could be made is composed of the constants of the included fields. The pipeline
that the values come from is out of sight from here on: what is said of the constants is
`Model.AreConstants`. -/
theorem fixture_eq_ok {peers : Peers} {source : UuidSource} {f : Fixture}
    (h : e.fixture m peers source = .ok f) :
    m.AreConstants peers (e.includedFields m) f.constants ∧
      ∃ constants, e.compose m constants = .ok f := by
  unfold fixture at h
  obtain ⟨pipeline, -, h⟩ := bind_eq_ok_iff.mp h
  obtain ⟨constants, hconstants, h⟩ := bind_eq_ok_iff.mp h
  obtain ⟨-, -, hsame, -⟩ := compose_eq_ok h
  rw [hsame]
  exact ⟨Model.areConstants_of_eq_ok hconstants, constants, h⟩

/-- With a seed, a pass draws from the same source wherever random UUIDs come from: the source is
made of the seed and the type's name alone. -/
theorem uuidSource_congr {e' : Engine} (hseed : e.config.uuidSeed.isSome)
    (hsame : e'.config.uuidSeed = e.config.uuidSeed) (random random' : String → UuidSource)
    (typeName : String) : e'.uuidSource random' typeName = e.uuidSource random typeName := by
  obtain ⟨seed, hseed⟩ := Option.isSome_iff_exists.mp hseed
  simp only [uuidSource, hsame, hseed]

/-- The fixture of a type is the same when each included field has the same dependency and the
registries have the same entries for these. The targets may differ for types that no included field
is of. -/
theorem fixture_congr {p p' : Peers}
    (htargets : ∀ fld ∈ e.includedFields m,
      m.dependency? p.targets fld = m.dependency? p'.targets fld)
    (hagree : ∀ key ∈ (e.node p.targets m).dependsOn,
      p.registry.get? key = p'.registry.get? key)
    (source : UuidSource) : e.fixture m p source = e.fixture m p' source := by
  unfold fixture
  refine congrArg _ (funext fun pipeline => ?_)
  -- The pipeline is made from the model, so only the constants see the registry.
  rw [Model.constants_congr htargets hagree pipeline]

/-! ### Publishing it -/

/-- A fixture that could be published was made, and its summary stands in the registry. A refused
summary makes an error of a made fixture, so nothing is reported that others cannot refer to. -/
theorem publish_eq_ok {made : Except FixtureError Fixture} {r after : Registry} {f : Fixture}
    (h : publish made r = (.ok f, after)) : made = .ok f ∧ r.publish f.summary = .ok after := by
  unfold publish at h
  split at h
  · cases h
  · split at h
    · cases h
    · next hpublish =>
      cases h
      exact ⟨rfl, hpublish⟩

/-- What no summary shows of a fixture can be changed before publishing or after it, since
publishing decides by the summary alone. -/
theorem publish_map {g : Fixture → Fixture} (hg : ∀ f, (g f).summary = f.summary)
    (made : Except FixtureError Fixture) (r : Registry) :
    publish (made.map g) r = ((publish made r).1.map g, (publish made r).2) := by
  cases made with
  | error err => rfl
  | ok f =>
    simp only [publish, Except.map, hg]
    cases r.publish f.summary with
    | error err => rfl
    | ok after => rfl

/-- Fixtures that are the same but for what no summary shows are published in the same way. -/
theorem publish_congr_map {g : Fixture → Fixture} (hg : ∀ f, (g f).summary = f.summary)
    {made made' : Except FixtureError Fixture} (h : made'.map g = made.map g) (r : Registry) :
    (publish made' r).1.map g = (publish made r).1.map g ∧
      (publish made' r).2 = (publish made r).2 := by
  have hpublish := publish_map hg made r
  rw [← h, publish_map hg, Prod.mk.injEq] at hpublish
  exact hpublish

/-- Without a published fixture the registry stays as it is. The fixture was not made, or its
summary was refused. -/
theorem publish_eq_error {made : Except FixtureError Fixture} {r after : Registry}
    {err : FixtureError} (h : publish made r = (.error err, after)) : after = r := by
  unfold publish at h
  split at h
  · cases h
    rfl
  · split at h
    · cases h
      rfl
    · cases h

/-- Publishing writes no entry but the one of the type. -/
theorem get?_publish_of_ne {made : Except FixtureError Fixture} {own : String}
    (hown : ∀ f, made = .ok f → f.typeName = own) (r : Registry) {key : String}
    (hkey : key ≠ own) : (publish made r).2.get? key = r.get? key := by
  rcases h : publish made r with ⟨_ | f, after⟩
  · rw [publish_eq_error h]
  · obtain ⟨hmade, hpublish⟩ := publish_eq_ok h
    -- Only the entry of the published type changes, and that is `own`.
    rw [Registry.get?_publish hpublish, if_neg]
    rintro rfl
    exact hkey (hown f hmade)

/-- What publishing gives and writes is decided by the entry of the type. The other entries may
differ, and the error of a refused summary is the same one. -/
theorem publish_congr {made : Except FixtureError Fixture} {own : String}
    (hown : ∀ f, made = .ok f → f.typeName = own) {r s : Registry}
    (hagree : r.get? own = s.get? own) :
    (publish made r).1 = (publish made s).1 ∧
      (publish made r).2.get? own = (publish made s).2.get? own := by
  cases made with
  | error err => exact ⟨rfl, hagree⟩
  | ok f =>
    obtain rfl : f.summary.typeName = own := hown f rfl
    -- Both registries take the summary, or neither does.
    rcases hr : r.publish f.summary with err | after
    · have hs := (Registry.publish_error_congr hagree).mp hr
      simp only [publish, hr, hs]
      exact ⟨trivial, hagree⟩
    · rcases hs : s.publish f.summary with err | after'
      · rw [(Registry.publish_error_congr hagree).mpr hs] at hr
        cases hr
      · simp only [publish, hr, hs]
        rw [Registry.get?_publish hr, Registry.get?_publish hs, if_pos rfl, if_pos rfl]
        exact ⟨trivial, rfl⟩

/-- To make a fixture from some entries and publish it is local to these and its own entry. The
fixture may fail to be made, but one that is made is for the type of the entry. -/
theorem localTo_publish {made : Registry → Except FixtureError Fixture} {reads : List String}
    {own : String} (hown : ∀ r f, made r = .ok f → f.typeName = own)
    (hmade : ∀ r s, (∀ key ∈ reads, r.get? key = s.get? key) → made r = made s) :
    Registry.LocalTo (fun r => publish (made r) r) reads own where
  frame r key hkey := get?_publish_of_ne (hown r) r hkey
  value r s hagree := by
    show (publish (made r) r).1 = (publish (made s) s).1
    rw [hmade r s fun key hkey => hagree key (List.mem_cons_of_mem _ hkey)]
    exact (publish_congr (hown s) (hagree own List.mem_cons_self)).1
  entry r s hagree := by
    show (publish (made r) r).2.get? own = (publish (made s) s).2.get? own
    rw [hmade r s fun key hkey => hagree key (List.mem_cons_of_mem _ hkey)]
    exact (publish_congr (hown s) (hagree own List.mem_cons_self)).2

/-- A pass that gives a fixture has made it from the registry as it was, and has published its
summary into the registry that it leaves. -/
theorem pass_eq_ok {r : Registry} {f : Fixture} (h : (e.pass random targets m r).1 = .ok f) :
    e.fixture m { targets, registry := r } (e.uuidSource random m.type.qualifiedName) = .ok f ∧
      r.publish f.summary = .ok (e.pass random targets m r).2 :=
  publish_eq_ok (Prod.ext h rfl)

/-- A pass reads the entries of the types that its node depends on, and reads and writes the entry
of its own type. This is all that the order of passes can bear on. -/
theorem localTo_pass (e : Engine) (random : String → UuidSource) (targets : List String)
    (m : Model) :
    Registry.LocalTo (e.pass random targets m) (e.node targets m).dependsOn
      m.type.qualifiedName := by
  refine localTo_publish (fun r f h => ?_) (fun r s hagree => ?_)
  · obtain ⟨-, constants, hcompose⟩ := fixture_eq_ok h
    exact (compose_eq_ok hcompose).1
  · refine fixture_congr ?_ hagree _
    exact fun _ _ => rfl

end Engine

end Fixtures
