import Fixtures.Proofs.Constants.Values
import Fixtures.Proofs.NameMap
import Fixtures.Proofs.Naming

/-!
# `Fixtures.Proofs.Constants.Drafts`: when constants can be made, and which they are

A `Draft` is a directive of a field before its constant is made, together with the text that the
pipeline has given for the field. `Model.drafts` writes out all drafts of some fields in order and
asks the pipeline at most once for each field. What is asked of them (`Model.Allows`) says nothing
about the order in which constants are made, nor about the constants made so far.

Making constants goes through the fields, through the directives of each, and for each directive
through the constants that are there. The three loops are taken apart one by one, each by what it
does when it succeeds:

* a directive adds the constant of its draft (`addDirective_eq_ok_iff`);
* the directives of a field add the constants of its drafts, and draw what the field draws
  (`addField_run_eq_ok_iff`);
* all fields add the constants of all drafts (`addFields_run_eq_ok_iff`).

What remains is a list of constants that are added to no constants.
-/

set_option autoImplicit false

namespace Fixtures

/-! ### Directives and their names -/

namespace ModelField

/-- The directives that are followed for a field: its own, or without any of them one that names
the constant after the field. The name is the one that the strategy makes, be it valid or not. -/
def given (f : ModelField) : List ConstantDirective :=
  match f.description.constants with
  | [] => [{ name := Naming.strategyName f.name, value := none, reference := none }]
  | ds => ds

/-- The names that a field gives are valid: those in its directives are identifiers, and without
directives its own is in lowerCamelCase. -/
def HasValidNames (f : ModelField) : Prop :=
  match f.description.constants with
  | [] => Naming.IsLowerCamel f.name
  | ds => ∀ d ∈ ds, Text.isIdent d.name = true

/-- An explicit name is accepted when it is an identifier. -/
theorem checkConstant_eq_ok_iff {name : String} :
    Naming.checkConstant name = .ok () ↔ Text.isIdent name = true := by
  unfold Naming.checkConstant
  by_cases hident : Text.isIdent name
  · simp [hident]
  · simp [hident]

/-- The directives of a field can be followed when its names are valid, and there is no other
reason why they cannot. -/
theorem directives_eq_ok_iff {f : ModelField} {ds : List ConstantDirective} :
    f.directives = .ok ds ↔ f.HasValidNames ∧ ds = f.given := by
  unfold directives HasValidNames given
  cases f.description.constants with
  | nil =>
    simp only [bind_eq_ok_iff, Naming.constantName?_eq_ok_iff]
    constructor
    · rintro ⟨name, ⟨hcamel, rfl⟩, hds⟩
      cases hds
      exact ⟨hcamel, rfl⟩
    · rintro ⟨hcamel, rfl⟩
      exact ⟨_, ⟨hcamel, rfl⟩, rfl⟩
  | cons d rest =>
    rw [bind_eq_ok_iff]
    constructor
    · rintro ⟨⟨⟩, hall, hds⟩
      cases hds
      exact ⟨fun d hd => checkConstant_eq_ok_iff.mp (forM_eq_ok_iff.mp hall d hd), rfl⟩
    · rintro ⟨hall, rfl⟩
      exact ⟨(), forM_eq_ok_iff.mpr fun d hd => checkConstant_eq_ok_iff.mpr (hall d hd), rfl⟩

end ModelField

/-! ### Drafts -/

/-- A directive of a field before its constant is made. It says nothing about whether there will be
a constant, nor about those that are there already. -/
structure Draft where
  field : ModelField
  /-- The directive and its place among those of the field. -/
  directive : ConstantDirective × Nat
  /-- The text of the pipeline for the field, if it was asked for. -/
  computed : Option String

namespace Draft

/-- The name of the constant to be made. -/
def name (x : Draft) : String := x.directive.1.name

/-- The text of the value: the one of the directive, or else a reference to the fixture of the
target that the field is of, or else the text of the pipeline. There is none when the reference
leads to nothing. -/
def text? (m : Model) (peers : Peers) (x : Draft) : Option String :=
  match x.directive.1.value, m.target? peers.targets x.field, x.directive.1.reference with
  | some text, _, _ => some text
  | none, some typeName, reference => do
    let s ← peers.registry.get? typeName
    match reference with
    | some constant =>
      if s.hasConstant constant then some (Render.name m.package s.fixtureName ++ "." ++ constant)
      else none
    | none => some (Render.name m.package s.fixtureName ++ "." ++ s.defaultMethod ++ "()")
  | none, none, some _ => none
  | none, none, none => x.computed

/-- The constant, if there is a text for its value. -/
def constant? (m : Model) (peers : Peers) (x : Draft) : Option Constant :=
  (x.text? m peers).map (m.constant x.field x.directive)

end Draft

namespace Model

/-- The text of the pipeline for some directives of a field. It is asked for once, and only if one
of them takes its value from there. -/
def computed? (m : Model) (pipeline : Pipeline) (peers : Peers) (f : ModelField)
    (ds : List ConstantDirective) : Draws (Option String) :=
  if ds.any (m.takesPipeline peers f) then some <$> pipeline.resolve f else return none

/-- The drafts of some fields in order, those of a field in the order of its directives. What is
drawn for one field is gone for the fields behind it. -/
def drafts (m : Model) (pipeline : Pipeline) (peers : Peers) : List ModelField → Draws (List Draft)
  | [] => return []
  | f :: rest => do
    let computed ← m.computed? pipeline peers f f.given
    let others ← m.drafts pipeline peers rest
    return f.given.zipIdx.map (⟨f, ·, computed⟩) ++ others

/-- What is asked of some fields and their drafts, so that their constants can be made. Nothing is
asked of providers, since a value is there whatever they do. -/
structure Allows (m : Model) (peers : Peers) (fields : List ModelField) (drafts : List Draft) :
    Prop where
  /-- All names are valid. -/
  names : ∀ f ∈ fields, f.HasValidNames
  /-- A directive that refers to a fixture finds it published, with the constant it refers to. -/
  published : ∀ f ∈ fields, ∀ d ∈ f.given, d.value = none → ∀ typeName,
    m.target? peers.targets f = some typeName → ∃ s, peers.registry.get? typeName = some s ∧
      ∀ constant, d.reference = some constant → s.hasConstant constant = true
  /-- A directive that refers to a constant and gives no value is one of a field of a target. -/
  targets : ∀ f ∈ fields, ∀ d ∈ f.given, d.value = none → d.reference ≠ none →
    m.target? peers.targets f ≠ none
  /-- Drafts of one name have one text. -/
  values : ∀ x ∈ drafts, ∀ x' ∈ drafts, x.name = x'.name → x.text? m peers = x'.text? m peers

/-- The constants are those of the first drafts of each name, in order of name. A constant has all
of its data from one draft, the first one, even if a later draft of the name is of another field.
-/
structure Lists (m : Model) (pipeline : Pipeline) (peers : Peers) (fields : List ModelField)
    (drafts : List Draft) (constants : List Constant) : Prop where
  /-- The names ascend by the order of their bytes. -/
  ascending : constants.Pairwise fun c c' =>
    c.name.toUTF8.data.toList < c'.name.toUTF8.data.toList
  /-- Every name has a constant. -/
  complete : ∀ x ∈ drafts, ∃ c ∈ constants, c.name = x.name
  /-- The constant of a name has the data of the first draft of this name: the type of its field as
  it is written in the package of the model, its text, and where it comes from. -/
  first : ∀ c ∈ constants, ∃ x text, (drafts.find? fun x => x.name == c.name) = some x ∧
    x.text? m peers = some text ∧ c = {
      name := x.directive.1.name
      declaredType := Render.type m.package x.field.resolved.typeRef
      value := text
      fieldIndex := x.field.index
      directiveIndex := x.directive.2
      fieldName := x.field.name }
  /-- All drafts of a field that take their value from the pipeline have what it gives for the
  field when it is asked once. -/
  single : ∀ f ∈ fields, ∃ source, ∀ x ∈ drafts, x.field = f →
    m.takesPipeline peers f x.directive.1 = true →
    x.text? m peers = some (pipeline.resolve f source).1

/-! ### One directive -/

variable {m : Model} {peers : Peers} {f : ModelField} {pipeline : Pipeline}

/-- A directive takes its value from the pipeline when it gives none, and neither it nor the type
of the field refers to a fixture. These are the directives for which something may be drawn. -/
theorem takesPipeline_iff {d : ConstantDirective} : m.takesPipeline peers f d = true ↔
    d.value = none ∧ m.target? peers.targets f = none ∧ d.reference = none := by
  unfold takesPipeline ValueSource.of
  cases d.value <;> cases m.target? peers.targets f <;> cases d.reference <;> simp

/-- The text of a draft that takes its value from the pipeline is the one that was given, whatever
is published. -/
theorem text?_of_takesPipeline {x : Draft}
    (h : m.takesPipeline peers x.field x.directive.1 = true) :
    x.text? m peers = x.computed := by
  obtain ⟨hvalue, htarget, hreference⟩ := takesPipeline_iff.mp h
  rw [Draft.text?, hvalue, htarget, hreference]

/-- The text of a draft is the text of what its value is made from. The draft tells in one step
what the engine finds out in two. -/
theorem text?_eq_some_iff {d : ConstantDirective × Nat} {computed text : String} :
    Draft.text? m peers ⟨f, d, some computed⟩ = some text ↔
      ∃ source, ValueSource.of (m.target? peers.targets f) f d.1 = .ok source ∧
        source.text peers.registry m.package computed f = .ok text := by
  unfold Draft.text? ValueSource.of
  -- The value, the target and the reference of the directive decide what it is made from.
  rcases d.1.value with _ | explicit
  · rcases m.target? peers.targets f with _ | typeName
    · rcases d.1.reference with _ | constant
      · simp [ValueSource.text]
      · simp
    · simp only [Except.ok.injEq, exists_eq_left', ValueSource.text, Registry.require]
      rcases peers.registry.get? typeName with _ | s
      · simp [bind, Except.bind]
      · rcases d.1.reference with _ | constant
        · simp [Summary.referenceText, bind, Except.bind]
        · by_cases hhas : s.hasConstant constant
          · simp [Summary.referenceText, bind, Except.bind, hhas]
          · simp [Summary.referenceText, bind, Except.bind, hhas]
  · simp [ValueSource.text]

/-- A directive adds the constant of its draft. Without a text there is an error, and so there is
if the name has another value. -/
theorem addDirective_eq_ok_iff {d : ConstantDirective × Nat} {computed : String}
    {constants after : NameMap Constant} :
    m.addDirective peers f computed constants d = .ok after ↔
      ∃ c, Draft.constant? m peers ⟨f, d, some computed⟩ = some c ∧
        addConstant constants c = .ok after := by
  unfold addDirective
  simp only [Draft.constant?, Option.map_eq_some_iff, text?_eq_some_iff, bind_eq_ok_iff]
  constructor
  · rintro ⟨source, hsource, text, htext, hadd⟩
    exact ⟨_, ⟨text, ⟨source, hsource, htext⟩, rfl⟩, hadd⟩
  · rintro ⟨_, ⟨text, ⟨source, hsource, htext⟩, rfl⟩, hadd⟩
    exact ⟨source, hsource, text, htext, hadd⟩

/-- Only a directive that takes its value from the pipeline depends on the text given by it. -/
theorem constant?_congr {d : ConstantDirective × Nat} (h : ¬ m.takesPipeline peers f d.1)
    (computed computed' : Option String) :
    Draft.constant? m peers ⟨f, d, computed⟩ = Draft.constant? m peers ⟨f, d, computed'⟩ := by
  rw [takesPipeline_iff] at h
  unfold Draft.constant? Draft.text?
  cases hvalue : d.1.value with
  | some text => rfl
  | none =>
    cases htarget : m.target? peers.targets f with
    | some typeName => rfl
    | none =>
      cases hreference : d.1.reference with
      | some constant => rfl
      | none => exact absurd ⟨hvalue, htarget, hreference⟩ h

/-! ### The directives of a field -/

/-- The constants of some drafts, if all have a text. One draft without a text is enough to have
none. -/
abbrev constants? (m : Model) (peers : Peers) (drafts : List Draft) : Option (List Constant) :=
  drafts.mapM (Draft.constant? m peers)

/-- Directives add the constants of their drafts. It comes to the same to make all constants first
and then to add them. -/
theorem foldlM_addDirective_eq_ok_iff {ds : List (ConstantDirective × Nat)} {computed : String}
    {constants after : NameMap Constant} :
    ds.foldlM (m.addDirective peers f computed) constants = .ok after ↔
      ∃ cs, m.constants? peers (ds.map (⟨f, ·, some computed⟩)) = some cs ∧
        cs.foldlM addConstant constants = .ok after := by
  induction ds generalizing constants with
  | nil => simp
  | cons d rest ih =>
    simp only [List.foldlM_cons, bind_eq_ok_iff, addDirective_eq_ok_iff, ih, List.map_cons,
      List.mapM_cons, Option.bind_eq_bind, Option.bind_eq_some_iff, Option.pure_def,
      Option.some.injEq]
    constructor
    · rintro ⟨next, ⟨c, hc, hadd⟩, cs, hcs, hmore⟩
      exact ⟨c :: cs, ⟨c, hc, cs, hcs, rfl⟩, bind_eq_ok_iff.mpr ⟨next, hadd, hmore⟩⟩
    · rintro ⟨_, ⟨c, hc, cs, hcs, rfl⟩, hadd⟩
      obtain ⟨next, hadd, hmore⟩ := bind_eq_ok_iff.mp hadd
      exact ⟨next, ⟨c, hc, hadd⟩, cs, hcs, hmore⟩

/-- Directives add the constants of their drafts, with the text that is asked for once. The engine
asks when the first directive needs it; up to there the text does not matter, and from there on it
stays. -/
theorem addDirectives_run_eq_ok_iff {ds : List (ConstantDirective × Nat)}
    {constants after : NameMap Constant} {source final : UuidSource} :
    (m.addDirectives pipeline peers f ds constants).run source = (.ok after, final) ↔
      ∃ computed cs, (m.computed? pipeline peers f (ds.map (·.1))).run source = (computed, final) ∧
        m.constants? peers (ds.map (⟨f, ·, computed⟩)) = some cs ∧
        cs.foldlM addConstant constants = .ok after := by
  induction ds generalizing constants source with
  | nil =>
    constructor
    · intro h
      cases h
      exact ⟨none, [], rfl, rfl, rfl⟩
    · rintro ⟨computed, cs, hcomputed, hcs, hadd⟩
      cases hcomputed
      cases hcs
      cases hadd
      rfl
  | cons d rest ih =>
    rw [addDirectives]
    split
    · next htakes =>
      have hany : ((d :: rest).map (·.1)).any (m.takesPipeline peers f) = true := by
        rw [List.map_cons, List.any_cons, htakes, Bool.true_or]
      rw [run_bind_eq_ok_pair_iff, computed?, if_pos hany]
      constructor
      · rintro ⟨computed, next, hcomputed, h⟩
        obtain ⟨hfold, rfl⟩ := run_liftExcept_eq_ok_iff.mp h
        obtain ⟨cs, hcs, hadd⟩ := foldlM_addDirective_eq_ok_iff.mp hfold
        have htext : (pipeline.resolve f source).1 = computed :=
          Except.ok.inj (congrArg Prod.fst hcomputed)
        have hnext : (pipeline.resolve f source).2 = next := congrArg Prod.snd hcomputed
        exact ⟨some computed, cs, Prod.ext (congrArg some htext) hnext, hcs, hadd⟩
      · rintro ⟨_, cs, hcomputed, hcs, hadd⟩
        cases hcomputed
        refine ⟨(pipeline.resolve f source).1, (pipeline.resolve f source).2, rfl, ?_⟩
        exact run_liftExcept_eq_ok_iff.mpr
          ⟨foldlM_addDirective_eq_ok_iff.mpr ⟨cs, hcs, hadd⟩, rfl⟩
    · next htakes =>
      have hany : m.computed? pipeline peers f (d.1 :: rest.map (·.1))
          = m.computed? pipeline peers f (rest.map (·.1)) := by
        rw [computed?, List.any_cons, Bool.eq_false_iff.mpr htakes, Bool.false_or, computed?]
      simp only [run_bind_eq_ok_pair_iff, run_liftExcept_eq_ok_iff, addDirective_eq_ok_iff, ih,
        List.map_cons, hany, List.mapM_cons, Option.bind_eq_bind, Option.bind_eq_some_iff,
        Option.pure_def, Option.some.injEq]
      constructor
      · rintro ⟨next, _, ⟨⟨c, hc, hadd⟩, rfl⟩, computed, cs, hcomputed, hcs, hmore⟩
        -- The draft does not depend on the text, so it is the same with the one of those behind it.
        rw [constant?_congr htakes _ computed] at hc
        exact ⟨computed, c :: cs, hcomputed, ⟨c, hc, cs, hcs, rfl⟩,
          bind_eq_ok_iff.mpr ⟨next, hadd, hmore⟩⟩
      · rintro ⟨computed, _, hcomputed, ⟨c, hc, cs, hcs, rfl⟩, hadd⟩
        rw [constant?_congr htakes _ (some pipeline.nullToken)] at hc
        obtain ⟨next, hadd, hmore⟩ := bind_eq_ok_iff.mp hadd
        exact ⟨next, source, ⟨⟨c, hc, hadd⟩, rfl⟩, computed, cs, hcomputed, hcs, hmore⟩

/-- The directives of a field add the constants of its drafts, when its names are valid. The draws
are those of the one text, or there are none. -/
theorem addField_run_eq_ok_iff {constants after : NameMap Constant} {source final : UuidSource} :
    (m.addField pipeline peers constants f).run source = (.ok after, final) ↔
      f.HasValidNames ∧
      ∃ computed cs, (m.computed? pipeline peers f f.given).run source = (computed, final) ∧
        m.constants? peers (f.given.zipIdx.map (⟨f, ·, computed⟩)) = some cs ∧
        cs.foldlM addConstant constants = .ok after := by
  have hgiven : f.given.zipIdx.map (·.1) = f.given := List.zipIdx_map_fst 0 _
  unfold addField
  simp only [run_bind_eq_ok_pair_iff, run_liftExcept_eq_ok_iff, mapError_eq_ok_iff,
    ModelField.directives_eq_ok_iff]
  constructor
  · rintro ⟨_, _, ⟨⟨hvalid, rfl⟩, rfl⟩, h⟩
    rw [addDirectives_run_eq_ok_iff, hgiven] at h
    exact ⟨hvalid, h⟩
  · rintro ⟨hvalid, h⟩
    refine ⟨_, _, ⟨⟨hvalid, rfl⟩, rfl⟩, ?_⟩
    rw [addDirectives_run_eq_ok_iff, hgiven]
    exact h

/-- The drafts of the first field come before those of the others, which are written out from the
source that it leaves. -/
theorem run_drafts_cons_eq_iff {rest : List ModelField} {source final : UuidSource}
    {all : List Draft} : (m.drafts pipeline peers (f :: rest)).run source = (all, final) ↔
      ∃ computed next others, (m.computed? pipeline peers f f.given).run source = (computed, next) ∧
        (m.drafts pipeline peers rest).run next = (others, final) ∧
        all = f.given.zipIdx.map (⟨f, ·, computed⟩) ++ others := by
  constructor
  · intro h
    cases h
    exact ⟨_, _, _, rfl, rfl, rfl⟩
  · rintro ⟨computed, next, others, hcomputed, hothers, rfl⟩
    rw [drafts, StateT.run_bind, hcomputed]
    show (fun p : List Draft × UuidSource => (f.given.zipIdx.map (⟨f, ·, computed⟩) ++ p.1, p.2))
      ((m.drafts pipeline peers rest).run next) = _
    rw [hothers]

/-- Fields add the constants of all their drafts, when their names are valid. By induction on the
fields, each from the source and the constants that the one before leaves. -/
theorem addFields_run_eq_ok_iff {fields : List ModelField} {constants after : NameMap Constant}
    {source final : UuidSource} :
    (fields.foldlM (m.addField pipeline peers) constants).run source = (.ok after, final) ↔
      (∀ f ∈ fields, f.HasValidNames) ∧
      ∃ drafts cs, (m.drafts pipeline peers fields).run source = (drafts, final) ∧
        m.constants? peers drafts = some cs ∧ cs.foldlM addConstant constants = .ok after := by
  induction fields generalizing constants source with
  | nil =>
    constructor
    · intro h
      cases h
      exact ⟨fun f hf => absurd hf List.not_mem_nil, [], [], rfl, rfl, rfl⟩
    · rintro ⟨-, drafts, cs, hdrafts, hcs, hadd⟩
      cases hdrafts
      cases hcs
      cases hadd
      rfl
  | cons f rest ih =>
    -- The first field and the others are put together on both sides.
    simp only [List.foldlM_cons, run_bind_eq_ok_pair_iff, addField_run_eq_ok_iff, ih,
      List.forall_mem_cons]
    constructor
    · rintro ⟨next, _, ⟨hvalid, computed, cs, hcomputed, hcs, hadd⟩, hrest, drafts, more, hothers,
        hmore, hadd'⟩
      refine ⟨⟨hvalid, hrest⟩, _, cs ++ more,
        run_drafts_cons_eq_iff.mpr ⟨computed, _, drafts, hcomputed, hothers, rfl⟩, ?_, ?_⟩
      · simp [constants?, List.mapM_append, hcs, hmore]
      · rw [List.foldlM_append]
        exact bind_eq_ok_iff.mpr ⟨next, hadd, hadd'⟩
    · rintro ⟨⟨hvalid, hrest⟩, _, all, hdrafts, hall, hadd⟩
      obtain ⟨computed, next, drafts, hcomputed, hothers, rfl⟩ := run_drafts_cons_eq_iff.mp hdrafts
      simp only [constants?, List.mapM_append, Option.bind_eq_bind, Option.bind_eq_some_iff,
        Option.pure_def, Option.some.injEq] at hall
      obtain ⟨cs, hcs, more, hmore, rfl⟩ := hall
      rw [List.foldlM_append] at hadd
      obtain ⟨after', hadd, hadd'⟩ := bind_eq_ok_iff.mp hadd
      exact ⟨after', next, ⟨hvalid, computed, cs, hcomputed, hcs, hadd⟩, hrest, drafts, more,
        hothers, hmore, hadd'⟩

end Model

end Fixtures
