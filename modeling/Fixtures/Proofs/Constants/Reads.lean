import Fixtures.Constants
import Fixtures.Proofs.Failing

/-!
# `Fixtures.Proofs.Constants.Reads`: which published fixtures the constants are made from

The schedule asks `Model.dependency?` for each field, and the constants look up what their
directives ask for. Both agree:

* `addField_congr`: registries that have the same entry for the dependency of a field give the
  same constants, the same error and the same draws, so no other entry is read;
* `ModelField.exists_open`: a field with a dependency has a directive that does look it up.

Both rest on one fact about a directive: its value is a reference exactly when it gives no value
itself and the type of the field is a target (`ValueSource.of_eq_reference_iff`).
-/

set_option autoImplicit false

namespace Fixtures

/-! ### Directives -/

/-- A value is a reference when the directive leaves it open and the field is of a target. A
directive that gives a value is never asked for its target. -/
theorem ValueSource.of_eq_reference_iff {target : Option String} {f : ModelField}
    {d : ConstantDirective} {typeName : String} {constant : Option String} :
    ValueSource.of target f d = .ok (.reference typeName constant) ↔
      d.value = none ∧ target = some typeName ∧ d.reference = constant := by
  unfold ValueSource.of
  rcases d.value with _ | text
  · rcases target with _ | name
    · rcases d.reference with _ | reference
      · simp
      · simp
    · simp
  · simp

namespace ModelField

variable {f : ModelField} {ds : List ConstantDirective}

/-- The directives of a field are those of its description, unless it has none; then there is one,
named after the field. -/
theorem directives_eq_ok (h : f.directives = .ok ds) :
    (f.description.constants = [] ∧ ∃ name, Naming.constantName? f.name = .ok name ∧
        ds = [{ name, value := none, reference := none }]) ∨
      (f.description.constants ≠ [] ∧ ds = f.description.constants) := by
  unfold directives at h
  split at h
  · next hnil =>
    obtain ⟨name, hname, hds⟩ := bind_eq_ok_iff.mp h
    cases hds
    exact .inl ⟨hnil, name, hname, rfl⟩
  · next hne =>
    obtain ⟨-, -, hds⟩ := bind_eq_ok_iff.mp h
    cases hds
    exact .inr ⟨hne, rfl⟩

/-- A field with a directive that gives no value leaves a value open. This is what the schedule
asks a field. -/
theorem leavesOpen_of_mem (h : f.directives = .ok ds) {d : ConstantDirective} (hd : d ∈ ds)
    (hvalue : d.value = none) : f.leavesOpen = true := by
  unfold leavesOpen
  rcases directives_eq_ok h with ⟨hnil, -⟩ | ⟨-, rfl⟩
  · simp [hnil]
  · rw [Bool.or_eq_true]
    exact .inr (List.any_eq_true.mpr ⟨d, hd, by simp [hvalue]⟩)

/-- A field that leaves a value open has a directive that gives none. Without directives it is the
one that is named after the field. -/
theorem exists_open (h : f.directives = .ok ds) (hopen : f.leavesOpen = true) :
    ∃ d ∈ ds, d.value = none := by
  unfold leavesOpen at hopen
  rcases directives_eq_ok h with ⟨-, name, -, rfl⟩ | ⟨hne, rfl⟩
  · exact ⟨_, List.mem_singleton.mpr rfl, rfl⟩
  · rw [Bool.or_eq_true, List.isEmpty_iff] at hopen
    rcases hopen with hnil | hany
    · exact absurd hnil hne
    · obtain ⟨d, hd, hvalue⟩ := List.any_eq_true.mp hany
      exact ⟨d, hd, Option.isNone_iff_eq_none.mp hvalue⟩

end ModelField

namespace Model

variable {m : Model} {targets : List String} {f : ModelField} {ds : List ConstantDirective}

/-- A field depends on the target that it is of, if it leaves a value open. A field of a target
with all its values given depends on nothing. -/
theorem dependency?_eq_some_iff {typeName : String} :
    m.dependency? targets f = some typeName ↔
      f.leavesOpen = true ∧ m.target? targets f = some typeName := by
  unfold dependency?
  by_cases h : f.leavesOpen
  · simp [h]
  · simp [h]

/-- A field is of a target when its type is one and is not the type of the model. Type arguments
are no part of the name that is compared. -/
theorem target?_eq_some_iff {typeName : String} :
    m.target? targets f = some typeName ↔
      f.resolved.qualifiedName = typeName ∧ typeName ∈ targets ∧
        typeName ≠ m.type.qualifiedName := by
  simp only [target?, Option.ite_none_right_eq_some, Option.some.injEq, List.contains_iff_mem]
  constructor
  · rintro ⟨⟨hmem, hne⟩, rfl⟩
    exact ⟨rfl, hmem, hne⟩
  · rintro ⟨rfl, hmem, hne⟩
    exact ⟨⟨hmem, hne⟩, rfl⟩

/-- The type of a model is no target of its own fields. -/
theorem target?_ne {typeName : String} (h : m.target? targets f = some typeName) :
    typeName ≠ m.type.qualifiedName :=
  (target?_eq_some_iff.mp h).2.2

/-- What a field depends on is a target. -/
theorem mem_of_dependency? {typeName : String} (h : m.dependency? targets f = some typeName) :
    typeName ∈ targets :=
  (target?_eq_some_iff.mp (dependency?_eq_some_iff.mp h).2).2.1

/-- A field depends on the same type under all targets that the type is one of. -/
theorem dependency?_of_mem {targets' : List String} {typeName : String}
    (h : m.dependency? targets f = some typeName) (hmem : typeName ∈ targets') :
    m.dependency? targets' f = some typeName := by
  obtain ⟨hopen, htarget⟩ := dependency?_eq_some_iff.mp h
  obtain ⟨hname, -, hne⟩ := target?_eq_some_iff.mp htarget
  exact dependency?_eq_some_iff.mpr ⟨hopen, target?_eq_some_iff.mpr ⟨hname, hmem, hne⟩⟩

/-- A reference is to the dependency of the field, so nothing is looked up that the schedule does
not know of. -/
theorem dependency?_of_reference (h : f.directives = .ok ds) {d : ConstantDirective}
    (hd : d ∈ ds) {typeName : String} {constant : Option String}
    (hof : ValueSource.of (m.target? targets f) f d = .ok (.reference typeName constant)) :
    m.dependency? targets f = some typeName := by
  obtain ⟨hvalue, htarget, -⟩ := ValueSource.of_eq_reference_iff.mp hof
  exact dependency?_eq_some_iff.mpr ⟨ModelField.leavesOpen_of_mem h hd hvalue, htarget⟩

/-- The dependency of a field is looked up by one of its directives, so nothing is waited for that
is not looked up. -/
theorem exists_reference (h : f.directives = .ok ds) {typeName : String}
    (hdep : m.dependency? targets f = some typeName) :
    ∃ d ∈ ds, ∃ constant,
      ValueSource.of (m.target? targets f) f d = .ok (.reference typeName constant) := by
  obtain ⟨hopen, htarget⟩ := dependency?_eq_some_iff.mp hdep
  obtain ⟨d, hd, hvalue⟩ := ModelField.exists_open h hopen
  exact ⟨d, hd, d.reference, ValueSource.of_eq_reference_iff.mpr ⟨hvalue, htarget, rfl⟩⟩

/-! ### The text of a value -/

/-- What a directive of a field is made from is the same for targets under which the field has
the same dependency: a directive that gives its value does not ask for the targets, and a field
with another directive depends on the target that it is of. -/
theorem valueSource_congr {targets' : List String} (h : f.directives = .ok ds)
    {d : ConstantDirective} (hd : d ∈ ds)
    (htargets : m.dependency? targets f = m.dependency? targets' f) :
    ValueSource.of (m.target? targets f) f d = ValueSource.of (m.target? targets' f) f d := by
  cases hvalue : d.value with
  | some text =>
    unfold ValueSource.of
    rw [hvalue]
  | none =>
    have hopen := ModelField.leavesOpen_of_mem h hd hvalue
    rw [dependency?, dependency?, if_pos hopen, if_pos hopen] at htargets
    rw [htargets]

section

variable {p p' : Peers}
  (htargets : m.dependency? p.targets f = m.dependency? p'.targets f)
  (hagree : ∀ key, m.dependency? p.targets f = some key →
    p.registry.get? key = p'.registry.get? key)

include htargets in
/-- Whether a directive takes its value from the pipeline is the same for targets under which the
field has the same dependency. -/
theorem takesPipeline_congr (h : f.directives = .ok ds) {d : ConstantDirective} (hd : d ∈ ds) :
    m.takesPipeline p f d = m.takesPipeline p' f d := by
  unfold takesPipeline
  rw [valueSource_congr h hd htargets]

include htargets hagree

/-- The constant of a directive is the same when the field has the same dependency with the same
entry. -/
theorem addDirective_congr (h : f.directives = .ok ds) (computed : String)
    (constants : NameMap Constant) {d : ConstantDirective × Nat} (hd : d.1 ∈ ds) :
    m.addDirective p f computed constants d = m.addDirective p' f computed constants d := by
  unfold addDirective
  rw [← valueSource_congr h hd htargets]
  cases hof : ValueSource.of (m.target? p.targets f) f d.1 with
  | error err => rfl
  | ok source =>
    -- Only a reference looks at the registry, and it does so under the dependency.
    have htext : source.text p.registry m.package computed f
        = source.text p'.registry m.package computed f := by
      cases source with
      | explicit text => rfl
      | pipeline => rfl
      | reference typeName constant =>
        have hrequire : p.registry.require typeName f.name
            = p'.registry.require typeName f.name := by
          unfold Registry.require
          rw [hagree typeName (dependency?_of_reference h hd hof)]
        show (p.registry.require typeName f.name >>= _)
          = (p'.registry.require typeName f.name >>= _)
        rw [hrequire]
    show (source.text p.registry m.package computed f >>= _)
      = (source.text p'.registry m.package computed f >>= _)
    rw [htext]

/-- The constants of directives of a field are the same when it has the same dependency with the
same entry, and so are the error and the draws. The induction is on the directives; which of them
asks the pipeline is the same too. -/
theorem addDirectives_congr (h : f.directives = .ok ds) (pipeline : Pipeline)
    {items : List (ConstantDirective × Nat)} (hitems : ∀ d ∈ items, d.1 ∈ ds)
    (constants : NameMap Constant) :
    m.addDirectives pipeline p f items constants
      = m.addDirectives pipeline p' f items constants := by
  induction items generalizing constants with
  | nil => rfl
  | cons d rest ih =>
    have hd := hitems d List.mem_cons_self
    have hfold : ∀ computed,
        (d :: rest).foldlM (m.addDirective p f computed) constants
          = (d :: rest).foldlM (m.addDirective p' f computed) constants := fun computed =>
      foldlM_congr (fun b item hitem =>
        addDirective_congr htargets hagree h computed b (hitems item hitem)) constants
    have hrest := ih fun item hitem => hitems item (List.mem_cons_of_mem _ hitem)
    simp only [addDirectives, takesPipeline_congr htargets h hd, hfold, hrest,
      addDirective_congr htargets hagree h _ _ hd]

/-- The constants of a field are the same when it has the same dependency with the same entry,
and so are the error and the draws. -/
theorem addField_congr (pipeline : Pipeline) (constants : NameMap Constant) :
    m.addField pipeline p constants f = m.addField pipeline p' constants f := by
  unfold addField
  cases h : f.directives with
  | error fault => rfl
  | ok ds =>
    have hitems : ∀ d ∈ ds.zipIdx, d.1 ∈ ds := fun d hd => List.fst_mem_of_mem_zipIdx hd
    show (pure ds >>= _) = (pure ds >>= _)
    rw [pure_bind, pure_bind, addDirectives_congr htargets hagree h pipeline hitems]

end

/-- The constants of some fields are the same when each field has the same dependency with the same
entry. Entries of other types may be different, or missing. -/
theorem addFields_congr {p p' : Peers} {fields : List ModelField}
    (htargets : ∀ f ∈ fields, m.dependency? p.targets f = m.dependency? p'.targets f)
    (hagree : ∀ key ∈ fields.filterMap (m.dependency? p.targets),
      p.registry.get? key = p'.registry.get? key)
    (pipeline : Pipeline) (constants : NameMap Constant) :
    fields.foldlM (m.addField pipeline p) constants
      = fields.foldlM (m.addField pipeline p') constants := by
  refine foldlM_congr (fun b f hf => addField_congr (htargets f hf) (fun key hkey => ?_) pipeline b)
    constants
  exact hagree key (List.mem_filterMap.mpr ⟨f, hf, hkey⟩)

/-- The finished constants of some fields are the same when each field has the same dependency
with the same entry. -/
theorem constants_congr {p p' : Peers} {fields : List ModelField}
    (htargets : ∀ f ∈ fields, m.dependency? p.targets f = m.dependency? p'.targets f)
    (hagree : ∀ key ∈ fields.filterMap (m.dependency? p.targets),
      p.registry.get? key = p'.registry.get? key)
    (pipeline : Pipeline) :
    m.constants fields pipeline p = m.constants fields pipeline p' := by
  unfold constants
  rw [addFields_congr htargets hagree pipeline .empty]

end Model

end Fixtures
