import Fixtures.Proofs.Constants.Reads

/-!
# `Fixtures.Proofs.Constants.Values`: where the constants of a fixture come from

Constants are added one after another, and a constant that is there stays (`Grows`). So what is
true of a directive when its constant is added is true of the finished constants
(`Model.areConstants_of_eq_ok`): every directive of every field has a constant of its name, with
the value that its source has, and every constant is the one of a directive.
-/

set_option autoImplicit false

namespace Fixtures

/-! ### Growing constants -/

/-- From `constants` to `after` nothing is lost, and all that is new are `added` constants, each
under its own name. -/
structure Grows (added : Constant → Prop) (constants after : NameMap Constant) : Prop where
  /-- A constant that is there stays. -/
  kept : ∀ name c, constants.get? name = some c → after.get? name = some c
  /-- A constant that was not there is an added one. -/
  new : ∀ name c, after.get? name = some c →
    constants.get? name = some c ∨ (c.name = name ∧ added c)

/-- The constant of a name has a value. Once a name has one, it keeps it, whatever is added. -/
def HasValue (constants : NameMap Constant) (name value : String) : Prop :=
  ∃ c, constants.get? name = some c ∧ c.value = value

namespace Grows

variable {added other : Constant → Prop} {constants next after : NameMap Constant}

/-- Without a change nothing is added. -/
theorem refl : Grows added constants constants where
  kept _ _ h := h
  new _ _ h := .inl h

/-- What is added first stays when more is added, and counts as added in the end. -/
theorem trans (h : Grows added constants next) (h' : Grows added next after) :
    Grows added constants after where
  kept name c hc := h'.kept name c (h.kept name c hc)
  new name c hc := by
    rcases h'.new name c hc with hnext | hadded
    · exact h.new name c hnext
    · exact .inr hadded

/-- More constants may count as added. Each step tells exactly what it adds, and the sum of steps
less exactly. -/
theorem mono (h : Grows added constants after) (hle : ∀ c, added c → other c) :
    Grows other constants after where
  kept := h.kept
  new name c hc := (h.new name c hc).imp_right fun ⟨hname, hadded⟩ => ⟨hname, hle c hadded⟩

/-- The value of a name stays. -/
theorem hasValue (h : Grows added constants after) {name value : String}
    (hv : HasValue constants name value) : HasValue after name value := by
  obtain ⟨c, hc, hvalue⟩ := hv
  exact ⟨c, h.kept name c hc, hvalue⟩

end Grows

/-- After a constant is added its name has its value. If the name had a constant, this one stays,
and its value is the same. -/
theorem addConstant_eq_ok {constants after : NameMap Constant} {c : Constant}
    (h : addConstant constants c = .ok after) :
    Grows (· = c) constants after ∧ HasValue after c.name c.value := by
  unfold addConstant at h
  split at h
  · next hnone =>
    -- The constant is new, so no name has lost its constant.
    cases h
    refine ⟨⟨fun name c' hc' => ?_, fun name c' hc' => ?_⟩, c, constants.get?_insert_self _ _, rfl⟩
    · rw [NameMap.get?_insert_of_ne]
      · exact hc'
      · rintro rfl
        rw [hnone] at hc'
        cases hc'
    · rw [NameMap.get?_insert] at hc'
      split at hc'
      · next hname =>
        cases hc'
        exact .inr ⟨hname, rfl⟩
      · exact .inl hc'
  · next first hfirst =>
    -- The name has a constant, which stays if it has the same value.
    split at h
    · next hsame =>
      cases h
      exact ⟨.refl, first, hfirst, hsame⟩
    · cases h

namespace Model

variable {m : Model} {peers : Peers} {f : ModelField}

/-! ### Directives -/

/-- The value that the source of a directive of the field `f` has. Where the source is the
pipeline it may be any text that the pipeline gives. -/
def IsValueOf (m : Model) (peers : Peers) (f : ModelField) (d : ConstantDirective)
    (value : String) : Prop :=
  ∃ source computed, ValueSource.of (m.target? peers.targets f) f d = .ok source ∧
    source.text peers.registry m.package computed f = .ok value

/-- After the constant of a directive is added its name has the value of its source. -/
theorem addDirective_eq_ok {computed : String} {constants after : NameMap Constant}
    {d : ConstantDirective × Nat} (h : m.addDirective peers f computed constants d = .ok after) :
    ∃ value, m.IsValueOf peers f d.1 value ∧
      Grows (· = m.constant f d value) constants after ∧ HasValue after d.1.name value := by
  unfold addDirective at h
  obtain ⟨source, hof, h⟩ := bind_eq_ok_iff.mp h
  obtain ⟨value, htext, h⟩ := bind_eq_ok_iff.mp h
  exact ⟨value, ⟨source, computed, hof, htext⟩, addConstant_eq_ok h⟩

/-- The constant is the one of a directive among `ds`, with some value. Its name, its type and its
place are those of the directive and the field. -/
def IsConstantOf (m : Model) (f : ModelField) (ds : List (ConstantDirective × Nat))
    (c : Constant) : Prop :=
  ∃ d ∈ ds, ∃ value, c = m.constant f d value

/-- After the constants of directives are added each name has the value of its source. What the
first one has added stays while the others are. -/
theorem addDirectives_eq_ok {computed : String} {constants after : NameMap Constant}
    {ds : List (ConstantDirective × Nat)}
    (h : ds.foldlM (m.addDirective peers f computed) constants = .ok after) :
    Grows (m.IsConstantOf f ds) constants after ∧
      ∀ d ∈ ds, ∃ value, m.IsValueOf peers f d.1 value ∧ HasValue after d.1.name value := by
  induction ds generalizing constants with
  | nil =>
    cases h
    exact ⟨.refl, fun d hd => absurd hd List.not_mem_nil⟩
  | cons d ds ih =>
    rw [List.foldlM_cons] at h
    obtain ⟨next, hnext, h⟩ := bind_eq_ok_iff.mp h
    obtain ⟨value, hvalue, hgrows, hhas⟩ := addDirective_eq_ok hnext
    obtain ⟨hgrows', hrest⟩ := ih h
    have hfirst : Grows (m.IsConstantOf f (d :: ds)) constants next :=
      hgrows.mono fun c hc => ⟨d, List.mem_cons_self, value, hc⟩
    have hmore : Grows (m.IsConstantOf f (d :: ds)) next after :=
      hgrows'.mono fun c ⟨d', hd', hc⟩ => ⟨d', List.mem_cons_of_mem _ hd', hc⟩
    refine ⟨hfirst.trans hmore, fun d' hd' => ?_⟩
    rcases List.mem_cons.mp hd' with rfl | hd'
    · exact ⟨value, hvalue, hgrows'.hasValue hhas⟩
    · exact hrest d' hd'

/-! ### Fields -/

/-- The constant of a directive that does not take its value from the pipeline is the same
whatever the pipeline gives. -/
theorem addDirective_of_not_takesPipeline {d : ConstantDirective × Nat}
    (h : m.takesPipeline peers f d.1 = false) (computed other : String)
    (constants : NameMap Constant) :
    m.addDirective peers f computed constants d = m.addDirective peers f other constants d := by
  unfold takesPipeline at h
  unfold addDirective
  cases hof : ValueSource.of (m.target? peers.targets f) f d.1 with
  | error err => rfl
  | ok source =>
    cases source with
    | explicit text => rfl
    | reference typeName constant => rfl
    | pipeline =>
      rw [hof] at h
      cases h

/-- The constants of directives are all made from one text of the pipeline. The engine asks for it
late, but with the text known in advance all would go the same way. -/
theorem addDirectives_run_eq_ok {pipeline : Pipeline} {items : List (ConstantDirective × Nat)}
    {constants after : NameMap Constant} {source : UuidSource}
    (h : ((m.addDirectives pipeline peers f items constants).run source).1 = .ok after) :
    ∃ computed, items.foldlM (m.addDirective peers f computed) constants = .ok after := by
  induction items generalizing constants source with
  | nil => exact ⟨pipeline.nullToken, h⟩
  | cons d rest ih =>
    rw [addDirectives] at h
    split at h
    · obtain ⟨computed, source', -, h⟩ := run_bind_eq_ok_iff.mp h
      rw [run_liftExcept] at h
      exact ⟨computed, h⟩
    · next htakes =>
      obtain ⟨next, source', hnext, h⟩ := run_bind_eq_ok_iff.mp h
      rw [run_liftExcept, Prod.mk.injEq] at hnext
      obtain ⟨computed, hrest⟩ := ih h
      -- The text of those behind it would do for the first directive too.
      refine ⟨computed, ?_⟩
      rw [List.foldlM_cons, addDirective_of_not_takesPipeline (Bool.eq_false_iff.mpr htakes)
        computed pipeline.nullToken, hnext.1]
      exact hrest

/-- The constants of a field are made from its directives and one text of the pipeline. -/
theorem addField_eq_ok {pipeline : Pipeline} {constants after : NameMap Constant}
    {source : UuidSource}
    (h : ((m.addField pipeline peers constants f).run source).1 = .ok after) :
    ∃ ds computed, f.directives = .ok ds ∧
      ds.zipIdx.foldlM (m.addDirective peers f computed) constants = .ok after := by
  unfold addField at h
  obtain ⟨ds, source', hds, h⟩ := run_bind_eq_ok_iff.mp h
  rw [run_liftExcept, Prod.mk.injEq, mapError_eq_ok_iff] at hds
  obtain ⟨computed, hfold⟩ := addDirectives_run_eq_ok h
  exact ⟨ds, computed, hds.1, hfold⟩

/-- Every directive of the field `f` has a constant, whose value is that of its source. The
constant may be that of another field with the same name and value. -/
def IsWritten (m : Model) (peers : Peers) (f : ModelField) (constants : NameMap Constant) :
    Prop :=
  ∃ ds, f.directives = .ok ds ∧
    ∀ d ∈ ds, ∃ value, m.IsValueOf peers f d value ∧ HasValue constants d.name value

/-- The constant is the one of a directive of the field `f`, or of the directive that stands for
none. -/
def IsConstantOfField (m : Model) (f : ModelField) (c : Constant) : Prop :=
  ∃ ds, f.directives = .ok ds ∧ m.IsConstantOf f ds.zipIdx c

/-- After the constants of a field are added all its directives have theirs, and nothing else was
added. -/
theorem isWritten_of_addField_eq_ok {pipeline : Pipeline} {constants after : NameMap Constant}
    {source : UuidSource}
    (h : ((m.addField pipeline peers constants f).run source).1 = .ok after) :
    Grows (m.IsConstantOfField f) constants after ∧ m.IsWritten peers f after := by
  obtain ⟨ds, computed, hds, hfold⟩ := addField_eq_ok h
  obtain ⟨hgrows, hvalues⟩ := addDirectives_eq_ok hfold
  refine ⟨hgrows.mono fun c hc => ⟨ds, hds, hc⟩, ds, hds, fun d hd => ?_⟩
  obtain ⟨i, hi⟩ := List.getElem?_of_mem hd
  exact hvalues (d, i) (List.mk_mem_zipIdx_iff_getElem?.mpr hi)

/-- The constants of a field are made when those of earlier fields are, and they stay when those
of later fields are added. -/
theorem addFields_eq_ok {pipeline : Pipeline} {fields : List ModelField}
    {constants after : NameMap Constant} {source : UuidSource}
    (h : ((fields.foldlM (m.addField pipeline peers) constants).run source).1 = .ok after) :
    Grows (fun c => ∃ f ∈ fields, m.IsConstantOfField f c) constants after ∧
      ∀ f ∈ fields, m.IsWritten peers f after := by
  induction fields generalizing constants source with
  | nil =>
    cases h
    exact ⟨.refl, fun f hf => absurd hf List.not_mem_nil⟩
  | cons f fields ih =>
    -- The first field is written before the others are added, and stays so.
    rw [List.foldlM_cons, run_bind_eq_ok_iff] at h
    obtain ⟨next, source', hnext, h⟩ := h
    obtain ⟨hgrows, hwritten⟩ := isWritten_of_addField_eq_ok (by rw [hnext])
    obtain ⟨hgrows', hrest⟩ := ih h
    refine ⟨(hgrows.mono fun c hc => ?_).trans (hgrows'.mono fun c hc => ?_), fun f' hf' => ?_⟩
    · exact ⟨f, List.mem_cons_self, hc⟩
    · obtain ⟨f', hf', hc⟩ := hc
      exact ⟨f', List.mem_cons_of_mem _ hf', hc⟩
    · rcases List.mem_cons.mp hf' with rfl | hf'
      · obtain ⟨ds, hds, hvalues⟩ := hwritten
        refine ⟨ds, hds, fun d hd => ?_⟩
        obtain ⟨value, hvalue, hhas⟩ := hvalues d hd
        exact ⟨value, hvalue, hgrows'.hasValue hhas⟩
      · exact hrest f' hf'

/-! ### The finished constants -/

/-- What the constants of some fields are when they could be made. This is all that is used of how
they are made wherever the places of constants do not matter. -/
structure AreConstants (m : Model) (peers : Peers) (fields : List ModelField)
    (constants : List Constant) : Prop where
  /-- Every directive has a constant, and all constants of its name have the value of its
  source. -/
  written : ∀ f ∈ fields, ∃ ds, f.directives = .ok ds ∧
    ∀ d ∈ ds, ∃ value, m.IsValueOf peers f d value ∧ (∃ c ∈ constants, c.name = d.name) ∧
      ∀ c ∈ constants, c.name = d.name → c.value = value
  /-- Every constant is the one of a directive. -/
  origin : ∀ c ∈ constants, ∃ f ∈ fields, m.IsConstantOfField f c
  /-- The constants are in ascending order of name. -/
  ascending : constants.Pairwise fun c c' => c.name < c'.name

/-- Where every constant stands under its own name, the values of the map are the constants that
are found under their names. -/
theorem mem_values_iff {constants : NameMap Constant}
    (hnamed : ∀ name c, constants.get? name = some c → c.name = name) {c : Constant} :
    c ∈ constants.values ↔ constants.get? c.name = some c := by
  simp only [NameMap.values, List.mem_map, Prod.exists, exists_eq_right]
  constructor
  · rintro ⟨name, hentry⟩
    have hc := (constants.get?_eq_some_iff name c).mpr hentry
    rw [hnamed name c hc]
    exact hc
  · exact fun hc => ⟨c.name, (constants.get?_eq_some_iff c.name c).mp hc⟩

/-- Where every constant stands under its own name, the values of the map are in ascending order of
name. -/
theorem pairwise_values {constants : NameMap Constant}
    (hnamed : ∀ name c, constants.get? name = some c → c.name = name) :
    constants.values.Pairwise fun c c' => c.name < c'.name := by
  have hentry : ∀ e ∈ constants.entries, e.2.name = e.1 := fun e he =>
    hnamed e.1 e.2 ((constants.get?_eq_some_iff e.1 e.2).mpr he)
  refine List.pairwise_map.mpr (constants.sorted.imp_of_mem fun he he' hlt => ?_)
  rw [hentry _ he, hentry _ he']
  exact hlt

/-- What the constants are when they could be made. This is all that the modules on passes and runs
need to know of them. -/
theorem areConstants_of_eq_ok {fields : List ModelField} {pipeline : Pipeline}
    {source : UuidSource} {constants : List Constant}
    (h : ((m.constants fields pipeline peers).run source).1 = .ok constants) :
    m.AreConstants peers fields constants := by
  unfold Model.constants at h
  obtain ⟨after, source', hfold, h⟩ := run_bind_eq_ok_iff.mp h
  cases h
  obtain ⟨hgrows, hwritten⟩ := addFields_eq_ok (by rw [hfold])
  -- There was no constant at the beginning, so each is an added one, under its own name.
  have hadded : ∀ name c, after.get? name = some c →
      c.name = name ∧ ∃ f ∈ fields, m.IsConstantOfField f c := by
    intro name c hc
    rcases hgrows.new name c hc with hempty | hadded
    · cases hempty
    · exact hadded
  have hnamed : ∀ name c, after.get? name = some c → c.name = name :=
    fun name c hc => (hadded name c hc).1
  have hmem : ∀ c, c ∈ after.values ↔ after.get? c.name = some c := fun c => mem_values_iff hnamed
  constructor
  case written =>
    intro f hf
    obtain ⟨ds, hds, hvalues⟩ := hwritten f hf
    refine ⟨ds, hds, fun d hd => ?_⟩
    obtain ⟨value, hvalue, first, hfirst, rfl⟩ := hvalues d hd
    have hname := (hadded d.name first hfirst).1
    refine ⟨first.value, hvalue, ⟨first, (hmem first).mpr ?_, hname⟩, fun c hc hcname => ?_⟩
    · rw [hname]
      exact hfirst
    · rw [hmem, hcname, hfirst] at hc
      cases hc
      rfl
  case origin => exact fun c hc => (hadded c.name c ((hmem c).mp hc)).2
  case ascending => exact pairwise_values hnamed

/-- A value that is a reference is the text of a reference to a published fixture. A fixture that
is not published has no text. -/
theorem IsValueOf.reference {d : ConstantDirective} {value typeName : String}
    {constant : Option String} (h : m.IsValueOf peers f d value)
    (hof : ValueSource.of (m.target? peers.targets f) f d = .ok (.reference typeName constant)) :
    ∃ s, peers.registry.get? typeName = some s ∧
      s.referenceText m.package constant = .ok value := by
  obtain ⟨source, computed, hsource, htext⟩ := h
  rw [hof] at hsource
  cases hsource
  obtain ⟨s, hs, htext⟩ := bind_eq_ok_iff.mp htext
  refine ⟨s, ?_, htext⟩
  unfold Registry.require at hs
  split at hs
  · next hget =>
    cases hs
    exact hget
  · cases hs

/-- The constants could only be made because all dependencies of the fields are published. One of
the directives has looked each of them up. -/
theorem AreConstants.exists_published {fields : List ModelField} {constants : List Constant}
    (h : m.AreConstants peers fields constants) (hf : f ∈ fields) {typeName : String}
    (hdep : m.dependency? peers.targets f = some typeName) :
    ∃ s, peers.registry.get? typeName = some s := by
  obtain ⟨ds, hds, hvalues⟩ := h.written f hf
  obtain ⟨d, hd, constant, hof⟩ := exists_reference hds hdep
  obtain ⟨value, hvalue, -, -⟩ := hvalues d hd
  obtain ⟨s, hs, -⟩ := hvalue.reference hof
  exact ⟨s, hs⟩

end Model

end Fixtures
