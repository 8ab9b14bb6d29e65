import Fixtures.Proofs.Constants.Drafts
import Fixtures.Proofs.Registry

/-!
# `Fixtures.Proofs.Constants.Collected`: the constants are those of the first drafts

Adding constants one after another to no constants goes through when each has the value of the
first one of its name (`exists_addConstants`), and what is found under a name then is the first
one (`addConstants_eq_ok`). With the drafts in place of the constants this says when the constants
of fields can be made, and which they are: the drafts have to be allowed (`Model.Allows`), and
their constants are listed (`Model.Lists`).
-/

set_option autoImplicit false

namespace Fixtures

/-! ### Adding constants -/

/-- A constant was added to constants with none of another value under its name, and is found there
unless there was one before. So a later constant of a name never takes the place of an earlier one.
-/
theorem get?_of_addConstant_eq_ok {constants after : NameMap Constant} {c : Constant}
    (h : addConstant constants c = .ok after) :
    (∀ first, constants.get? c.name = some first → first.value = c.value) ∧
      ∀ name, after.get? name =
        (constants.get? name).or (if c.name = name then some c else none) := by
  unfold addConstant at h
  split at h
  · next hnone =>
    cases h
    refine ⟨fun first hfirst => ?_, fun name => ?_⟩
    · rw [hnone] at hfirst
      cases hfirst
    · rw [NameMap.get?_insert]
      split
      · next hname => rw [← hname, hnone, Option.none_or]
      · rw [Option.or_none]
  · next first hfirst =>
    split at h
    · next hvalue =>
      cases h
      refine ⟨fun first' hfirst' => ?_, fun name => ?_⟩
      · rw [hfirst] at hfirst'
        cases hfirst'
        exact hvalue
      · split
        · next hname => rw [← hname, hfirst, Option.some_or]
        · rw [Option.or_none]
    · cases h

/-- A constant can be added to constants with none of another value under its name. There is no
other reason to refuse it. -/
theorem exists_addConstant {constants : NameMap Constant} {c : Constant}
    (h : ∀ first, constants.get? c.name = some first → first.value = c.value) :
    ∃ after, addConstant constants c = .ok after := by
  unfold addConstant
  split
  · exact ⟨_, rfl⟩
  · next first hfirst => exact ⟨_, if_pos (h first hfirst)⟩

/-- The first constant of a name, which is the one that is kept. Later ones have the same value, or
there would be no constants at all. -/
abbrev firstNamed (cs : List Constant) (name : String) : Option Constant :=
  cs.find? fun c => c.name == name

/-- The first constant of a name has this name. -/
theorem name_of_firstNamed {cs : List Constant} {name : String} {c : Constant}
    (h : firstNamed cs name = some c) : c.name = name := by
  simpa using List.find?_some h

/-- A name that a constant has has a first one. -/
theorem exists_firstNamed {cs : List Constant} {c : Constant} (h : c ∈ cs) :
    ∃ first, firstNamed cs c.name = some first :=
  Option.isSome_iff_exists.mp (List.find?_isSome.mpr ⟨c, h, beq_self_eq_true c.name⟩)

/-- The first constant of the list comes before the others of its name. -/
theorem firstNamed_cons (c : Constant) (rest : List Constant) (name : String) :
    firstNamed (c :: rest) name = (if c.name = name then some c else none).or
      (firstNamed rest name) := by
  rw [firstNamed, List.find?_cons]
  by_cases hname : c.name = name
  · rw [if_pos hname, beq_iff_eq.mpr hname, Option.some_or]
  · rw [if_neg hname, beq_eq_false_iff_ne.mpr hname, Option.none_or]

/-- Constants were added of which each has the value of the first one of its name, and what is
found under a name is the first one, unless there was one before. -/
theorem addConstants_eq_ok {cs : List Constant} {constants after : NameMap Constant}
    (h : cs.foldlM addConstant constants = .ok after) :
    (∀ c ∈ cs, ∀ first, (constants.get? c.name).or (firstNamed cs c.name) = some first →
      first.value = c.value) ∧
    ∀ name, after.get? name = (constants.get? name).or (firstNamed cs name) := by
  induction cs generalizing constants with
  | nil =>
    cases h
    exact ⟨fun c hc => absurd hc List.not_mem_nil, fun name => (Option.or_none).symm⟩
  | cons c rest ih =>
    rw [List.foldlM_cons] at h
    obtain ⟨next, hnext, h⟩ := bind_eq_ok_iff.mp h
    obtain ⟨hvalue, hfound⟩ := get?_of_addConstant_eq_ok hnext
    obtain ⟨hvalues, hall⟩ := ih h
    -- What is found after the first constant is what was there before, or it, or a later one.
    have hstep : ∀ name, (next.get? name).or (firstNamed rest name)
        = (constants.get? name).or (firstNamed (c :: rest) name) := by
      intro name
      rw [hfound, firstNamed_cons, Option.or_assoc]
    refine ⟨List.forall_mem_cons.mpr ⟨fun first hfirst => ?_, fun c' hc' first hfirst => ?_⟩,
      fun name => (hall name).trans (hstep name)⟩
    · rw [firstNamed_cons, if_pos rfl, Option.some_or] at hfirst
      rcases Option.or_eq_some_iff.mp hfirst with hfirst | ⟨-, hfirst⟩
      · exact hvalue first hfirst
      · cases hfirst
        rfl
    · exact hvalues c' hc' first ((hstep c'.name).trans hfirst)

/-- Constants can be added of which each has the value of the first one of its name. -/
theorem exists_addConstants {cs : List Constant} {constants : NameMap Constant}
    (h : ∀ c ∈ cs, ∀ first, (constants.get? c.name).or (firstNamed cs c.name) = some first →
      first.value = c.value) :
    ∃ after, cs.foldlM addConstant constants = .ok after := by
  induction cs generalizing constants with
  | nil => exact ⟨constants, rfl⟩
  | cons c rest ih =>
    obtain ⟨hfirst, hrest⟩ := List.forall_mem_cons.mp h
    obtain ⟨next, hnext⟩ := exists_addConstant fun first hget =>
      hfirst first (by rw [hget, Option.some_or])
    obtain ⟨-, hfound⟩ := get?_of_addConstant_eq_ok hnext
    obtain ⟨after, hafter⟩ := ih fun c' hc' first hget =>
      hrest c' hc' first (by rw [← hget, hfound, firstNamed_cons, Option.or_assoc])
    exact ⟨after, bind_eq_ok_iff.mpr ⟨next, hnext, hafter⟩⟩

/-! ### From drafts to constants -/

namespace Model

variable {m : Model} {peers : Peers} {pipeline : Pipeline} {fields : List ModelField}
  {drafts : List Draft}

/-- What the drafts of some fields are. The source of a text of the pipeline is left open here,
because it depends on what was drawn for the fields before. -/
structure AreDrafts (m : Model) (pipeline : Pipeline) (peers : Peers) (fields : List ModelField)
    (drafts : List Draft) : Prop where
  /-- A draft is one of a directive of a field. It has a text of the pipeline for that field if it
  takes its value from there. -/
  origin : ∀ x ∈ drafts, x.field ∈ fields ∧ x.directive ∈ x.field.given.zipIdx ∧
    (m.takesPipeline peers x.field x.directive.1 = true →
      ∃ source, x.computed = some (pipeline.resolve x.field source).1)
  /-- Every directive of a field has a draft. -/
  complete : ∀ f ∈ fields, ∀ d ∈ f.given.zipIdx, ∃ computed, ⟨f, d, computed⟩ ∈ drafts
  /-- A text of the pipeline is shared by all directives of the field. -/
  shared : ∀ x ∈ drafts, ∀ d ∈ x.field.given.zipIdx, ⟨x.field, d, x.computed⟩ ∈ drafts

/-- The pipeline is asked for a text that a directive takes, and it is asked with the source as it
is at the beginning of the field. -/
theorem exists_of_run_computed? {f : ModelField} {ds : List ConstantDirective}
    {d : ConstantDirective} {source : UuidSource} (hd : d ∈ ds)
    (htakes : m.takesPipeline peers f d = true) :
    ((m.computed? pipeline peers f ds).run source).1 = some (pipeline.resolve f source).1 := by
  have hany : ds.any (m.takesPipeline peers f) = true := List.any_eq_true.mpr ⟨d, hd, htakes⟩
  rw [computed?, if_pos hany]
  rfl

/-- What the drafts are that are written out for some fields. By induction on the fields: those of
the first one are there, and the others are written out from the source that it leaves. -/
theorem areDrafts_of_run_drafts {source final : UuidSource}
    (h : (m.drafts pipeline peers fields).run source = (drafts, final)) :
    m.AreDrafts pipeline peers fields drafts := by
  induction fields generalizing drafts source with
  | nil =>
    cases h
    exact ⟨fun x hx => absurd hx List.not_mem_nil, fun f hf => absurd hf List.not_mem_nil,
      fun x hx => absurd hx List.not_mem_nil⟩
  | cons f rest ih =>
    obtain ⟨computed, next, others, hcomputed, hothers, rfl⟩ := run_drafts_cons_eq_iff.mp h
    have hrest := ih hothers
    -- Each directive of the first field has a draft with the text of this field.
    have hmem : ∀ d ∈ f.given.zipIdx,
        (⟨f, d, computed⟩ : Draft) ∈ f.given.zipIdx.map (⟨f, ·, computed⟩) ++ others :=
      fun d hd => List.mem_append_left _ (List.mem_map_of_mem hd)
    constructor
    case origin =>
      intro x hx
      rcases List.mem_append.mp hx with hx | hx
      · obtain ⟨d, hd, rfl⟩ := List.mem_map.mp hx
        refine ⟨List.mem_cons_self, hd, fun htakes => ⟨source, ?_⟩⟩
        show computed = _
        rw [← exists_of_run_computed? (List.fst_mem_of_mem_zipIdx hd) htakes, hcomputed]
      · obtain ⟨hfield, hdirective, hcomputed⟩ := hrest.origin x hx
        exact ⟨List.mem_cons_of_mem _ hfield, hdirective, hcomputed⟩
    case complete =>
      refine List.forall_mem_cons.mpr ⟨fun d hd => ⟨computed, hmem d hd⟩, fun f' hf' d hd => ?_⟩
      obtain ⟨computed', hx⟩ := hrest.complete f' hf' d hd
      exact ⟨computed', List.mem_append_right _ hx⟩
    case shared =>
      intro x hx d hd
      rcases List.mem_append.mp hx with hx | hx
      · obtain ⟨d', -, rfl⟩ := List.mem_map.mp hx
        exact hmem d hd
      · exact List.mem_append_right _ (hrest.shared x hx d hd)

/-- A draft has a text when the fixture that it refers to is published with the constant that it
refers to, and a draft that refers to a constant is one of a field of a target. A text of the
pipeline has to be there if it is taken. -/
theorem text?_ne_none_iff {x : Draft} : x.text? m peers ≠ none ↔
    (x.directive.1.value = none → ∀ typeName, m.target? peers.targets x.field = some typeName →
      ∃ s, peers.registry.get? typeName = some s ∧
        ∀ constant, x.directive.1.reference = some constant → s.hasConstant constant = true) ∧
    (x.directive.1.value = none → x.directive.1.reference ≠ none →
      m.target? peers.targets x.field ≠ none) ∧
    (m.takesPipeline peers x.field x.directive.1 = true → x.computed ≠ none) := by
  rw [takesPipeline_iff]
  unfold Draft.text?
  rcases x.directive.1.value with _ | text
  · rcases m.target? peers.targets x.field with _ | typeName
    · rcases x.directive.1.reference with _ | constant
      · simp
      · simp
    · rcases x.directive.1.reference with _ | constant
      · cases hget : peers.registry.get? typeName <;> simp [hget]
      · cases hget : peers.registry.get? typeName <;> simp [hget]
  · simp

/-- The constant of a draft has its name, and its text for a value. The rest of its data does not
matter when constants are added. -/
theorem of_constant?_eq_some {x : Draft} {c : Constant} (h : x.constant? m peers = some c) :
    c.name = x.name ∧ x.text? m peers = some c.value := by
  obtain ⟨text, htext, rfl⟩ := Option.map_eq_some_iff.mp h
  exact ⟨rfl, htext⟩

/-- The first constant of a name is that of the first draft of this name, since the constants come
in the order of their drafts. -/
theorem firstNamed_eq {cs : List Constant} (h : m.constants? peers drafts = some cs)
    (name : String) : firstNamed cs name =
      (drafts.find? fun x => x.name == name).bind (Draft.constant? m peers) := by
  induction mapM_eq_some_iff.mp h with
  | nil => rfl
  | cons hc hrest ih =>
    have hname := (of_constant?_eq_some hc).1
    rw [firstNamed, List.find?_cons, List.find?_cons, hname]
    split
    · rw [Option.bind_some, hc]
    · exact ih (mapM_eq_some_iff.mpr hrest)

/-- The constants of drafts have the values of the first ones of their names when drafts of one
name have one text. The one form is what adding asks for, the other one is what is asked of drafts.
-/
theorem forall_firstNamed_iff {cs : List Constant} (h : m.constants? peers drafts = some cs) :
    (∀ c ∈ cs, ∀ first, firstNamed cs c.name = some first → first.value = c.value) ↔
      ∀ x ∈ drafts, ∀ x' ∈ drafts, x.name = x'.name → x.text? m peers = x'.text? m peers := by
  have hall := mapM_eq_some_iff.mp h
  constructor
  · intro hvalue x hx x' hx' hname
    obtain ⟨c, hc, hmade⟩ := exists_of_mem_left hall hx
    obtain ⟨c', hc', hmade'⟩ := exists_of_mem_left hall hx'
    obtain ⟨hcname, htext⟩ := of_constant?_eq_some hmade
    obtain ⟨hcname', htext'⟩ := of_constant?_eq_some hmade'
    have hsame : c'.name = c.name := by rw [hcname, hcname', hname]
    -- Both have the value of the first constant of their name.
    obtain ⟨first, hfirst⟩ := exists_firstNamed hc
    have hvalue' := hvalue c' hc' first (by rw [hsame, hfirst])
    rw [htext, htext', ← hvalue c hc first hfirst, ← hvalue']
  · intro htexts c hc first hfirst
    obtain ⟨x, hx, hmade⟩ := exists_of_mem_right hall hc
    obtain ⟨x', hx', hmade'⟩ := exists_of_mem_right hall
      (List.mem_of_find?_eq_some hfirst)
    obtain ⟨hcname, htext⟩ := of_constant?_eq_some hmade
    obtain ⟨hcname', htext'⟩ := of_constant?_eq_some hmade'
    have hsame : x'.name = x.name := by
      rw [← hcname, ← hcname', name_of_firstNamed hfirst]
    have := htexts x' hx' x hx hsame
    rw [htext, htext'] at this
    exact Option.some.inj this

/-- The constants of drafts can all be made when the drafts are allowed. On the right there are
only the constants, so it can be compared with adding them one after another. -/
theorem allows_iff (h : m.AreDrafts pipeline peers fields drafts) :
    m.Allows peers fields drafts ↔ (∀ f ∈ fields, f.HasValidNames) ∧
      ∃ cs, m.constants? peers drafts = some cs ∧
        ∀ c ∈ cs, ∀ first, firstNamed cs c.name = some first → first.value = c.value := by
  constructor
  · intro hallows
    -- Every draft has a text: each reason why it could have none is excluded.
    have htexts : ∀ x ∈ drafts, x.constant? m peers ≠ none := by
      intro x hx
      obtain ⟨hfield, hdirective, hcomputed⟩ := h.origin x hx
      have hd := List.fst_mem_of_mem_zipIdx hdirective
      rw [Draft.constant?, Ne, Option.map_eq_none_iff]
      refine text?_ne_none_iff.mpr ⟨hallows.published _ hfield _ hd, hallows.targets _ hfield _ hd,
        fun htakes => ?_⟩
      obtain ⟨source, hsource⟩ := hcomputed htakes
      rw [hsource]
      exact Option.some_ne_none _
    obtain ⟨cs, hcs⟩ := exists_mapM_eq_some_iff.mpr htexts
    exact ⟨hallows.names, cs, hcs, (forall_firstNamed_iff hcs).mpr hallows.values⟩
  · rintro ⟨hnames, cs, hcs, hvalues⟩
    -- Every directive has a draft, which has a text since its constant is made.
    have htext : ∀ f ∈ fields, ∀ d ∈ f.given, ∃ x : Draft, x.field = f ∧ x.directive.1 = d ∧
        x.text? m peers ≠ none := by
      intro f hf d hd
      obtain ⟨i, hi⟩ := List.getElem?_of_mem hd
      obtain ⟨computed, hx⟩ :=
        h.complete f hf (d, i) (List.mk_mem_zipIdx_iff_getElem?.mpr hi)
      obtain ⟨c, -, hmade⟩ := exists_of_mem_left (mapM_eq_some_iff.mp hcs) hx
      refine ⟨⟨f, (d, i), computed⟩, rfl, rfl, ?_⟩
      rw [(of_constant?_eq_some hmade).2]
      exact Option.some_ne_none _
    constructor
    case names => exact hnames
    case published =>
      intro f hf d hd
      obtain ⟨x, rfl, rfl, hx⟩ := htext f hf d hd
      exact (text?_ne_none_iff.mp hx).1
    case targets =>
      intro f hf d hd
      obtain ⟨x, rfl, rfl, hx⟩ := htext f hf d hd
      exact (text?_ne_none_iff.mp hx).2.1
    case values => exact (forall_firstNamed_iff hcs).mp hvalues

/-! ### The finished constants -/

/-- The constants of fields are made, and the source is left, by adding the constants of their
drafts to none. -/
theorem constants_run_eq_ok_iff {source final : UuidSource} {constants : List Constant} :
    (m.constants fields pipeline peers).run source = (.ok constants, final) ↔
      (∀ f ∈ fields, f.HasValidNames) ∧
      ∃ drafts cs after, (m.drafts pipeline peers fields).run source = (drafts, final) ∧
        m.constants? peers drafts = some cs ∧ cs.foldlM addConstant .empty = .ok after ∧
        constants = after.values := by
  unfold Model.constants
  simp only [run_bind_eq_ok_pair_iff, addFields_run_eq_ok_iff]
  constructor
  · rintro ⟨after, _, ⟨hnames, drafts, cs, hdrafts, hcs, hadd⟩, h⟩
    cases h
    exact ⟨hnames, drafts, cs, after, hdrafts, hcs, hadd, rfl⟩
  · rintro ⟨hnames, drafts, cs, after, hdrafts, hcs, hadd, rfl⟩
    exact ⟨after, final, ⟨hnames, drafts, cs, hdrafts, hcs, hadd⟩, rfl⟩

/-- All drafts of a field that take their value from the pipeline have one text, the one that it
gives when it is asked once. Without such a draft any source will do. -/
theorem exists_source_of_values (h : m.AreDrafts pipeline peers fields drafts)
    (hvalues : ∀ x ∈ drafts, ∀ x' ∈ drafts, x.name = x'.name → x.text? m peers = x'.text? m peers)
    (f : ModelField) : ∃ source, ∀ x ∈ drafts, x.field = f →
      m.takesPipeline peers f x.directive.1 = true →
      x.text? m peers = some (pipeline.resolve f source).1 := by
  by_cases htakes : ∃ x ∈ drafts, x.field = f ∧ m.takesPipeline peers f x.directive.1 = true
  · obtain ⟨x, hx, rfl, htakes⟩ := htakes
    obtain ⟨-, hdirective, hcomputed⟩ := h.origin x hx
    obtain ⟨source, hsource⟩ := hcomputed htakes
    refine ⟨source, fun x' hx' hfield htakes' => ?_⟩
    -- The directive of `x` has a draft with the text of `x'` too, and so both texts are the same.
    have hmem := h.shared x' hx' x.directive (hfield ▸ hdirective)
    have hsame := hvalues x hx _ hmem rfl
    rw [text?_of_takesPipeline htakes, text?_of_takesPipeline (hfield ▸ htakes)] at hsame
    rw [text?_of_takesPipeline (hfield ▸ htakes'), ← hsame, hsource]
  · exact ⟨.ofSeed 0, fun x hx hfield htakes' => absurd ⟨x, hx, hfield, htakes'⟩ htakes⟩

/-- The constants that were added to none are those of the first drafts of their names. A map keeps
its names in order, and none of them twice. -/
theorem lists_of_addConstants {cs : List Constant} {after : NameMap Constant}
    (hdrafts : m.AreDrafts pipeline peers fields drafts) (hcs : m.constants? peers drafts = some cs)
    (h : cs.foldlM addConstant .empty = .ok after) :
    m.Lists pipeline peers fields drafts after.values := by
  obtain ⟨hvalues, hfound⟩ := addConstants_eq_ok h
  simp only [NameMap.get?_empty, Option.none_or] at hvalues hfound
  have hnamed : ∀ name c, after.get? name = some c → c.name = name := by
    intro name c hc
    rw [hfound] at hc
    exact name_of_firstNamed hc
  -- A constant is listed when it is the first one of its name.
  have hmem : ∀ c, c ∈ after.values ↔ firstNamed cs c.name = some c := by
    intro c
    rw [mem_values_iff hnamed, hfound]
  constructor
  case ascending => exact (pairwise_values hnamed).imp fun hlt => NameMap.toUTF8_lt hlt
  case complete =>
    intro x hx
    obtain ⟨c, hc, hmade⟩ := exists_of_mem_left (mapM_eq_some_iff.mp hcs) hx
    obtain ⟨first, hfirst⟩ := exists_firstNamed hc
    have hname := name_of_firstNamed hfirst
    refine ⟨first, (hmem first).mpr (hname ▸ hfirst), ?_⟩
    rw [hname, (of_constant?_eq_some hmade).1]
  case first =>
    intro c hc
    rw [hmem, firstNamed_eq hcs] at hc
    obtain ⟨x, hx, hmade⟩ := Option.bind_eq_some_iff.mp hc
    obtain ⟨text, htext, hc⟩ := Option.map_eq_some_iff.mp hmade
    exact ⟨x, text, hx, htext, hc.symm⟩
  case single =>
    exact fun f _ => exists_source_of_values hdrafts ((forall_firstNamed_iff hcs).mp hvalues) f

/-- The constants of fields can be made exactly when their drafts are allowed. They then are those
of the first drafts of each name, in order of name, and the source is left as it is after the drafts
are written out. The names of a fixture are searched by bisection: where they ascend this finds
those that there are. -/
theorem constants_succeed_iff_and_list (m : Model) (fields : List ModelField) (pipeline : Pipeline)
    (peers : Peers) (source : UuidSource) :
    ((∃ constants, ((m.constants fields pipeline peers).run source).1 = .ok constants) ↔
      m.Allows peers fields ((m.drafts pipeline peers fields).run source).1) ∧
    (∀ constants final, (m.constants fields pipeline peers).run source = (.ok constants, final) →
      ∃ drafts, (m.drafts pipeline peers fields).run source = (drafts, final) ∧
        m.Lists pipeline peers fields drafts constants) ∧
    ∀ s : Summary, s.constants.Pairwise (· < ·) → ∀ name,
      s.hasConstant name = true ↔ name ∈ s.constants := by
  refine ⟨?_, fun constants final h => ?_, fun s hsorted name =>
    ⟨Registry.mem_of_hasConstant, Registry.hasConstant_of_mem hsorted⟩⟩
  · rcases hrun : (m.drafts pipeline peers fields).run source with ⟨drafts, final⟩
    rw [allows_iff (areDrafts_of_run_drafts hrun)]
    constructor
    · rintro ⟨constants, h⟩
      obtain ⟨hnames, drafts', cs, after, hdrafts, hcs, hadd, -⟩ :=
        constants_run_eq_ok_iff.mp (Prod.ext h rfl)
      rw [hrun] at hdrafts
      cases hdrafts
      obtain ⟨hvalues, -⟩ := addConstants_eq_ok hadd
      simp only [NameMap.get?_empty, Option.none_or] at hvalues
      exact ⟨hnames, cs, hcs, hvalues⟩
    · rintro ⟨hnames, cs, hcs, hvalues⟩
      obtain ⟨after, hadd⟩ : ∃ after, cs.foldlM addConstant .empty = .ok after :=
        exists_addConstants fun c hc first hfirst =>
          hvalues c hc first (by rwa [NameMap.get?_empty, Option.none_or] at hfirst)
      exact ⟨after.values, congrArg Prod.fst
        (constants_run_eq_ok_iff.mpr ⟨hnames, drafts, cs, after, hrun, hcs, hadd, rfl⟩)⟩
  · obtain ⟨-, drafts, cs, after, hdrafts, hcs, hadd, rfl⟩ := constants_run_eq_ok_iff.mp h
    exact ⟨drafts, hdrafts, lists_of_addConstants (areDrafts_of_run_drafts hdrafts) hcs hadd⟩

end Model

end Fixtures
