import Fixtures.Proofs.Constants.Values
import Fixtures.Proofs.NameMap
import Fixtures.Proofs.Provider.Draws

/-!
# `Fixtures.Proofs.Constants.Draws`: which constants depend on UUIDs

The constants of some fields are made twice, from two sources of UUIDs, and both times they can be
made. Then they are the same constants, and only the values may differ of those that a directive
takes from the pipeline for a field for which the pipeline may draw (`Model.SameButDrawn`).

The two makings go along with each other, directive by directive. What is carried along is that
the constants so far have the same names and are the same but for such values
(`Model.Alike`). The sources themselves may be anything at every point, because the first
UUIDs that are drawn differ already. A name that is there in one making is there in the other, so
both keep their first constant or both add one.
-/

set_option autoImplicit false

namespace Fixtures.Model

/-- The constant is one of a field for which the pipeline may draw, by a directive that takes its
value from there. Whether it is drawn indeed depends on what the providers do with the field. -/
def IsDrawn (m : Model) (pipeline : Pipeline) (peers : Peers) (fields : List ModelField)
    (c : Constant) : Prop :=
  ∃ f ∈ fields, pipeline.MayDraw f ∧ ∃ ds, f.directives = .ok ds ∧
    ∃ d ∈ ds.zipIdx, m.takesPipeline peers f d.1 = true ∧ c = m.constant f d c.value

/-- Two constants are the same but for the value, and this too if it is not drawn. Name, type,
field and place are decided before any value is. -/
structure SameButDrawn (m : Model) (pipeline : Pipeline) (peers : Peers)
    (fields : List ModelField) (c c' : Constant) : Prop where
  same : c' = { c with value := c'.value }
  drawn : c.value ≠ c'.value → m.IsDrawn pipeline peers fields c

variable {m : Model} {pipeline : Pipeline} {peers : Peers} {fields : List ModelField}
  {constants constants' after after' : NameMap Constant}

/-- Constants so far, made from two sources: under each name there are two that are the same but
for drawn values, or there is none in both. -/
abbrev Alike (m : Model) (pipeline : Pipeline) (peers : Peers) (fields : List ModelField) :
    NameMap Constant → NameMap Constant → Prop :=
  NameMap.Related (m.SameButDrawn pipeline peers fields)

/-! ### One directive -/

/-- Adding constants that are the same but for drawn values keeps the constants alike. Both are
added or neither is, since the names taken so far are the same. -/
theorem Alike.addConstant {c c' : Constant}
    (h : m.Alike pipeline peers fields constants constants')
    (hc : m.SameButDrawn pipeline peers fields c c')
    (hafter : addConstant constants c = .ok after)
    (hafter' : Fixtures.addConstant constants' c' = .ok after') :
    m.Alike pipeline peers fields after after' := by
  have hname : c'.name = c.name := by
    rw [hc.same]
  unfold Fixtures.addConstant at hafter hafter'
  rw [hname] at hafter'
  have hrel := h.rel_get? c.name
  cases hget : constants.get? c.name with
  | none =>
    rw [hget] at hafter hrel
    cases hget' : constants'.get? c.name with
    | none =>
      rw [hget'] at hafter'
      cases hafter
      cases hafter'
      exact h.insert c.name hc
    | some first' =>
      rw [hget'] at hrel
      cases hrel
  | some first =>
    rw [hget] at hafter hrel
    cases hget' : constants'.get? c.name with
    | none =>
      rw [hget'] at hrel
      cases hrel
    | some first' =>
      -- Both keep their first constant of the name.
      rw [hget'] at hafter'
      simp only at hafter hafter'
      split at hafter
      · split at hafter'
        · cases hafter
          cases hafter'
          exact h
        · cases hafter'
      · cases hafter

/-- Adding the constant of a directive keeps the constants alike, when the pipeline gives the same
text or may draw for the field. -/
theorem Alike.addDirective {f : ModelField} {computed computed' : String}
    {ds : List ConstantDirective} {d : ConstantDirective × Nat} (hf : f ∈ fields)
    (hds : f.directives = .ok ds) (hd : d ∈ ds.zipIdx)
    (hcomputed : m.takesPipeline peers f d.1 = true → computed ≠ computed' → pipeline.MayDraw f)
    (h : m.Alike pipeline peers fields constants constants')
    (hafter : m.addDirective peers f computed constants d = .ok after)
    (hafter' : m.addDirective peers f computed' constants' d = .ok after') :
    m.Alike pipeline peers fields after after' := by
  unfold Model.addDirective at hafter hafter'
  obtain ⟨source, hsource, hmade⟩ := bind_eq_ok_iff.mp hafter
  obtain ⟨source', hsource', hmade'⟩ := bind_eq_ok_iff.mp hafter'
  obtain rfl : source = source' := Except.ok.inj (hsource.symm.trans hsource')
  obtain ⟨value, hvalue, hadd⟩ := bind_eq_ok_iff.mp hmade
  obtain ⟨value', hvalue', hadd'⟩ := bind_eq_ok_iff.mp hmade'
  refine h.addConstant ⟨rfl, fun hne => ?_⟩ hadd hadd'
  -- The values are different, so the source is the pipeline and its texts are different.
  cases source with
  | pipeline =>
    have htakes : m.takesPipeline peers f d.1 = true := by
      unfold takesPipeline
      rw [hsource]
    cases hvalue
    cases hvalue'
    exact ⟨f, hf, hcomputed htakes hne, ds, hds, d, hd, htakes, rfl⟩
  | _ => exact absurd (Except.ok.inj (hvalue.symm.trans hvalue')) hne

/-- Adding the constants of directives keeps the constants alike, with a text of the pipeline for
each of the two makings. -/
theorem Alike.foldlM_addDirective {f : ModelField} {computed computed' : String}
    {ds : List ConstantDirective} {items : List (ConstantDirective × Nat)} (hf : f ∈ fields)
    (hds : f.directives = .ok ds) (hitems : items ⊆ ds.zipIdx)
    (hcomputed : computed ≠ computed' → pipeline.MayDraw f)
    (h : m.Alike pipeline peers fields constants constants')
    (hafter : items.foldlM (m.addDirective peers f computed) constants = .ok after)
    (hafter' : items.foldlM (m.addDirective peers f computed') constants' = .ok after') :
    m.Alike pipeline peers fields after after' := by
  induction items generalizing constants constants' with
  | nil =>
    cases hafter
    cases hafter'
    exact h
  | cons d rest ih =>
    rw [List.foldlM_cons] at hafter hafter'
    obtain ⟨next, hnext, hafter⟩ := bind_eq_ok_iff.mp hafter
    obtain ⟨next', hnext', hafter'⟩ := bind_eq_ok_iff.mp hafter'
    obtain ⟨hd, hrest⟩ := List.cons_subset.mp hitems
    exact ih hrest (h.addDirective hf hds hd (fun _ => hcomputed) hnext hnext') hafter hafter'

/-! ### Fields -/

/-- The texts that the pipeline gives from two sources differ only if it may draw. Otherwise they
do not depend on the source. -/
theorem mayDraw_of_ne {f : ModelField} {source source' : UuidSource}
    (h : (pipeline.resolve f source).1 ≠ (pipeline.resolve f source').1) : pipeline.MayDraw f := by
  by_contra hnot
  obtain ⟨text, htext⟩ := Pipeline.exists_resolve_eq_pure hnot
  rw [htext] at h
  exact h rfl

/-- Adding the constants of directives from two sources keeps the constants alike. Which directive
asks the pipeline first does not depend on the source. -/
theorem Alike.addDirectives {f : ModelField} {source source' : UuidSource}
    {ds : List ConstantDirective} {items : List (ConstantDirective × Nat)} (hf : f ∈ fields)
    (hds : f.directives = .ok ds) (hitems : items ⊆ ds.zipIdx)
    (h : m.Alike pipeline peers fields constants constants')
    (hafter : ((m.addDirectives pipeline peers f items constants).run source).1 = .ok after)
    (hafter' : ((m.addDirectives pipeline peers f items constants').run source').1 = .ok after') :
    m.Alike pipeline peers fields after after' := by
  induction items generalizing constants constants' source source' with
  | nil =>
    cases hafter
    cases hafter'
    exact h
  | cons d rest ih =>
    rw [Model.addDirectives] at hafter hafter'
    split at hafter
    · next htakes =>
      rw [if_pos htakes] at hafter'
      obtain ⟨computed, next, hcomputed, hafter⟩ := run_bind_eq_ok_iff.mp hafter
      obtain ⟨computed', next', hcomputed', hafter'⟩ := run_bind_eq_ok_iff.mp hafter'
      rw [run_liftExcept] at hafter hafter'
      -- The two texts are those that the pipeline gives from the two sources.
      have htext : (pipeline.resolve f source).1 = computed :=
        Except.ok.inj (congrArg Prod.fst hcomputed)
      have htext' : (pipeline.resolve f source').1 = computed' :=
        Except.ok.inj (congrArg Prod.fst hcomputed')
      rw [← htext] at hafter
      rw [← htext'] at hafter'
      exact h.foldlM_addDirective hf hds hitems mayDraw_of_ne hafter hafter'
    · next htakes =>
      rw [if_neg htakes] at hafter'
      obtain ⟨next, source₁, hnext, hafter⟩ := run_bind_eq_ok_iff.mp hafter
      obtain ⟨next', source₁', hnext', hafter'⟩ := run_bind_eq_ok_iff.mp hafter'
      rw [run_liftExcept, Prod.mk.injEq] at hnext hnext'
      obtain ⟨hd, hrest⟩ := List.cons_subset.mp hitems
      exact ih hrest (h.addDirective hf hds hd (fun htakes' => absurd htakes' htakes) hnext.1
        hnext'.1) hafter hafter'

/-- Adding the constants of fields from two sources keeps the constants alike. By induction on the
fields that are left; nothing is said of the two sources. -/
theorem Alike.foldlM_addField {part : List ModelField} (hpart : part ⊆ fields)
    {source source' : UuidSource} (h : m.Alike pipeline peers fields constants constants')
    (hafter : ((part.foldlM (m.addField pipeline peers) constants).run source).1 = .ok after)
    (hafter' : ((part.foldlM (m.addField pipeline peers) constants').run source').1 = .ok after') :
    m.Alike pipeline peers fields after after' := by
  induction part generalizing constants constants' source source' with
  | nil =>
    cases hafter
    cases hafter'
    exact h
  | cons f rest ih =>
    rw [List.foldlM_cons, run_bind_eq_ok_iff] at hafter hafter'
    obtain ⟨next, source₁, hnext, hafter⟩ := hafter
    obtain ⟨next', source₁', hnext', hafter'⟩ := hafter'
    obtain ⟨hf, hrest⟩ := List.cons_subset.mp hpart
    -- Whatever was drawn for this field, the others go on from constants that are alike.
    refine ih hrest ?_ hafter hafter'
    have hnext := congrArg Prod.fst hnext
    have hnext' := congrArg Prod.fst hnext'
    unfold addField at hnext hnext'
    obtain ⟨ds, source₂, hds, hnext⟩ := run_bind_eq_ok_iff.mp hnext
    obtain ⟨ds', source₂', hds', hnext'⟩ := run_bind_eq_ok_iff.mp hnext'
    rw [run_liftExcept, Prod.mk.injEq] at hds hds'
    obtain rfl : ds = ds' := Except.ok.inj (hds.1.symm.trans hds'.1)
    exact h.addDirectives hf (mapError_eq_ok_iff.mp hds.1) (List.Subset.refl _) hnext hnext'

/-- The constants that are made from two sources are the same but for drawn values. -/
theorem sameButDrawn_of_eq_ok {source source' : UuidSource} {made made' : List Constant}
    (h : ((m.constants fields pipeline peers).run source).1 = .ok made)
    (h' : ((m.constants fields pipeline peers).run source').1 = .ok made') :
    List.Forall₂ (m.SameButDrawn pipeline peers fields) made made' := by
  unfold Model.constants at h h'
  obtain ⟨after, source₁, hafter, h⟩ := run_bind_eq_ok_iff.mp h
  obtain ⟨after', source₁', hafter', h'⟩ := run_bind_eq_ok_iff.mp h'
  cases h
  cases h'
  have halike : m.Alike pipeline peers fields .empty .empty := NameMap.Related.empty
  exact (halike.foldlM_addField (List.Subset.refl _) (congrArg Prod.fst hafter)
    (congrArg Prod.fst hafter')).forall₂_values

end Fixtures.Model
