import Fixtures.Proofs.Constants.Places
import Fixtures.Proofs.Metadata
import Fixtures.Proofs.Summary

/-!
# `Fixtures.Proofs.Pruned`: a catalog without the fields that have no constants

Static fields never have constants, and transient fields have none when they are excluded. `pruned`
takes these fields out of every description of a catalog. The names of the catalog and all that
types are made of stay the same, so types are resolved in the same way (`ofRef_pruned`), and so are
the keys of providers (`ProviderTable.compile_pruned`).

What is left of a model is a model of the same type, with the included fields in new places
(`Model.pruned`). It is the model that the pruned catalog has for the request
(`Model.resolve_pruned`). A field that is taken out may be what keeps a request from having a
model, so the other direction is not true.
-/

set_option autoImplicit false

namespace Fixtures

variable {inc : Bool}

/-- A description without its excluded fields. Its type parameters, its creators and its providers
stay as they are. -/
def TypeDescription.pruned (inc : Bool) (d : TypeDescription) : TypeDescription :=
  { d with fields := d.includedFields inc }

/-- A catalog of descriptions without their excluded fields. -/
def Catalog.pruned (inc : Bool) (c : Catalog) : Catalog where
  types := c.types.map (TypeDescription.pruned inc)
  named e he := by
    obtain ⟨entry, hentry, rfl⟩ := List.mem_map.mp he
    exact c.named entry hentry

/-! ### Names -/

namespace Catalog

variable {c : Catalog}

theorem get?_pruned (inc : Bool) (c : Catalog) (name : String) :
    (c.pruned inc).get? name = (c.get? name).map (TypeDescription.pruned inc) :=
  NameMap.get?_map _ c.types name

theorem contains_pruned (name : String) : (c.pruned inc).contains name = c.contains name :=
  NameMap.contains_map _ c.types name

theorem toList_pruned (inc : Bool) (c : Catalog) :
    (c.pruned inc).toList = c.toList.map (TypeDescription.pruned inc) :=
  NameMap.values_map _ c.types

theorem targets_pruned : (c.pruned inc).targets = c.targets := by
  unfold targets pruned NameMap.map
  rw [List.filter_map, List.map_map]
  rfl

/-- A short name means the same. What it means is looked up by names of descriptions, and these are
kept. -/
theorem qualify_pruned : (c.pruned inc).qualify = c.qualify := by
  funext package name
  have hunique : (c.pruned inc).unique? name
      = (c.unique? name).map (TypeDescription.pruned inc) := by
    unfold unique?
    have hname : (fun d : TypeDescription => d.name == name) ∘ (TypeDescription.pruned inc)
        = fun d => d.name == name := rfl
    rw [toList_pruned, List.filter_map, hname]
    -- Whether there is exactly one does not depend on what the descriptions are.
    generalize c.toList.filter (fun d => d.name == name) = ds
    match ds with
    | [] => rfl
    | [d] => rfl
    | d :: d' :: rest => rfl
  unfold qualify
  simp only [contains_pruned, hunique]
  split
  · rfl
  · split
    · rfl
    · split
      · rfl
      · cases c.unique? name with
        | none => rfl
        | some d => rfl

theorem qualifyType_pruned : (c.pruned inc).qualifyType = c.qualifyType := by
  funext package t
  rw [qualifyType, qualifyType, qualify_pruned]

theorem isKnown_pruned : (c.pruned inc).isKnown = c.isKnown := by
  funext name
  rw [isKnown, isKnown, contains_pruned]

/-- Arguments for raw uses are the same, as they are decided by the type parameters of
descriptions. -/
theorem eraseRaw_pruned (t : TypeRef) : (c.pruned inc).eraseRaw t = c.eraseRaw t := by
  induction t using TypeRef.induction with
  | primitive kind => rfl
  | declared name arguments ih =>
    cases arguments with
    | nil =>
      rw [eraseRaw, eraseRaw, get?_pruned]
      cases c.get? name with
      | none => rfl
      | some d => rfl
    | cons argument arguments =>
      rw [eraseRaw, eraseRaw, eraseAllRaw_eq, eraseAllRaw_eq, ih argument List.mem_cons_self,
        List.map_congr_left fun t ht => ih t (List.mem_cons_of_mem _ ht)]
  | array component ih => rw [eraseRaw, eraseRaw, ih]
  | parameter name => rfl

theorem defaultArguments_pruned (d : TypeDescription) :
    (c.pruned inc).defaultArguments (d.pruned inc) = c.defaultArguments d := by
  unfold defaultArguments
  simp only [eraseRaw_pruned, qualifyType_pruned]
  rfl

end Catalog

/-! ### Types -/

namespace TypeMetadata

variable {c : Catalog} {expand expand' : Expansion}

theorem ofNameWith_pruned (hexpand : ∀ d, expand' (d.pruned inc) = expand d) (name : String) :
    ofNameWith (c.pruned inc) expand' name = ofNameWith c expand name := by
  unfold ofNameWith
  rw [Catalog.get?_pruned]
  cases c.get? name with
  | none => rfl
  | some d =>
    simp only [Option.map_some, hexpand]
    rfl

/-- Types are resolved one by one, so it is enough that each is resolved in the same way. -/
theorem ofRefsWith_pruned {ts : List TypeRef}
    (h : ∀ t ∈ ts, ofRefWith (c.pruned inc) expand' t = ofRefWith c expand t) :
    ofRefsWith (c.pruned inc) expand' ts = ofRefsWith c expand ts := by
  induction ts with
  | nil => rw [ofRefsWith, ofRefsWith]
  | cons t ts ih =>
    rw [ofRefsWith, ofRefsWith, h t List.mem_cons_self,
      ih fun u hu => h u (List.mem_cons_of_mem _ hu)]

theorem ofRefWith_pruned (hexpand : ∀ d, expand' (d.pruned inc) = expand d) (t : TypeRef) :
    ofRefWith (c.pruned inc) expand' t = ofRefWith c expand t := by
  induction t using TypeRef.induction with
  | primitive kind => rw [ofRefWith, ofRefWith]
  | array component ih => rw [ofRefWith, ofRefWith, ih]
  | parameter name => rw [ofRefWith, ofRefWith, ofNameWith_pruned hexpand]
  | declared name arguments ih =>
    cases arguments with
    | nil => rw [ofRefWith, ofRefWith, ofNameWith_pruned hexpand]
    | cons argument arguments =>
      have hall := ofRefsWith_pruned fun t ht => ih t (List.mem_cons_of_mem argument ht)
      rw [ofRefWith, ofRefWith, Catalog.get?_pruned, ih argument List.mem_cons_self, hall]
      cases c.get? name with
      | none => rfl
      | some d => rfl

theorem expandDefaults_pruned (depth : Nat) (d : TypeDescription) :
    expandDefaults (c.pruned inc) depth (d.pruned inc) = expandDefaults c depth d := by
  induction depth generalizing d with
  | zero => rfl
  | succ depth ih =>
    have hall : ofRefsWith (c.pruned inc) (expandDefaults (c.pruned inc) depth)
        (c.defaultArguments d) = ofRefsWith c (expandDefaults c depth) (c.defaultArguments d) :=
      ofRefsWith_pruned fun t _ => ofRefWith_pruned ih t
    unfold expandDefaults
    simp only [Catalog.defaultArguments_pruned, hall]

/-- Types are resolved in the same way. No step of it looks at the fields of a description. -/
theorem ofRef_pruned : ofRef (c.pruned inc) = ofRef c :=
  funext (ofRefWith_pruned (expandDefaults_pruned 2))

theorem ofDescription_pruned (d : TypeDescription) (arguments : Option (List TypeRef)) :
    ofDescription (c.pruned inc) (d.pruned inc) arguments = ofDescription c d arguments := by
  unfold ofDescription
  rw [Catalog.defaultArguments_pruned, Catalog.qualifyType_pruned, ofRef_pruned]
  rfl

end TypeMetadata

/-- Providers have the same keys. A key is looked up among the names and the types that the catalog
knows, and the sources of providers know nothing of a catalog. -/
theorem ProviderTable.compile_pruned {c : Catalog} :
    ProviderTable.compile (c.pruned inc) = ProviderTable.compile c := by
  have hkey : normalKey (c.pruned inc) = normalKey c := by
    funext package key
    unfold normalKey
    rw [Catalog.qualifyType_pruned, Catalog.isKnown_pruned]
  have hsource : addSource (c.pruned inc) = addSource c := by
    funext package table e
    unfold addSource
    rw [hkey]
  funext package sources
  unfold compile
  rw [hsource]

/-! ### Models -/

/-- The model with only the included fields, each in its place among these. A place is the only
thing in a field that tells of the fields before it. -/
def Model.pruned (inc : Bool) (m : Model) : Model where
  type := m.type
  description := m.description.pruned inc
  fields := (m.includedFields inc).zipIdx.map fun p => { p.1 with index := p.2 }

/-- Related lists are related place by place. -/
theorem forall₂_zipIdx {α β : Type} {R : α → β → Prop} {as : List α} {bs : List β}
    (h : List.Forall₂ R as bs) (k : Nat) :
    List.Forall₂ (fun a b => R a.1 b.1 ∧ a.2 = b.2) (as.zipIdx k) (bs.zipIdx k) := by
  induction h generalizing k with
  | nil => exact .nil
  | cons hfirst hrest ih => exact .cons ⟨hfirst, rfl⟩ (ih (k + 1))

/-- The place of a field is the only thing that its place decides. So a field that moves up is
resolved as before. -/
theorem ModelField.resolve_pruned {c : Catalog} {owner : TypeMetadata} {d : TypeDescription}
    {index : Nat} {f : FieldDescription} {fld : ModelField}
    (h : ModelField.resolve c owner d index f = .ok fld) (index' : Nat) :
    ModelField.resolve (c.pruned inc) owner (d.pruned inc) index' f
      = .ok { fld with index := index' } := by
  unfold resolve at h ⊢
  rw [Catalog.qualifyType_pruned, TypeMetadata.ofRef_pruned]
  obtain ⟨resolved, hresolved, h⟩ := bind_eq_ok_iff.mp h
  cases h
  exact bind_eq_ok_iff.mpr ⟨resolved, hresolved, rfl⟩

namespace Model

variable {c : Catalog} {request : Request} {m : Model}

/-- The included fields of the pruned model are all its fields. -/
theorem includedFields_pruned (m : Model) :
    (m.pruned inc).includedFields inc = (m.pruned inc).fields := by
  refine List.filter_eq_self.mpr fun fld hfld => ?_
  obtain ⟨⟨f, index⟩, hf, rfl⟩ := List.mem_map.mp hfld
  exact (List.mem_filter.mp (List.fst_mem_of_mem_zipIdx hf)).2

/-- Without places they are the included fields of the model. -/
theorem map_unplaced_pruned (m : Model) :
    ((m.pruned inc).includedFields inc).map ModelField.unplaced
      = (m.includedFields inc).map ModelField.unplaced := by
  rw [includedFields_pruned, pruned, List.map_map]
  conv_rhs => rw [← List.zipIdx_map_fst 0 (m.includedFields inc), List.map_map]
  rfl

/-- Of a model the constants of some fields need nothing but the type. Which fields the model has
beside these does not matter. -/
theorem constants_pruned (m : Model) (fields : List ModelField) (pipeline : Pipeline)
    (peers : Peers) :
    (m.pruned inc).constants fields pipeline peers = m.constants fields pipeline peers := by
  have hdirectives : ∀ f items constants,
      (m.pruned inc).addDirectives pipeline peers f items constants
        = m.addDirectives pipeline peers f items constants := by
    intro f items
    induction items with
    | nil => exact fun constants => rfl
    | cons d rest ih =>
      intro constants
      -- What is done for one directive is the same by definition; the recursion needs induction.
      have htakes : (m.pruned inc).takesPipeline peers f d.1 = m.takesPipeline peers f d.1 := rfl
      have hadd : (m.pruned inc).addDirective = m.addDirective := rfl
      rw [addDirectives, addDirectives, htakes, hadd, funext ih]
  have hfield : (m.pruned inc).addField pipeline peers = m.addField pipeline peers := by
    funext constants f
    unfold addField
    simp only [hdirectives]
  unfold Model.constants
  rw [hfield]

/-- When a request has a model, the pruned catalog has the pruned model for it. The kept fields are
resolved as before, each in its new place; that all others can be resolved as well is not needed
any more. -/
theorem resolve_pruned (h : Model.resolve c request = .ok m) :
    Model.resolve (c.pruned inc) request = .ok (m.pruned inc) := by
  unfold Model.resolve at h ⊢
  obtain ⟨d, hd, h⟩ := bind_eq_ok_iff.mp h
  obtain ⟨type, htype, h⟩ := bind_eq_ok_iff.mp h
  obtain ⟨fields, hfields, h⟩ := bind_eq_ok_iff.mp h
  cases h
  have hd' : (c.pruned inc).require request.typeName = .ok (d.pruned inc) := by
    rw [Catalog.require, Catalog.get?_pruned, c.get?_of_require hd]
    rfl
  have htype' : TypeMetadata.ofDescription (c.pruned inc) (d.pruned inc) request.typeArguments
      = .ok type := (TypeMetadata.ofDescription_pruned d request.typeArguments).trans htype
  refine bind_eq_ok_iff.mpr ⟨d.pruned inc, hd', bind_eq_ok_iff.mpr ⟨type, htype',
    bind_eq_ok_iff.mpr ⟨_, mapM_eq_ok_iff.mpr ?_, rfl⟩⟩⟩
  -- The fields of the model by what they are resolved from, wherever it stands.
  have hall : List.Forall₂ (fun f fld => ∃ index, ModelField.resolve c type d index f = .ok fld)
      (d.fields.filter fun f => !f.isStatic) fields := by
    conv_lhs => rw [← List.zipIdx_map_fst 0 d.fields, List.filter_map]
    exact List.forall₂_map_left_iff.mpr
      ((mapM_eq_ok_iff.mp hfields).imp fun p fld hfld => ⟨p.2, hfld⟩)
  have hincluded : List.Forall₂
      (fun f fld => ∃ index, ModelField.resolve c type d index f = .ok fld) (d.includedFields inc)
      (fields.filter fun fld => inc || !fld.isTransient) := by
    have hfilter := List.rel_filter (p := fun f : FieldDescription => inc || !f.isTransient)
      (q := fun fld : ModelField => inc || !fld.isTransient) (fun f fld ⟨index, hfld⟩ => by
        rw [← ModelField.description_of_resolve hfld]
        rfl) hall
    rw [List.filter_filter] at hfilter
    rw [TypeDescription.includedFields]
    simpa only [Bool.and_comm] using hfilter
  have hkept : (d.pruned inc).fields.zipIdx.filter (fun f => !f.1.isStatic)
      = (d.includedFields inc).zipIdx := by
    refine List.filter_eq_self.mpr fun p hp => ?_
    have hmem := (List.mem_filter.mp (List.fst_mem_of_mem_zipIdx hp)).2
    exact (Bool.and_eq_true_iff.mp hmem).1
  rw [hkept]
  refine List.forall₂_map_right_iff.mpr ((forall₂_zipIdx hincluded 0).imp ?_)
  rintro ⟨f, index⟩ ⟨fld, index'⟩ ⟨⟨was, hfld⟩, rfl⟩
  exact ModelField.resolve_pruned hfld index

end Model

end Fixtures
