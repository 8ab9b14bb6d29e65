import Fixtures.Model
import Fixtures.Proofs.Resolution

/-!
# `Fixtures.Proofs.Model`: what the catalog decides about the model of a request

A request names a type and the catalog keeps descriptions by name; resolving goes through the
description and the type made of it. Type arguments decide what the type parameters stand for and
what the fields are of. All else is the catalog's, and `Model.isOf_of_resolve` says what that is:
the description is the one under the requested name, the type has this name and is a class or an
enum as described, and the fields are the described ones that are not static.

A type without type parameters has one model at most (`Model.resolve_none_of_resolve`).
-/

set_option autoImplicit false

namespace Fixtures

/-- A description stands under its own name. -/
theorem Catalog.qualifiedName_of_get? {c : Catalog} {name : String} {d : TypeDescription}
    (h : c.get? name = some d) : d.qualifiedName = name :=
  (c.named (name, d) ((NameMap.get?_eq_some_iff c.types name d).mp h)).symm

/-- A description that is found is listed. -/
theorem Catalog.mem_toList_of_get? {c : Catalog} {name : String} {d : TypeDescription}
    (h : c.get? name = some d) : d ∈ c.toList :=
  List.mem_map_of_mem (f := Prod.snd) ((NameMap.get?_eq_some_iff c.types name d).mp h)

/-- The description that is required stands under the required name. -/
theorem Catalog.get?_of_require {c : Catalog} {name : String} {d : TypeDescription}
    (h : c.require name = .ok d) : c.get? name = some d := by
  unfold Catalog.require at h
  split at h
  · next hget =>
    cases h
    exact hget
  · cases h

namespace TypeMetadata

/-- A type that is declared under a name and is to the catalog what the name is. Arguments and
parameters are left open, since they are the request's. -/
def IsNamed (c : Catalog) (name : String) (t : TypeMetadata) : Prop :=
  ∃ arguments parameters, t = .declared name arguments parameters (originIn c name)

/-- A declared type is resolved to a type of its name, with arguments and without. -/
theorem isNamed_of_ofRef {c : Catalog} {name : String} {arguments : List TypeRef}
    {t : TypeMetadata} (h : ofRef c (.declared name arguments) = .ok t) : IsNamed c name t := by
  obtain ⟨arguments', hcompleted⟩ := c.exists_completed_declared_eq name arguments
  have hmade := made_of_ofRef h
  rw [hcompleted] at hmade
  cases hmade with
  | declared hnames hresolved => exact ⟨_, _, rfl⟩

/-- A type without type parameters is resolved to one of the name that it has without arguments. A
type parameter would become the root object type, so there the name is lost. -/
theorem qualifiedName_of_ofRef {c : Catalog} {t : TypeRef} {r : TypeMetadata}
    (ht : t.containsParameter = false) (h : ofRef c t = .ok r) : r.qualifiedName = t.erasure := by
  cases t with
  | primitive kind =>
    cases made_of_ofRef h with
    | primitive => rfl
  | declared name arguments =>
    obtain ⟨arguments', parameters, rfl⟩ := isNamed_of_ofRef h
    rfl
  | array component =>
    cases made_of_ofRef h with
    | @array _ resolved hresolved =>
      show resolved.qualifiedName ++ "[]" = component.erasure ++ "[]"
      have hcomponent : component.containsParameter = false := ht
      rw [qualifiedName_of_ofRef hcomponent hresolved]
  | parameter name => cases ht

/-- A description is resolved to a type of its name. -/
theorem isNamed_of_ofDescription {c : Catalog} {d : TypeDescription}
    {arguments : Option (List TypeRef)} {t : TypeMetadata}
    (h : ofDescription c d arguments = .ok t) : IsNamed c d.qualifiedName t := by
  unfold ofDescription at h
  split at h
  · exact isNamed_of_ofRef h
  · split at h
    · exact isNamed_of_ofRef h
    · cases h

/-- A type without type parameters is resolved with no other arguments than none. An empty list of
arguments and no list at all are the same here. -/
theorem ofDescription_none_of_eq_ok {c : Catalog} {d : TypeDescription}
    {arguments : Option (List TypeRef)} {t : TypeMetadata}
    (h : ofDescription c d arguments = .ok t) (hparameters : d.typeParameters = []) :
    ofDescription c d none = .ok t := by
  unfold ofDescription at h ⊢
  cases arguments with
  | none => exact h
  | some arguments =>
    simp only [hparameters, List.length_nil, List.length_eq_zero_iff] at h
    split at h
    · next hnil =>
      subst hnil
      simp only [Catalog.defaultArguments, hparameters]
      exact h
    · cases h

end TypeMetadata

namespace ModelField

/-- The field of a model is described as in the catalog. -/
theorem description_of_resolve {c : Catalog} {owner : TypeMetadata} {d : TypeDescription}
    {index : Nat} {f : FieldDescription} {fld : ModelField}
    (h : ModelField.resolve c owner d index f = .ok fld) : fld.description = f := by
  unfold ModelField.resolve at h
  obtain ⟨resolved, -, h⟩ := bind_eq_ok_iff.mp h
  cases h
  rfl

end ModelField

namespace Model

variable {c : Catalog} {request : Request} {m : Model}

/-- What the catalog decides about the model of a request. What is left open are the type arguments
and the types of the fields. -/
structure IsOf (c : Catalog) (request : Request) (m : Model) : Prop where
  /-- The description is the one under the requested name. -/
  description : c.get? request.typeName = some m.description
  /-- The type has the requested name. -/
  type : TypeMetadata.IsNamed c request.typeName m.type
  /-- The fields are those of the description that are not static. -/
  fields : m.fields.map (·.description) = m.description.fields.filter fun f => !f.isStatic

/-- The model of a request is what the catalog decides about it. Fields keep their descriptions
when they are resolved, so they are the described ones that are not static. -/
theorem isOf_of_resolve (h : Model.resolve c request = .ok m) : m.IsOf c request := by
  unfold Model.resolve at h
  obtain ⟨d, hd, h⟩ := bind_eq_ok_iff.mp h
  obtain ⟨type, htype, h⟩ := bind_eq_ok_iff.mp h
  obtain ⟨fields, hfields, h⟩ := bind_eq_ok_iff.mp h
  cases h
  have hget := c.get?_of_require hd
  constructor
  case description => exact hget
  case type => exact c.qualifiedName_of_get? hget ▸ TypeMetadata.isNamed_of_ofDescription htype
  case fields =>
    -- Field by field the description is the one that the field is resolved from.
    have hsame : ∀ (p : FieldDescription × Nat) fld,
        ModelField.resolve c type d p.2 p.1 = .ok fld → p.1 = fld.description :=
      fun _ _ hfld => (ModelField.description_of_resolve hfld).symm
    have hmaps := List.forall₂_map_left_iff.mpr
      (List.forall₂_map_right_iff.mpr ((mapM_eq_ok_iff.mp hfields).imp hsame))
    rw [List.forall₂_eq_eq_eq] at hmaps
    rw [← hmaps]
    conv_rhs => rw [← List.zipIdx_map_fst 0 d.fields, List.filter_map]
    rfl

/-- The model of a request is for the type of the request. -/
theorem qualifiedName_of_resolve (h : Model.resolve c request = .ok m) :
    m.type.qualifiedName = request.typeName := by
  obtain ⟨arguments, parameters, htype⟩ := (isOf_of_resolve h).type
  rw [htype]
  rfl

/-- A type without type parameters has the same model in every request that has one: the arguments
enter through the type only, and there is no choice of it. -/
theorem resolve_none_of_resolve (h : Model.resolve c request = .ok m)
    (hparameters : m.description.typeParameters = []) :
    Model.resolve c ⟨request.typeName, none⟩ = .ok m := by
  unfold Model.resolve at h ⊢
  obtain ⟨d, hd, h⟩ := bind_eq_ok_iff.mp h
  obtain ⟨type, htype, h⟩ := bind_eq_ok_iff.mp h
  have hd' : d = m.description := by
    obtain ⟨fields, -, h⟩ := bind_eq_ok_iff.mp h
    cases h
    rfl
  rw [← hd'] at hparameters
  refine bind_eq_ok_iff.mpr ⟨d, hd, bind_eq_ok_iff.mpr ⟨type, ?_, h⟩⟩
  exact TypeMetadata.ofDescription_none_of_eq_ok htype hparameters

end Model

end Fixtures
