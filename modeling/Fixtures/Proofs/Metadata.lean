import Fixtures.Proofs.Model
import Fixtures.Proofs.TypeRef.Parameters

/-!
# `Fixtures.Proofs.Metadata`: what is in the types of a model

A resolved type is a tree: an array has a component, and a declared type has what its parameters
stand for. Each of these trees is made in several ways, from written arguments, from default
arguments, and through what the parameters of an owner stand for. `IsSettled` is what all of them
have in common: the parameters are the described ones, or numbered ones where there is no
description, and no type parameter is left but allowed ones.

The way to a whole model: what is resolved from a type with allowed type parameters is settled, by
induction on the resolved type (`settled_of_ofRef`). A field's type is made of what the parameters
of the owner stand for, which is settled as part of the owner (`ModelField.settled_of_resolve`).

Allowed are the type parameters that the request itself writes. Requests are read from texts, as
descriptions are, and then there are none. But a request may also be made without a text, and then
its type parameters stay where they are (`not_containsParameter_of_mentions`).
-/

set_option autoImplicit false

namespace Fixtures

open TypeRef (Occurs)

/-! ### The parts of a resolved type -/

namespace TypeMetadata

/-- A resolved type is a part of another one, at any depth: the type itself, or a part of its
component or of what one of its parameters stands for. -/
inductive Within (s : TypeMetadata) : TypeMetadata → Prop
  | self : Within s s
  | component {written : TypeRef} {t : TypeMetadata} : Within s t → Within s (.array written t)
  | parameter {name : String} {arguments : List TypeRef}
      {parameters : List (String × TypeMetadata)} {origin : Origin}
      {parameter : String × TypeMetadata} : parameter ∈ parameters → Within s parameter.2 →
      Within s (.declared name arguments parameters origin)

/-- What a parameter stands for is a part of the type. Only declared types bind parameters, so the
other shapes of a resolved type have nothing to show here. -/
theorem within_of_binding? {t image : TypeMetadata} {name : String}
    (h : t.binding? name = some image) : image.Within t := by
  obtain ⟨before, after, hparameters, -⟩ := List.lookup_eq_some_iff.mp h
  have hmem : (name, image) ∈ t.parameters := by
    rw [hparameters]
    simp
  cases t with
  | declared _ _ parameters _ => exact .parameter hmem .self
  | _ => cases hmem

/-- A declared type has as many parameters as arguments, and they have the right names: those that
the catalog describes, in the described order, or `arg0`, `arg1` and so on without a description. -/
def HasKnownParameters (c : Catalog) : TypeMetadata → Prop
  | primitive _ => True
  | array _ _ => True
  | declared name arguments parameters _ =>
    arguments.length = parameters.length ∧
      (∀ d, c.get? name = some d → parameters.map (·.1) = d.typeParameters.map (·.name)) ∧
      (c.get? name = none →
        parameters.map (·.1) = (List.range arguments.length).map fun i => "arg" ++ toString i)

/-- These are the names that resolution gives to the parameters. -/
theorem hasKnownParameters_declared_iff {c : Catalog} {name : String} {arguments : List TypeRef}
    {parameters : List (String × TypeMetadata)} {origin : Origin} :
    (declared name arguments parameters origin).HasKnownParameters c ↔
      parameters.map (·.1) = knownNames c name arguments ∧
        arguments.length = parameters.length := by
  rw [HasKnownParameters, knownNames, and_comm]
  refine and_congr_left fun _ => ?_
  cases hget : c.get? name with
  | none => simp [positionalNames]
  | some d => simp [TypeDescription.parameterNames]

/-- The parameters of a type are the known ones, and only allowed type parameters are left in its
arguments. Which are allowed is left open here: a description has none of its own left, and a
request may write some. -/
structure IsSettled (c : Catalog) (allowed : String → Prop) (t : TypeMetadata) : Prop where
  parameters : t.HasKnownParameters c
  occurs : ∀ p, Occurs p t.typeRef → allowed p

/-- All parts of a type are settled, the type itself included. This is the form that an induction
on the resolved type carries. -/
def Settled (c : Catalog) (allowed : String → Prop) (t : TypeMetadata) : Prop :=
  ∀ s : TypeMetadata, s.Within t → s.IsSettled c allowed

end TypeMetadata

/-- No type parameter stands in the type of a described field. In a description the parameters of
its type are names like others. -/
def Catalog.IsClosed (c : Catalog) : Prop :=
  ∀ d ∈ c.toList, ∀ f ∈ d.fields, f.type.containsParameter = false

/-- A type parameter stands in an argument of a request, at any depth. -/
def Request.Writes (request : Request) (p : String) : Prop :=
  ∃ argument ∈ request.typeArguments.getD [], Occurs p argument

/-- No type parameter stands in the arguments of a request. So it is with requests that are written
as text. -/
def Request.IsClosed (request : Request) : Prop :=
  ∀ argument ∈ request.typeArguments.getD [], argument.containsParameter = false

/-- A resolved type is the one of a model or of one of its fields, or a part of one of these. These
are all the types that a model has, but for those that are only written. -/
def Model.Mentions (m : Model) (t : TypeMetadata) : Prop :=
  t.Within m.type ∨ ∃ f ∈ m.fields, t.Within f.resolved

/-! ### Default arguments have no type parameters -/

namespace Catalog

variable {c : Catalog} {p : String}

theorem not_occurs_object : ¬ Occurs p object := by
  simp [object, TypeRef.named, TypeRef.occurs_declared_iff]

/-- A list of types is gone through one by one. The two functions are defined together, since a
type holds a list of types, and this takes them apart again. -/
theorem eraseAllRaw_eq (c : Catalog) (ts : List TypeRef) :
    c.eraseAllRaw ts = ts.map c.eraseRaw := by
  induction ts with
  | nil => rfl
  | cons t ts ih => simp [eraseAllRaw, ih]

/-- Arguments for raw uses bring in no type parameter: those given to a raw type are the root
object type, and everything else is kept as it was written. -/
theorem occurs_eraseRaw {t : TypeRef} (h : Occurs p (c.eraseRaw t)) : Occurs p t := by
  induction t using TypeRef.induction with
  | primitive kind => exact h
  | declared name arguments ih =>
    cases arguments with
    -- A raw use of a described generic type is where arguments come in.
    | nil =>
      rw [eraseRaw] at h
      split at h
      · obtain ⟨t, ht, h⟩ := TypeRef.occurs_declared_iff.mp h
        obtain ⟨-, -, rfl⟩ := List.mem_map.mp ht
        exact absurd h not_occurs_object
      · exact h
    | cons argument arguments =>
      have hall : c.eraseRaw (.declared name (argument :: arguments))
          = .declared name ((argument :: arguments).map c.eraseRaw) := by
        rw [eraseRaw, eraseAllRaw_eq, List.map_cons]
      rw [hall, TypeRef.occurs_declared_iff] at h
      obtain ⟨erased, herased, h⟩ := h
      obtain ⟨t, ht, rfl⟩ := List.mem_map.mp herased
      exact .argument ht (ih t ht h)
  | array component ih => exact .component (ih (TypeRef.occurs_array_iff.mp h))
  | parameter name => exact h

/-- No type parameter is left in a default argument. A bound may name the parameters of its own
description, but the root object type replaces them, and it is the argument where there is no
bound. -/
theorem not_occurs_of_mem_defaultArguments {d : TypeDescription} {argument : TypeRef}
    (h : argument ∈ c.defaultArguments d) : ¬ Occurs p argument := by
  obtain ⟨parameter, -, rfl⟩ := List.mem_map.mp h
  split
  · exact not_occurs_object
  · intro hp
    obtain ⟨q, -, hp⟩ := TypeRef.occurs_substitute (occurs_eraseRaw hp)
    exact not_occurs_object hp

/-- No type parameter stands in a name with default arguments. -/
theorem not_occurs_completedName {name : String} : ¬ Occurs p (c.completedName name) := by
  unfold completedName
  split
  · intro h
    obtain ⟨t, ht, h⟩ := TypeRef.occurs_declared_iff.mp h
    exact not_occurs_of_mem_defaultArguments ht h
  · simp [TypeRef.named, TypeRef.occurs_declared_iff]

/-- A type is completed without type parameters that it has not. The converse fails: a type
parameter at the top is completed to the root object type. -/
theorem occurs_of_occurs_completed {t : TypeRef} (h : Occurs p (c.completed t)) : Occurs p t := by
  unfold completed at h
  split at h
  · exact absurd h not_occurs_completedName
  · exact absurd h not_occurs_completedName
  · exact h

end Catalog

/-! ### Resolution settles types -/

namespace TypeMetadata

variable {c : Catalog} {allowed : String → Prop}

theorem settled_primitive (kind : Primitive) : (primitive kind).Settled c allowed := by
  rintro s ⟨⟩
  exact ⟨trivial, fun p hp => absurd hp TypeRef.not_occurs_primitive⟩

theorem settled_array {written : TypeRef} {t : TypeMetadata}
    (hwritten : ∀ p, Occurs p written → allowed p) (ht : t.Settled c allowed) :
    (array written t).Settled c allowed := by
  rintro s (_ | hs)
  · exact ⟨trivial, fun p hp => hwritten p (TypeRef.occurs_array_iff.mp hp)⟩
  · exact ht s hs

/-- A declared type is settled with settled parameters under their names. What its arguments name
and what its parameters stand for are asked for apart, since they are made apart. -/
theorem settled_declared {name : String} {arguments : List TypeRef}
    {parameters : List (String × TypeMetadata)} {origin : Origin}
    (hnames : parameters.map (·.1) = knownNames c name arguments)
    (hlength : arguments.length = parameters.length)
    (hwritten : ∀ t ∈ arguments, ∀ p, Occurs p t → allowed p)
    (hparameters : ∀ parameter ∈ parameters, parameter.2.Settled c allowed) :
    (declared name arguments parameters origin).Settled c allowed := by
  rintro s (_ | _ | ⟨hmem, hs⟩)
  · refine ⟨hasKnownParameters_declared_iff.mpr ⟨hnames, hlength⟩, fun p hp => ?_⟩
    obtain ⟨t, ht, hp⟩ := TypeRef.occurs_declared_iff.mp hp
    exact hwritten t ht p hp
  · exact hparameters _ hmem s hs

/-- No type parameter comes in when a type is resolved. -/
theorem occurs_of_occurs_typeRef {t : TypeRef} {r : TypeMetadata} {p : String}
    (h : ofRef c t = .ok r) (hp : Occurs p r.typeRef) : Occurs p t :=
  Catalog.occurs_of_occurs_completed (typeRef_of_ofRef h ▸ hp)

/-- A type with allowed type parameters is resolved to a settled one. The induction is on the
resolved type: each part of it is resolved from an argument or a component, whose type parameters
are among those of the whole. -/
theorem settled_of_ofRef {t : TypeRef} {r : TypeMetadata} (ht : ∀ p, Occurs p t → allowed p)
    (h : ofRef c t = .ok r) : r.Settled c allowed := by
  induction r using TypeMetadata.induction generalizing t with
  | primitive kind => exact settled_primitive kind
  | array written component ih =>
    have hwritten : ∀ p, Occurs p written → allowed p :=
      fun p hp => ht p (occurs_of_occurs_typeRef h (.component hp))
    exact settled_array hwritten (ih hwritten (ofRef_of_ofRef_array h))
  | declared name arguments parameters origin ih =>
    obtain ⟨hnames, hresolved⟩ := forall₂_of_ofRef_declared h
    have hwritten : ∀ u ∈ arguments, ∀ p, Occurs p u → allowed p :=
      fun u hu p hp => ht p (occurs_of_occurs_typeRef h (.argument hu hp))
    -- Each parameter is resolved from the argument in its place.
    refine settled_declared hnames hresolved.length_eq hwritten fun parameter hparameter => ?_
    obtain ⟨u, hu, hmade⟩ := exists_of_mem_right hresolved hparameter
    exact ih parameter hparameter (hwritten u hu) hmade

end TypeMetadata

/-- A resolved type has the parameters that the catalog knows of it. -/
theorem TypeMetadata.hasKnownParameters_of_ofRef {c : Catalog} {t : TypeRef} {r : TypeMetadata}
    (h : ofRef c t = .ok r) : r.HasKnownParameters c := by
  have hr : r.Settled c fun _ => True := settled_of_ofRef (fun _ _ => trivial) h
  exact (hr r .self).parameters

/-! ### The types of a model -/

section

variable {c : Catalog} {d : TypeDescription}

/-- The type of a request is settled but for the type parameters that the request writes. Arguments
of a request have their names qualified before they are resolved, which leaves type parameters
where they are. -/
theorem TypeMetadata.settled_of_ofDescription {request : Request} {t : TypeMetadata}
    (h : ofDescription c d request.typeArguments = .ok t) : t.Settled c request.Writes := by
  unfold ofDescription at h
  split at h
  -- Without arguments in the request there are the default ones, which have no type parameters.
  · refine settled_of_ofRef (fun p hp => ?_) h
    obtain ⟨argument, hargument, hp⟩ := TypeRef.occurs_declared_iff.mp hp
    exact absurd hp (Catalog.not_occurs_of_mem_defaultArguments hargument)
  · next arguments hwritten =>
    split at h
    · refine settled_of_ofRef (fun p hp => ?_) h
      obtain ⟨argument, hargument, hp⟩ := TypeRef.occurs_declared_iff.mp hp
      obtain ⟨written, hmem, rfl⟩ := List.mem_map.mp hargument
      exact ⟨written, by rwa [hwritten], TypeRef.occurs_mapNames_iff.mp hp⟩
    · cases h

/-- The type of a request has the parameters that the catalog knows of it. -/
theorem TypeMetadata.hasKnownParameters_of_ofDescription {request : Request} {t : TypeMetadata}
    (h : ofDescription c d request.typeArguments = .ok t) : t.HasKnownParameters c :=
  (settled_of_ofDescription h t .self).parameters

/-- The type of a field is resolved from the declared one, with what the parameters of the owner
stand for in their places. Names that are parameters of the description become type parameters
first, and all others are qualified in the package of the description. -/
theorem ModelField.ofRef_of_resolve {owner : TypeMetadata} {index : Nat} {f : FieldDescription}
    {fld : ModelField} (h : ModelField.resolve c owner d index f = .ok fld) :
    fld.declared = c.qualifyType d.package (f.type.bindParameters d.parameterNames) ∧
      TypeMetadata.ofRef c (fld.declared.substitute fun name =>
        (owner.binding? name).map (·.typeRef)) = .ok fld.resolved := by
  obtain ⟨resolved, hresolved, h⟩ := bind_eq_ok_iff.mp h
  cases h
  exact ⟨rfl, hresolved⟩

/-- The type of a field is settled if the one of its owner is. Its type parameters come out of what
a parameter of the owner stands for, which is a part of the owner. -/
theorem ModelField.settled_of_resolve {allowed : String → Prop} {owner : TypeMetadata}
    {index : Nat} {f : FieldDescription} {fld : ModelField}
    (howner : owner.Settled c allowed) (hnames : owner.parameters.map (·.1) = d.parameterNames)
    (hf : f.type.containsParameter = false)
    (h : ModelField.resolve c owner d index f = .ok fld) : fld.resolved.Settled c allowed := by
  obtain ⟨hdeclared, hresolved⟩ := ofRef_of_resolve h
  refine TypeMetadata.settled_of_ofRef (fun p hp => ?_) hresolved
  obtain ⟨q, hq, hp⟩ := TypeRef.occurs_substitute hp
  rw [hdeclared] at hq
  -- What is replaced is a type parameter of the owner, which stands for a part of the owner.
  have hbound : q ∈ owner.parameters.map (·.1) := by
    rw [hnames]
    refine (TypeRef.occurs_bindParameters (TypeRef.occurs_mapNames_iff.mp hq)).resolve_right ?_
    exact TypeRef.containsParameter_eq_false_iff.mp hf q
  obtain ⟨image, himage⟩ : ∃ image, owner.binding? q = some image := by
    rw [TypeMetadata.binding?, ← Option.isSome_iff_exists, List.lookup_isSome_iff]
    obtain ⟨parameter, hmem, rfl⟩ := List.mem_map.mp hbound
    exact ⟨parameter, hmem, by simp⟩
  rw [himage] at hp
  exact (howner image (TypeMetadata.within_of_binding? himage)).occurs p hp

end

namespace Model

variable {c : Catalog} {request : Request} {m : Model} {t : TypeMetadata}

/-- The type of a model is resolved from its description and the arguments of the request. -/
theorem ofDescription_of_resolve (h : Model.resolve c request = .ok m) :
    TypeMetadata.ofDescription c m.description request.typeArguments = .ok m.type := by
  obtain ⟨d, -, h⟩ := bind_eq_ok_iff.mp h
  obtain ⟨type, htype, h⟩ := bind_eq_ok_iff.mp h
  obtain ⟨fields, -, h⟩ := bind_eq_ok_iff.mp h
  cases h
  exact htype

/-- A field of a model is resolved from a described one. -/
theorem exists_resolve_of_mem_fields (h : Model.resolve c request = .ok m) {fld : ModelField}
    (hfld : fld ∈ m.fields) :
    ∃ f ∈ m.description.fields, ∃ index,
      ModelField.resolve c m.type m.description index f = .ok fld := by
  obtain ⟨d, -, h⟩ := bind_eq_ok_iff.mp h
  obtain ⟨type, -, h⟩ := bind_eq_ok_iff.mp h
  obtain ⟨fields, hfields, h⟩ := bind_eq_ok_iff.mp h
  cases h
  obtain ⟨⟨f, index⟩, hf, hmade⟩ := exists_of_mem_mapM hfields hfld
  exact ⟨f, List.fst_mem_of_mem_zipIdx (List.mem_of_mem_filter hf), index, hmade⟩

/-- Every type that a model mentions is settled, but for the type parameters that the request
writes. For a part of the model's own type this is the settled request. For a part of a field's
type it is the settled owner, whose parameters are those of the description. -/
theorem settled_of_mentions (hc : c.IsClosed) (h : Model.resolve c request = .ok m)
    (ht : m.Mentions t) : t.IsSettled c request.Writes := by
  have htype := TypeMetadata.settled_of_ofDescription (ofDescription_of_resolve h)
  rcases ht with ht | ⟨fld, hfld, ht⟩
  · exact htype t ht
  · obtain ⟨f, hf, index, hmade⟩ := exists_resolve_of_mem_fields h hfld
    have hm := isOf_of_resolve h
    -- The parameters of the owner have the names of the described ones, as it is settled itself.
    have hnames : m.type.parameters.map (·.1) = m.description.parameterNames := by
      have hknown := (htype _ .self).parameters
      obtain ⟨arguments, parameters, hnamed⟩ := hm.type
      rw [hnamed] at hknown ⊢
      rw [← TypeMetadata.knownNames_of_get? hm.description arguments]
      exact (TypeMetadata.hasKnownParameters_declared_iff.mp hknown).1
    have hclosed := hc _ (c.mem_toList_of_get? hm.description) f hf
    exact ModelField.settled_of_resolve htype hnames hclosed hmade t ht

/-- A type that is settled but for what a request writes has no type parameter, if the request
writes none. -/
theorem containsParameter_of_isClosed (ht : t.IsSettled c request.Writes)
    (hrequest : request.IsClosed) : t.typeRef.containsParameter = false := by
  refine TypeRef.containsParameter_eq_false_iff.mpr fun p hp => ?_
  obtain ⟨argument, hargument, hp⟩ := ht.occurs p hp
  exact TypeRef.containsParameter_eq_false_iff.mp (hrequest argument hargument) p hp

/-- Every type that the model of a request mentions has the parameters that the catalog knows of
it. It has only the type parameters that the request writes, and none if the request writes none.
No type parameter comes out of the catalog: those of an owner are replaced by what they stand for,
and default arguments have none. -/
theorem isSettled_of_mentions (hc : c.IsClosed) (h : Model.resolve c request = .ok m)
    (ht : m.Mentions t) : t.HasKnownParameters c ∧
      (∀ p, Occurs p t.typeRef → ∃ argument ∈ request.typeArguments.getD [], Occurs p argument) ∧
      (request.IsClosed → t.typeRef.containsParameter = false) := by
  have hsettled := settled_of_mentions hc h ht
  exact ⟨hsettled.parameters, hsettled.occurs, containsParameter_of_isClosed hsettled⟩

/-! ### Crates

The parameter of a crate has a bound that is a raw use of another type with a parameter, and a
crate has a field of raw crates. -/

/-- A type of the store with one type parameter. -/
def storeType (name : String) (bound : Option TypeRef) (fields : List FieldDescription) :
    TypeDescription where
  package := "store"
  name
  kind := .classKind
  typeParameters := [⟨"T", bound⟩]
  fields
  enumConstants := []
  fixture := true
  providers := .empty
  creators := []

/-- The catalog of crates and shelves. -/
def crates : Catalog where
  types := ⟨[
    ("store.Crate", storeType "Crate" (some (.named "Shelf"))
      [⟨"spares", .array (.named "Crate"), false, false, []⟩,
        ⟨"contents", .declared "Map" [.named "T", .named "T"], false, false, []⟩]),
    ("store.Shelf", storeType "Shelf" none [])], by decide⟩
  named := by decide

/-- In a crate of integers there are spare crates of shelves of objects, and this is one of the
types that the model mentions. -/
theorem isSettled_of_mentions_crates : crates.IsClosed ∧ ∃ m t,
    Model.resolve crates ⟨"store.Crate", some [.named "Integer"]⟩ = .ok m ∧ m.Mentions t ∧
      t.typeRef = .declared "store.Shelf" [Catalog.object] ∧
      t.HasKnownParameters crates ∧ t.typeRef.containsParameter = false := by
  have hclosed : crates.IsClosed := by
    unfold Catalog.IsClosed
    decide +kernel
  have hread : ((Model.resolve crates ⟨"store.Crate", some [.named "Integer"]⟩).toOption.bind
      fun m => m.fields.head?.bind fun f => f.resolved.component?.bind fun crate =>
        crate.binding? "T").map (·.typeRef) = some (.declared "store.Shelf" [Catalog.object]) := by
    decide +kernel
  obtain ⟨t, hread, htype⟩ := Option.map_eq_some_iff.mp hread
  obtain ⟨m, hm, hread⟩ := Option.bind_eq_some_iff.mp hread
  obtain ⟨f, hf, hread⟩ := Option.bind_eq_some_iff.mp hread
  obtain ⟨crate, hcrate, hread⟩ := Option.bind_eq_some_iff.mp hread
  have hmade := toOption_eq_some_iff.mp hm
  have ht : m.Mentions t := by
    refine .inr ⟨f, List.mem_of_mem_head? hf, ?_⟩
    cases hresolved : f.resolved with
    | array written component =>
      rw [hresolved] at hcrate
      cases hcrate
      exact .component (TypeMetadata.within_of_binding? hread)
    | _ => simp [hresolved, TypeMetadata.component?] at hcrate
  obtain ⟨hknown, -, hnone⟩ := isSettled_of_mentions hclosed hmade ht
  exact ⟨hclosed, m, t, hmade, ht, htype, hknown,
    hnone (by unfold Request.IsClosed; decide +kernel)⟩

/-- A request that is not read from a text may have a type parameter as an argument. It stays in the
type of the crate, though what the parameter of the crate stands for is an object. -/
theorem not_containsParameter_of_mentions :
    ¬ ∀ (c : Catalog) (request : Request) (m : Model) (t : TypeMetadata), c.IsClosed →
      Model.resolve c request = .ok m → m.Mentions t → t.typeRef.containsParameter = false := by
  intro hnone
  have hclosed : crates.IsClosed := by
    unfold Catalog.IsClosed
    decide +kernel
  have hread : (Model.resolve crates ⟨"store.Crate", some [.parameter "T"]⟩).toOption.map
      (·.type.typeRef.containsParameter) = some true := by
    decide +kernel
  obtain ⟨m, hm, hcontains⟩ := Option.map_eq_some_iff.mp hread
  have hmade := toOption_eq_some_iff.mp hm
  rw [hnone crates _ m m.type hclosed hmade (.inl .self)] at hcontains
  cases hcontains

end Model

end Fixtures
