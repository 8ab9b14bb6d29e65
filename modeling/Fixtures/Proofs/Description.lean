import Fixtures.Command
import Fixtures.Proofs.Metadata

/-!
# `Fixtures.Proofs.Description`: what is read has no type parameters

The types of descriptions and of requests are written as texts, and a text never stands for a type
parameter (`TypeRef.containsParameter_of_parse`). It is only later that the names of an owner's
parameters are bound. So all requests that are read are closed (`Request.isClosed_of_read`), and so
are all catalogs that are loaded (`Catalog.isClosed_of_load`). Together they leave no type parameter
in any type of a model (`Model.containsParameter_of_load`).

A reader goes through the fields of a record one by one. What it gives is known from what it has
given for the one field that matters, and the lemmas on `Record` and `Document` say so for a field
that may be missing and for a list.
-/

set_option autoImplicit false

namespace Fixtures

variable {ν α : Type}

/-! ### Fields and lists -/

/-- A field has its default, or else what is read. The default stands for a missing field, and what
is there has to be readable. -/
theorem Record.of_withDefault {r : Record ν} {key : String} {read : ν → Option α} {default a : α}
    (h : r.withDefault key read default = some a) : a = default ∨ ∃ v, read v = some a := by
  unfold withDefault at h
  split at h
  · exact .inl (Option.some.inj h).symm
  · next v _ => exact .inr ⟨v, h⟩

variable [Document ν]

/-- What is there of a field that may be missing is read. Also an absent value counts as missing,
and then nothing is. -/
theorem Document.exists_of_optional {r : Record ν} {key : String} {read : ν → Option α} {a : α}
    (h : optional r key read = some (some a)) : ∃ v, read v = some a := by
  obtain h | ⟨v, h⟩ := Record.of_withDefault h
  · cases h
  · obtain ⟨content, -, h⟩ := Option.bind_eq_some_iff.mp h
    cases content with
    | none => cases h
    | some v =>
      obtain ⟨a', hread, ha⟩ := Option.map_eq_some_iff.mp h
      obtain rfl : a' = a := Option.some.inj ha
      exact ⟨v, hread⟩

/-- The items of a list are read one by one, so each that comes out was read from an item. -/
theorem Document.exists_of_mem_list {read : ν → Option α} {v : ν} {as : List α} {a : α}
    (h : list? read v = some as) (ha : a ∈ as) : ∃ item, read item = some a := by
  obtain ⟨items, -, hitems⟩ := Option.bind_eq_some_iff.mp h
  clear h
  induction items generalizing as with
  | nil =>
    cases hitems
    cases ha
  | cons item items ih =>
    simp only [List.mapM_cons, Option.bind_eq_bind, Option.bind_eq_some_iff, Option.pure_def,
      Option.some.injEq] at hitems
    obtain ⟨first, hfirst, rest, hrest, rfl⟩ := hitems
    rcases List.mem_cons.mp ha with rfl | ha
    · exact ⟨item, hfirst⟩
    · exact ih ha hrest

/-! ### Types, fields and requests -/

/-- A type that is read has no type parameters. -/
theorem TypeRef.containsParameter_of_read {v : ν} {t : TypeRef} (h : TypeRef.read? v = some t) :
    t.containsParameter = false := by
  obtain ⟨text, -, h⟩ := Option.bind_eq_some_iff.mp h
  exact containsParameter_of_parse (toOption_eq_some_iff.mp h)

/-- A request that is read writes no type parameters: its arguments are texts, and a text is read
as a type without them. -/
theorem Request.isClosed_of_read {v : ν} {request : Request} (h : Request.read? v = some request) :
    request.IsClosed := by
  unfold read? at h
  simp only [Option.bind_eq_bind, Option.bind_eq_some_iff, Option.pure_def, Option.some.injEq] at h
  obtain ⟨r, -, typeName, -, typeArguments, harguments, rfl⟩ := h
  intro argument hargument
  cases typeArguments with
  | none => cases hargument
  | some arguments =>
    obtain ⟨items, hitems⟩ := Document.exists_of_optional harguments
    obtain ⟨item, hitem⟩ := Document.exists_of_mem_list hitems hargument
    exact TypeRef.containsParameter_of_read hitem

/-- The type of a field that was read was read as a type. -/
theorem FieldDescription.exists_of_read {v : ν} {f : FieldDescription}
    (h : read? v = some f) : ∃ type : ν, TypeRef.read? type = some f.type := by
  unfold read? at h
  simp only [Option.bind_eq_bind, Option.bind_eq_some_iff, Option.pure_def, Option.some.injEq] at h
  obtain ⟨r, -, name, -, type, htype, isStatic, -, isTransient, -, constants, -, rfl⟩ := h
  obtain ⟨item, -, hitem⟩ := Option.bind_eq_some_iff.mp htype
  exact ⟨item, hitem⟩

/-- No type parameter stands in the type of a field that is read. -/
theorem FieldDescription.containsParameter_of_read {v : ν} {f : FieldDescription}
    (h : FieldDescription.read? v = some f) : f.type.containsParameter = false := by
  obtain ⟨type, htype⟩ := exists_of_read h
  exact TypeRef.containsParameter_of_read htype

/-- Nor in the type of any field of a type that is read. Of the fields of this record only the list
of fields is looked at, the others are read past. -/
theorem TypeDescription.containsParameter_of_read {v : ν} {d : TypeDescription}
    (h : TypeDescription.read? v = some d) :
    ∀ f ∈ d.fields, f.type.containsParameter = false := by
  unfold read? at h
  simp only [Option.bind_eq_bind, Option.bind_eq_some_iff, Option.pure_def, Option.some.injEq] at h
  obtain ⟨r, -, package, -, name, -, kind, -, typeParameters, -, fields, hfields, -, -, -, -, -, -,
    -, -, rfl⟩ := h
  intro f hf
  obtain rfl | ⟨items, hitems⟩ := Record.of_withDefault hfields
  · cases hf
  · obtain ⟨item, hitem⟩ := Document.exists_of_mem_list hitems hf
    exact FieldDescription.containsParameter_of_read hitem

/-! ### Catalogs -/

namespace Catalog

/-- What is listed after a description is added was listed before, or is the added one. -/
theorem mem_toList_of_insert {c after : Catalog} {d d' : TypeDescription}
    (h : c.insert d = .ok after) (hd : d' ∈ after.toList) : d' = d ∨ d' ∈ c.toList := by
  unfold insert at h
  split at h
  · cases h
  · cases h
    obtain ⟨entry, hentry, rfl⟩ := List.mem_map.mp hd
    rcases NameMap.mem_put hentry with rfl | hentry
    · exact .inl rfl
    · exact .inr (List.mem_map_of_mem hentry)

/-- A catalog lists the descriptions that it is made of, and no others. The induction is for any
catalog to start from, as the one grows with each description. -/
theorem mem_of_foldlM_insert {c after : Catalog} {ds : List TypeDescription} {d : TypeDescription}
    (h : ds.foldlM insert c = .ok after) (hd : d ∈ after.toList) : d ∈ ds ∨ d ∈ c.toList := by
  induction ds generalizing c with
  | nil =>
    cases h
    exact .inr hd
  | cons first rest ih =>
    rw [List.foldlM_cons] at h
    obtain ⟨next, hnext, h⟩ := bind_eq_ok_iff.mp h
    rcases ih h with hd | hd
    · exact .inl (List.mem_cons_of_mem _ hd)
    · rcases mem_toList_of_insert hnext hd with rfl | hd
      · exact .inl List.mem_cons_self
      · exact .inr hd

/-- A catalog of descriptions that are read has no type parameters in the types of fields. -/
theorem isClosed_of_descriptions {v : ν} {ds : List TypeDescription} {c : Catalog}
    (hds : descriptions? v = some ds) (h : ofList ds = .ok c) : c.IsClosed := by
  intro d hd
  rcases mem_of_foldlM_insert h hd with hd | hd
  · obtain ⟨item, hitem⟩ := Document.exists_of_mem_list hds hd
    exact TypeDescription.containsParameter_of_read hitem
  · cases hd

/-- The descriptions of a catalog file are read from its value in one format or the other. -/
theorem descriptions_of_readDescriptions {path text : String} {ds : List TypeDescription}
    (h : readDescriptions path text = .ok ds) :
    (∃ v : Yaml.Value, descriptions? v = some ds) ∨ ∃ v : Json, descriptions? v = some ds := by
  unfold readDescriptions at h
  split at h
  · split at h
    · next hread =>
      cases h
      obtain ⟨v, -, hread⟩ := Option.bind_eq_some_iff.mp hread
      exact .inl ⟨v, hread⟩
    · cases h
  · split at h
    · next hread =>
      cases h
      obtain ⟨v, -, hread⟩ := Option.bind_eq_some_iff.mp hread
      exact .inr ⟨v, hread⟩
    · cases h

/-- A catalog that is loaded has no type parameters in the types of fields. The type parameters of
a description are names in these types until a field is resolved. -/
theorem isClosed_of_load {files : FileTree} {path : String} {c : Catalog}
    (h : load files path = .ok c) : c.IsClosed := by
  unfold load at h
  split at h
  · cases h
  · obtain ⟨ds, hds, h⟩ := bind_eq_ok_iff.mp h
    have hmade := mapError_eq_ok_iff.mp h
    rcases descriptions_of_readDescriptions hds with ⟨v, hv⟩ | ⟨v, hv⟩
    · exact isClosed_of_descriptions hv hmade
    · exact isClosed_of_descriptions hv hmade

end Catalog

/-- Every type that the model of a request mentions has the parameters that the catalog knows of it
and no type parameter, if the catalog was loaded and the request was read. -/
theorem Model.containsParameter_of_load {files : FileTree} {path : String} {c : Catalog} {v : ν}
    {request : Request} {m : Model} {t : TypeMetadata} (hc : Catalog.load files path = .ok c)
    (hrequest : Request.read? v = some request) (h : Model.resolve c request = .ok m)
    (ht : m.Mentions t) : t.HasKnownParameters c ∧ t.typeRef.containsParameter = false := by
  have hsettled := settled_of_mentions (Catalog.isClosed_of_load hc) h ht
  have hclosed := Request.isClosed_of_read hrequest
  exact ⟨hsettled.parameters, containsParameter_of_isClosed hsettled hclosed⟩

end Fixtures
