import Fixtures.Proofs.Metadata
import Fixtures.Proofs.Pipeline
import Fixtures.Proofs.Render

/-!
# `Fixtures.Proofs.Provider.Keys`: the key of a directive and the name of a field's type

One text can be the key of a directive of a type and the declared type of one of its fields. As a
key it is trimmed, read, qualified inside the package of the type and left without its arguments.
As the type of a field it is read, its names among the type parameters are bound, it is qualified
inside the package of the description, its parameters are replaced, and then it is resolved to a
type with a qualified name. Where the text mentions no type parameter, binding and replacing do
nothing, and resolving keeps the name. So both ways lead to one name
(`qualifiedName_of_normalKey`), and `consulted_of_normalKey` says what follows for the providers
of a pass: the first provider for the field is the one of the last directive under that name.

It need not be the one of the text itself, as `not_consulted_of_normalKey` shows: a type may be
written by its short name and in full, and then one of the two directives is lost.
-/

set_option autoImplicit false

namespace Fixtures

/-- The package of a model is that of its description, if its name has no dot. -/
theorem Model.package_of_resolve {c : Catalog} {request : Request} {m : Model}
    (h : Model.resolve c request = .ok m) (hname : '.' ∉ m.description.name.toList) :
    m.package = m.description.package := by
  have hm := Model.isOf_of_resolve h
  obtain ⟨arguments, parameters, htype⟩ := hm.type
  rw [Model.package, htype, TypeMetadata.packageName, ← c.qualifiedName_of_get? hm.description]
  exact Library.packageName_qualify hname

/-- A text that mentions no type parameter of a described type is, as the type of a field, resolved
to a type of the name that the text means inside the package. -/
theorem ModelField.qualifiedName_of_resolve {c : Catalog} {owner : TypeMetadata}
    {d : TypeDescription} {index : Nat} {f : FieldDescription} {fld : ModelField}
    (h : ModelField.resolve c owner d index f = .ok fld)
    (hparameter : f.type.containsParameter = false)
    (hnames : ∀ name ∈ f.type.declaredNames, name ∉ d.parameterNames) :
    fld.resolved.qualifiedName = (c.qualifyType d.package f.type).erasure := by
  obtain ⟨hdeclared, hresolved⟩ := ModelField.ofRef_of_resolve h
  -- Binding finds no name to bind, and qualified names bring in no parameter to replace.
  have hfree : (c.qualifyType d.package f.type).containsParameter = false := by
    rw [TypeRef.containsParameter_eq_false_iff] at hparameter ⊢
    intro p hp
    exact hparameter p (TypeRef.occurs_mapNames_iff.mp hp)
  rw [hdeclared, TypeRef.bindParameters_eq_self hnames, TypeRef.substitute_eq_self hfree]
    at hresolved
  exact TypeMetadata.qualifiedName_of_ofRef hfree hresolved

namespace ProviderTable

/-- The key of a text that is no shape tag is the name that its type has inside the package.
Arguments are left out of it, and brackets stay. -/
theorem eq_erasure_of_normalKey {c : Catalog} {package text key : String} {t : TypeRef}
    (ht : TypeRef.parse text = .ok t) (htag : ValueShape.isTag (Text.trim text) = false)
    (h : normalKey c package text = .ok key) : key = (c.qualifyType package t).erasure := by
  unfold normalKey at h
  simp only [htag, Bool.false_eq_true, if_false] at h
  split at h
  · cases h
  · next u hu =>
    -- The key was read without its blanks, the type of the field with them.
    have hsame : u = t := Except.ok.inj ((TypeRef.parse_of_parse_trim hu).symm.trans ht)
    split at h
    · cases h
      rw [hsame]
    · cases h

section

variable {c : Catalog} {request : Request} {m : Model} {text : String} {t : TypeRef}
  {fld : ModelField}

/-- A key of a model has the qualified name of every field of the same type, if it is no shape tag
and mentions no type parameter. Both are the erasure of one qualified type. -/
theorem qualifiedName_of_normalKey (hm : Model.resolve c request = .ok m)
    (hname : '.' ∉ m.description.name.toList) (ht : TypeRef.parse text = .ok t)
    (htag : ValueShape.isTag (Text.trim text) = false)
    (hnames : ∀ name ∈ t.declaredNames, name ∉ m.description.parameterNames)
    (hfld : fld ∈ m.fields) (htype : fld.description.type = t) {key : String}
    (hkey : normalKey c m.package text = .ok key) : key = fld.resolved.qualifiedName := by
  obtain ⟨f, -, index, hmade⟩ := Model.exists_resolve_of_mem_fields hm hfld
  obtain rfl := ModelField.description_of_resolve hmade
  subst htype
  rw [eq_erasure_of_normalKey ht htag hkey, Model.package_of_resolve hm hname]
  exact (ModelField.qualifiedName_of_resolve hmade (TypeRef.containsParameter_of_parse ht)
    hnames).symm

/-- A text that is a key of a type and the type of one of its fields, and that is no shape tag and
mentions no type parameter, has the qualified name of the field's type as its key. In a pass the
provider under this key, which is that of the last directive under it, is the first one for the
field: its text is the value, and only if it declines or fails the shape tag is looked up. It is
the provider of the text itself exactly if the last directive under the key has the same source. -/
theorem consulted_of_normalKey (hm : Model.resolve c request = .ok m)
    (hname : '.' ∉ m.description.name.toList) (ht : TypeRef.parse text = .ok t)
    (htag : ValueShape.isTag (Text.trim text) = false)
    (hnames : ∀ name ∈ t.declaredNames, name ∉ m.description.parameterNames)
    (hfld : fld ∈ m.fields) (htype : fld.description.type = t) :
    (∀ key, normalKey c m.package text = .ok key → key = fld.resolved.qualifiedName) ∧
    ∀ (e : Engine) (p : Pipeline) (source : String), e.catalog = c → e.pipeline m = .ok p →
      (text, source) ∈ m.description.providers.entries →
      ∃ last provider,
        last? c m.package m.description.providers.entries fld.resolved.qualifiedName = some last ∧
        Provider.compile? last.2 = .ok provider ∧
        p.providers.get? fld.resolved.qualifiedName = some provider ∧
        (Provider.compile? source = .ok provider ↔ last.2 = source) ∧
        ∀ uuids given after, (provider.provide ⟨fld, p.owner⟩).run uuids = (given, after) →
          (∀ value, given = .ok (some value) → (p.resolve fld).run uuids = (value, after)) ∧
          (given.toOption.join = none → ∀ value final,
            (p.resolve fld).run uuids = (value, final) ↔
              p.Consults fld [(ValueShape.ofType fld.resolved).tag] after (some value) final ∨
                ∃ next, p.Consults fld [(ValueShape.ofType fld.resolved).tag] after none next ∧
                  (p.builtIn fld).run next = (value, final)) := by
  have hkey : ∀ key, normalKey c m.package text = .ok key → key = fld.resolved.qualifiedName :=
    fun key => qualifiedName_of_normalKey hm hname ht htag hnames hfld htype
  refine ⟨hkey, fun e p source hc hp hd => ?_⟩
  subst hc
  obtain ⟨own, hown, -⟩ := bind_eq_ok_iff.mp hp
  obtain ⟨key, -, hnormal, -⟩ := isSound_of_compile hown hd
  obtain rfl := hkey key hnormal
  obtain ⟨last, provider, hlast, hprovider, hget⟩ := exists_last?_of_compile hown hd hnormal
  -- The type has a directive under the key, so that of the settings does not matter.
  have hfound : p.providers.get? fld.resolved.qualifiedName = some provider := by
    rw [Pipeline.get?_providers hp, hlast, Option.bind_some, hprovider]
    rfl
  refine ⟨last, provider, hlast, hprovider, hfound, ⟨fun hsource => ?_, ?_⟩,
    fun uuids given after hrun => ⟨?_, fun hnone value final => ?_⟩⟩
  · -- A provider knows the source that it is compiled from.
    rw [← Provider.source_of_compile? hprovider, Provider.source_of_compile? hsource]
  · rintro rfl
    exact hprovider
  · rintro value rfl
    exact Pipeline.run_resolve_eq_iff.mpr (.inl (.gives hfound hrun))
  · rw [Pipeline.run_resolve_eq_iff, Pipeline.keys]
    simp only [Pipeline.consults_cons_iff hfound hrun hnone]

end

/-- An engine without settings, for a class with directives and a field. -/
def singleEngine (type : TypeRef) (providers : NameMap String) : Engine where
  catalog := Pipeline.single type providers
  config := {}
  defaults := .empty
  isValid := rfl
  isCompiled := rfl

/-- Arrays of maps in short names, with blanks. -/
def grid : String := " Map< String ,int[] > [] "

/-- The type that is written so. -/
def gridType : TypeRef := .array (.declared "Map" [.named "String", .array (.primitive .int)])

/-- The engine for a field of this type, with a directive for it. -/
def gridEngine : Engine :=
  singleEngine gridType ⟨[(grid, "'grid'")], List.pairwise_singleton _ _⟩

/-- The directive for arrays of maps gives the value of the field of that type. -/
theorem consulted_of_normalKey_grid :
    ∃ (m : Model) (fld : ModelField) (p : Pipeline) (provider : Provider),
      Model.resolve gridEngine.catalog ⟨"shop.Item", none⟩ = .ok m ∧ fld ∈ m.fields ∧
      gridEngine.pipeline m = .ok p ∧ TypeRef.parse grid = .ok fld.description.type ∧
      normalKey gridEngine.catalog m.package grid = .ok "java.util.Map[]" ∧
      fld.resolved.qualifiedName = "java.util.Map[]" ∧ Provider.compile? "'grid'" = .ok provider ∧
      p.providers.get? "java.util.Map[]" = some provider ∧
      ((p.resolve fld).run (.ofSeed 0)).1 = "grid" := by
  have hparse : (TypeRef.parse grid).toOption = some gridType := by decide +kernel
  have hitem :
      ((Model.resolve gridEngine.catalog ⟨"shop.Item", none⟩).toOption.bind fun m =>
        (gridEngine.pipeline m).toOption.bind fun p => m.fields.head?.map fun fld =>
          decide (fld.description.type = gridType ∧ '.' ∉ m.description.name.toList ∧
            m.description.parameterNames = [] ∧
            m.description.providers.entries = [(grid, "'grid'")] ∧
            (normalKey gridEngine.catalog m.package grid).toOption = some "java.util.Map[]" ∧
            ((p.resolve fld).run (.ofSeed 0)).1 = "grid")) =
      some true := by
    decide +kernel
  obtain ⟨m, hm, hitem⟩ := Option.bind_eq_some_iff.mp hitem
  obtain ⟨p, hp, hitem⟩ := Option.bind_eq_some_iff.mp hitem
  obtain ⟨fld, hfld, hitem⟩ := Option.map_eq_some_iff.mp hitem
  obtain ⟨htype, hname, hparameters, hentries, hkey, hvalue⟩ := of_decide_eq_true hitem
  have hm := toOption_eq_some_iff.mp hm
  have hp := toOption_eq_some_iff.mp hp
  have hfld := List.mem_of_head? hfld
  have hparse := toOption_eq_some_iff.mp hparse
  have hkey := toOption_eq_some_iff.mp hkey
  obtain ⟨hsame, hpass⟩ := consulted_of_normalKey hm hname hparse (by decide +kernel)
    (fun name _ => hparameters ▸ List.not_mem_nil) hfld htype
  obtain ⟨last, provider, hlast, hprovider, hget, -, -⟩ := hpass gridEngine p "'grid'" rfl hp
    (hentries ▸ List.mem_cons_self)
  -- There is no other directive.
  obtain rfl : last = (grid, "'grid'") :=
    List.mem_singleton.mp (hentries ▸ (mem_of_last? hlast).1)
  have hqualified := hsame _ hkey
  rw [← hqualified] at hget
  exact ⟨m, fld, p, provider, hm, hfld, hp, htype ▸ hparse, hkey, hqualified.symm, hprovider, hget,
    hvalue⟩

/-- The provider of a key need not be consulted for a field of the same type. A directive for
texts is lost where another one names their type in full. -/
theorem not_consulted_of_normalKey :
    ¬ ∀ (e : Engine) (request : Request) (m : Model) (p : Pipeline) (text source : String)
        (t : TypeRef) (fld : ModelField),
      Model.resolve e.catalog request = .ok m → '.' ∉ m.description.name.toList →
      TypeRef.parse text = .ok t → ValueShape.isTag text = false →
      ValueShape.isTag (Text.trim text) = false →
      (∀ name ∈ t.declaredNames, name ∉ m.description.parameterNames) →
      fld ∈ m.fields → fld.description.type = t → e.pipeline m = .ok p →
      (text, source) ∈ m.description.providers.entries →
      ∃ provider, Provider.compile? source = .ok provider ∧
        p.providers.get? fld.resolved.qualifiedName = some provider := by
  intro hall
  have hparse : (TypeRef.parse "String").toOption = some (.named "String") := by decide +kernel
  have hitem :
      ((Model.resolve (singleEngine (.named "String") twice).catalog
          ⟨"shop.Item", none⟩).toOption.bind
        fun m => ((singleEngine (.named "String") twice).pipeline m).toOption.bind fun p =>
          m.fields.head?.map fun fld =>
            decide (fld.description.type = .named "String" ∧ '.' ∉ m.description.name.toList ∧
              m.description.parameterNames = [] ∧
              ("String", "'short'") ∈ m.description.providers.entries ∧
              (p.providers.get? fld.resolved.qualifiedName).map (·.source) = some "'full'")) =
      some true := by
    decide +kernel
  obtain ⟨m, hm, hitem⟩ := Option.bind_eq_some_iff.mp hitem
  obtain ⟨p, hp, hitem⟩ := Option.bind_eq_some_iff.mp hitem
  obtain ⟨fld, hfld, hitem⟩ := Option.map_eq_some_iff.mp hitem
  obtain ⟨htype, hname, hparameters, hmem, hfull⟩ := of_decide_eq_true hitem
  obtain ⟨provider, hprovider, hget⟩ := hall _ _ m p "String" "'short'" _ fld
    (toOption_eq_some_iff.mp hm) hname (toOption_eq_some_iff.mp hparse) (by decide +kernel)
    (by decide +kernel) (fun name _ => hparameters ▸ List.not_mem_nil) (List.mem_of_head? hfld)
    htype (toOption_eq_some_iff.mp hp) hmem
  rw [hget, Option.map_some, Provider.source_of_compile? hprovider] at hfull
  exact absurd hfull (by decide)

end ProviderTable

end Fixtures
