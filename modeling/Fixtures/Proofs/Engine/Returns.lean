import Fixtures.Proofs.Engine.References
import Fixtures.Proofs.Metadata

/-!
# `Fixtures.Proofs.Engine.Returns`: what the methods return that constants call

A constant without a word of its directive is a call of the first creation method of another
fixture. The other fixture is found under the qualified name of the field's type, and type
arguments are no part of this name. So the field and the method are of types of one name, and the
types are the same if they have the same arguments (`ModelField.Agrees`). That is so for types
without type parameters, and for a field without arguments when the request for the other fixture
has none either. `isAnswered_of_mem_outcomes` says it of every call in the report of a fresh run.

`not_typeRef_eq_of_mem_outcomes` shows that the arguments are not compared: a field of boxes of
strings calls a method that returns a box of objects.
-/

set_option autoImplicit false

namespace Fixtures

/-! ### The arguments of a resolved type -/

namespace TypeRef

/-- A class, interface or enum. Arrays and primitive types cannot be described, and no fixture is
for them. -/
def IsDeclared (t : TypeRef) : Prop := ∃ name arguments, t = declared name arguments

/-- The type arguments; none for a type that cannot have any. Two types of one name differ in these
only. -/
def arguments : TypeRef → List TypeRef
  | declared _ arguments => arguments
  | _ => []

end TypeRef

namespace TypeMetadata

variable {c : Catalog} {d : TypeDescription} {t : TypeMetadata}

/-- A declared type has the name that it is declared with, whatever its arguments are. -/
theorem qualifiedName_of_typeRef {name : String} {arguments : List TypeRef}
    (h : t.typeRef = .declared name arguments) : t.qualifiedName = name := by
  cases t with
  | declared =>
    cases h
    rfl
  | _ => cases h

/-- A described type without type parameters has no arguments. Its metadata could not have been
made with any. -/
theorem arguments_eq_nil {name : String} {arguments : List TypeRef}
    (ht : t.HasKnownParameters c) (htype : t.typeRef = .declared name arguments)
    (hget : c.get? name = some d) (hparameters : d.typeParameters = []) : arguments = [] := by
  cases t with
  | declared name' arguments' parameters origin =>
    cases htype
    obtain ⟨hlength, hdescribed, -⟩ := ht
    have hnames := hdescribed d hget
    rw [hparameters, List.map_nil, List.map_eq_nil_iff] at hnames
    rw [hnames] at hlength
    exact List.length_eq_zero_iff.mp hlength
  | _ => cases htype

/-- A described type is resolved with the arguments that it is written with, or else with its
default arguments. So a raw type is never kept. -/
theorem typeRef_of_ofRef_declared {name : String} {arguments : List TypeRef}
    (hget : c.get? name = some d) (h : ofRef c (.declared name arguments) = .ok t) :
    t.typeRef = .declared name (if arguments = [] then c.defaultArguments d else arguments) := by
  rw [typeRef_of_ofRef h]
  cases arguments with
  | nil => rw [if_pos rfl, Catalog.completed, Catalog.completedName, hget]
  | cons argument arguments =>
    rw [if_neg (List.cons_ne_nil _ _)]
    rfl

/-- A described type has its default arguments where a request gives none. -/
theorem typeRef_of_ofDescription_none (hget : c.get? d.qualifiedName = some d)
    (h : ofDescription c d none = .ok t) :
    t.typeRef = .declared d.qualifiedName (c.defaultArguments d) := by
  rw [typeRef_of_ofRef_declared hget h]
  split
  · rfl
  · rfl

end TypeMetadata

/-! ### The type of a field and the one of another model -/

/-- The field is of a type of the same name as the model `upstream` of a request, and of the same
type in the cases that are told. In the other cases the types may differ in their arguments. -/
structure ModelField.Agrees (fld : ModelField) (request : Request) (upstream : Model) : Prop where
  /-- Without arguments the types are the same. -/
  erased : fld.resolved.qualifiedName = upstream.type.qualifiedName
  /-- With arguments they are the same if the arguments are. -/
  same_iff : fld.resolved.typeRef = upstream.type.typeRef ↔ fld.resolved.typeRef.IsDeclared ∧
    fld.resolved.typeRef.arguments = upstream.type.typeRef.arguments
  /-- They are the same if there are no type parameters. -/
  same_of_plain : fld.resolved.typeRef.IsDeclared → upstream.description.typeParameters = [] →
    fld.resolved.typeRef = upstream.type.typeRef
  /-- They are the same if neither the field nor the request gives arguments. -/
  same_of_raw : fld.declared = .named upstream.type.qualifiedName → request.typeArguments = none →
    fld.resolved.typeRef = upstream.type.typeRef

/-- A field of a type of the same name agrees with a model. Both types are completed by the catalog
in the same way, so equal arguments, or none in both places, make equal types. -/
theorem ModelField.agrees_of_erased {c : Catalog} {request : Request} {upstream : Model}
    {owner : TypeMetadata} {d : TypeDescription} {index : Nat} {f : FieldDescription}
    {fld : ModelField} (hupstream : Model.resolve c request = .ok upstream)
    (hfld : ModelField.resolve c owner d index f = .ok fld)
    (herased : fld.resolved.qualifiedName = upstream.type.qualifiedName) :
    fld.Agrees request upstream := by
  obtain ⟨-, hresolved⟩ := ofRef_of_resolve hfld
  have hm := Model.isOf_of_resolve hupstream
  have hmade := Model.ofDescription_of_resolve hupstream
  have hname := Model.qualifiedName_of_resolve hupstream
  obtain ⟨arguments', htype⟩ : ∃ arguments,
      upstream.type.typeRef = .declared request.typeName arguments := by
    obtain ⟨arguments, parameters, htype⟩ := hm.type
    exact ⟨arguments, by rw [htype]; rfl⟩
  -- A declared type of the same name is one of the requested name.
  have hown : ∀ {name arguments}, fld.resolved.typeRef = .declared name arguments →
      name = request.typeName := by
    intro name arguments h
    rw [← TypeMetadata.qualifiedName_of_typeRef h, herased, hname]
  have hsame : fld.resolved.typeRef = upstream.type.typeRef ↔ fld.resolved.typeRef.IsDeclared ∧
      fld.resolved.typeRef.arguments = upstream.type.typeRef.arguments := by
    rw [htype]
    constructor
    · intro h
      rw [h]
      exact ⟨⟨_, _, rfl⟩, rfl⟩
    · rintro ⟨⟨name, arguments, hdeclared⟩, harguments⟩
      rw [hdeclared] at harguments ⊢
      rw [hown hdeclared]
      exact congrArg _ harguments
  -- The other parts compare the arguments of the two types, as their names are the same.
  constructor
  case erased => exact herased
  case same_iff => exact hsame
  case same_of_plain =>
    rintro ⟨name, arguments, hdeclared⟩ hplain
    have hknown := TypeMetadata.hasKnownParameters_of_ofRef hresolved
    have hknown' := TypeMetadata.hasKnownParameters_of_ofDescription hmade
    rw [hown hdeclared] at hdeclared
    rw [hdeclared, htype, TypeMetadata.arguments_eq_nil hknown hdeclared hm.description hplain,
      TypeMetadata.arguments_eq_nil hknown' htype hm.description hplain]
  case same_of_raw =>
    intro hraw hnone
    have hdescription : c.get? upstream.description.qualifiedName = some upstream.description := by
      rw [c.qualifiedName_of_get? hm.description]
      exact hm.description
    rw [hnone] at hmade
    rw [hraw, hname, ← c.qualifiedName_of_get? hm.description] at hresolved
    rw [TypeMetadata.typeRef_of_ofDescription_none hdescription hmade,
      TypeMetadata.typeRef_of_ofRef_declared hdescription hresolved]
    rfl

/-! ### What the methods of a fixture return -/

/-- All creation methods of a fixture return the type that the fixture is for, whichever creator
they are from. -/
theorem Model.returnType_of_mem_creationMethods {m : Model} {fields : List ModelField}
    {constants : List Constant} {nullToken : String} {methods : List CreationMethod}
    (h : m.creationMethods fields constants nullToken = .ok methods) {method : CreationMethod}
    (hmethod : method ∈ methods) : method.returnType = m.renderedType := by
  have hcreator : ∀ {creator made}, m.creatorMethod fields constants creator = .ok made →
      made.returnType = m.renderedType := by
    intro creator made hmade
    cases creator with
    | constructor =>
      obtain ⟨arguments, -, hmade⟩ := bind_eq_ok_iff.mp hmade
      obtain ⟨name, -, hmade⟩ := bind_eq_ok_iff.mp hmade
      cases hmade
      rfl
    | builder =>
      obtain ⟨arguments, -, hmade⟩ := bind_eq_ok_iff.mp hmade
      obtain ⟨name, -, hmade⟩ := bind_eq_ok_iff.mp hmade
      cases hmade
      rfl
  -- The stub, the only constructor, or one method for each creator.
  unfold creationMethods at h
  split at h
  · cases h
    rw [List.mem_singleton.mp hmethod]
    rfl
  · split at h
    · obtain ⟨made, hmade, h⟩ := bind_eq_ok_iff.mp h
      cases h
      obtain ⟨parameters, -, hmade⟩ := bind_eq_ok_iff.mp hmade
      obtain ⟨arguments, -, hmade⟩ := bind_eq_ok_iff.mp hmade
      cases hmade
      rw [List.mem_singleton.mp hmethod]
    · obtain ⟨made, hmade, h⟩ := bind_eq_ok_iff.mp h
      split at h
      · cases h
      · cases h
        obtain ⟨creator, -, hmade⟩ := exists_of_mem_mapM hmade hmethod
        exact hcreator hmade

/-! ### Constants that call a method -/

/-- The constant is one of the field `fld`, which is of a target, by a directive with neither a
value nor a reference. Such a constant gets the call of the other fixture's first method for its
value. -/
def Model.IsCallOf (m : Model) (targets : List String) (fld : ModelField) (c : Constant) : Prop :=
  (m.target? targets fld).isSome ∧ ∃ ds ∈ fld.directives.toOption, ∃ d ∈ ds.zipIdx,
    d.1.value = none ∧ d.1.reference = none ∧ c = m.constant fld d c.value

instance (m : Model) (targets : List String) (fld : ModelField) (c : Constant) :
    Decidable (m.IsCallOf targets fld c) :=
  inferInstanceAs (Decidable (_ ∧ ∃ ds ∈ fld.directives.toOption, ∃ d ∈ ds.zipIdx,
    d.1.value = none ∧ d.1.reference = none ∧ c = m.constant fld d c.value))

namespace Engine

/-- A constant of the field `fld`, in the fixture of the model `m`, calls the first method of the
fixture `g`, which is that of the model `upstream` of a request. What the call returns and what the
constant is declared as are told separately, so that they can be compared. -/
structure IsAnswered (m : Model) (fld : ModelField) (constant : Constant) (request : Request)
    (upstream : Model) (g : Fixture) : Prop where
  /-- The call is of the first method, which returns the type of the other fixture. -/
  call : ∃ method, g.methods.head? = some method ∧
    constant.value = Render.name m.package g.fixtureName ++ "." ++ method.name ++ "()" ∧
    method.returnType = Render.type upstream.package upstream.type.typeRef
  /-- The constant is of the field's type. -/
  declaredType : constant.declaredType = Render.type m.package fld.resolved.typeRef
  /-- The field's type has the name of the type that is returned, and the same arguments in the
  cases that are told. -/
  agrees : fld.Agrees request upstream

variable {e : Engine} {random : String → UuidSource} {requests : List Request}

/-- A fixture in a report is that of a request for its type, with the methods that the model of the
request has. -/
theorem exists_methods_of_has {r : Registry} {typeName : String} {g : Fixture}
    (h : (e.run random requests r).1.Has typeName g) :
    ∃ o ∈ (e.run random requests r).1.outcomes, o.result = .ok g ∧ o.request.typeName = typeName ∧
      ∃ m, Model.resolve e.catalog o.request = .ok m ∧
        ∀ method ∈ g.methods, method.returnType = m.renderedType := by
  obtain ⟨o, ho, hg⟩ := h
  have hmem := List.mem_of_find?_eq_some ho
  obtain ⟨m, before, after, hresolve, -, hpass⟩ := exists_pass_of_mem_outcomes hmem hg
  refine ⟨o, hmem, hg, by simpa using List.find?_some ho, m, hresolve, fun method hmethod => ?_⟩
  obtain ⟨-, constants, hcompose⟩ := fixture_eq_ok (pass_eq_ok hpass).1
  exact Model.returnType_of_mem_creationMethods (compose_eq_ok hcompose).2.2.2 hmethod

/-- In the report of a fresh run, what a constant calls is the first method of a fixture in the
report. The field and what the method returns are of types of one name, and these are the same
where their arguments are. A type has one fixture, which is made for one choice of its type
parameters, while the fields that call it may have others. -/
theorem isAnswered_of_mem_outcomes (e : Engine) (random : String → UuidSource)
    (requests : List Request) {o : Outcome} (h : o ∈ (e.run random requests .empty).1.outcomes)
    {f : Fixture} (hf : o.result = .ok f) :
    ∃ m, Model.resolve e.catalog o.request = .ok m ∧
      (∀ constant ∈ f.constants, ∃ fld ∈ e.includedFields m, m.IsConstantOfField fld constant) ∧
      ∀ fld ∈ e.includedFields m, ∀ constant ∈ f.constants,
        m.IsCallOf (e.targets requests) fld constant →
          ∃ o' ∈ (e.run random requests .empty).1.outcomes, ∃ g upstream, o'.result = .ok g ∧
            Model.resolve e.catalog o'.request = .ok upstream ∧
              IsAnswered m fld constant o'.request upstream g := by
  obtain ⟨m, before, after, hresolve, hsplit, hpass⟩ := exists_pass_of_mem_outcomes h hf
  obtain ⟨hmade, -⟩ := pass_eq_ok hpass
  obtain ⟨hconstants, -⟩ := fixture_eq_ok hmade
  refine ⟨m, hresolve, hconstants.origin, fun fld hfld constant hconstant hcall => ?_⟩
  obtain ⟨htarget, ds, hds, d, hd, hvalue, hreference, hof⟩ := hcall
  obtain ⟨typeName, htarget⟩ := Option.isSome_iff_exists.mp htarget
  -- The value of the constant is the one of its directive, which is a reference.
  obtain ⟨ds', hds', hvalues⟩ := hconstants.written fld hfld
  obtain rfl : ds = ds' := by
    rw [hds', Except.toOption] at hds
    exact (Option.some.inj hds).symm
  have hdmem := List.fst_mem_of_mem_zipIdx hd
  obtain ⟨value, hvalueOf, -, hall⟩ := hvalues d.1 hdmem
  have hname : constant.name = d.1.name := by
    rw [hof]
    rfl
  obtain ⟨s, hs, htext⟩ := hvalueOf.reference
    (ValueSource.of_eq_reference_iff.mpr ⟨hvalue, htarget, hreference⟩)
  obtain ⟨g, hg, rfl, hmethods⟩ := exists_has_of_get? hsplit hs
  obtain ⟨o', ho', hg', hrequest, upstream, hupstream, hreturns⟩ := exists_methods_of_has hg
  refine ⟨o', ho', g, upstream, hg', hupstream, ?_⟩
  -- The fixture was found under the name of the field's type, which is that of its request.
  have herased : fld.resolved.qualifiedName = upstream.type.qualifiedName := by
    rw [(Model.target?_eq_some_iff.mp htarget).1, ← hrequest,
      Model.qualifiedName_of_resolve hupstream]
  obtain ⟨f', -, index, hfield⟩ :=
    Model.exists_resolve_of_mem_fields hresolve (List.mem_of_mem_filter hfld)
  constructor
  case call =>
    obtain ⟨method, rest, hcons⟩ := List.exists_cons_of_ne_nil hmethods
    refine ⟨method, by rw [hcons, List.head?_cons], ?_, hreturns method ?_⟩
    · rw [hall constant hconstant hname]
      cases Fixture.offers_of_referenceText hmethods htext with
      | method first hfirst =>
        rw [hcons] at hfirst
        cases hfirst
        rfl
    · rw [hcons]
      exact List.mem_cons_self
  case declaredType =>
    rw [hof]
    rfl
  case agrees => exact ModelField.agrees_of_erased hupstream hfield herased

/-! ### Boxes

An item has a box of strings, and boxes are requested without arguments. -/

/-- The first constant of a run calls a method if this is seen from its first field; `t` is the type
of this field. -/
theorem exists_call_of_first {t : TypeRef}
    (h : ((e.run random requests .empty).1.outcomes.head?.bind fun o =>
      o.result.toOption.bind fun f => (Model.resolve e.catalog o.request).toOption.bind fun m =>
        (e.includedFields m).head?.bind fun fld => f.constants.head?.bind fun c =>
          if m.IsCallOf (e.targets requests) fld c then some fld.resolved.typeRef else none)
      = some t) :
    ∃ o ∈ (e.run random requests .empty).1.outcomes, ∃ f m, o.result = .ok f ∧
      Model.resolve e.catalog o.request = .ok m ∧ ∃ fld ∈ e.includedFields m,
        ∃ c ∈ f.constants, m.IsCallOf (e.targets requests) fld c ∧ fld.resolved.typeRef = t := by
  obtain ⟨o, ho, h⟩ := Option.bind_eq_some_iff.mp h
  obtain ⟨f, hf, h⟩ := Option.bind_eq_some_iff.mp h
  obtain ⟨m, hm, h⟩ := Option.bind_eq_some_iff.mp h
  obtain ⟨fld, hfld, h⟩ := Option.bind_eq_some_iff.mp h
  obtain ⟨c, hc, h⟩ := Option.bind_eq_some_iff.mp h
  obtain ⟨hcall, htype⟩ := Option.ite_none_right_eq_some.mp h
  exact ⟨o, List.mem_of_head? ho, f, m, toOption_eq_some_iff.mp hf, toOption_eq_some_iff.mp hm,
    fld, List.mem_of_head? hfld, c, List.mem_of_head? hc, hcall, Option.some.inj htype⟩

/-- The catalog: a box has a type parameter, and an item has a box of strings. -/
def boxes : Catalog where
  types := ⟨[
    ("shop.Box", { shopClass "Box" [] with typeParameters := [⟨"T", none⟩] }),
    ("shop.Item", shopClass "Item" [
      shopField "box" (.declared "shop.Box" [.named "java.lang.String"]) []])], by decide⟩
  named := by decide

/-- The engine of the catalog with boxes. -/
def boxesEngine : Engine where
  catalog := boxes
  config := { uuidSeed := some 7 }
  defaults := .empty
  isValid := shopEngine.isValid
  isCompiled := rfl

/-- An item and a box are requested. -/
def boxesRequests : List Request := [⟨"shop.Item", none⟩, ⟨"shop.Box", none⟩]

/-- Not every constant is of the type that the method returns which it calls. The box of the item
is one of strings, and the fixture of boxes has one of objects. -/
theorem not_typeRef_eq_of_mem_outcomes :
    ¬ ∀ (e : Engine) (random : String → UuidSource) (requests : List Request),
      ∀ o ∈ (e.run random requests .empty).1.outcomes, ∀ f, o.result = .ok f →
        ∀ m, Model.resolve e.catalog o.request = .ok m →
          ∀ fld ∈ e.includedFields m, ∀ constant ∈ f.constants,
            m.IsCallOf (e.targets requests) fld constant →
              ∃ o' ∈ (e.run random requests .empty).1.outcomes, ∃ g upstream, o'.result = .ok g ∧
                Model.resolve e.catalog o'.request = .ok upstream ∧
                o'.request.typeName = fld.resolved.qualifiedName ∧
                fld.resolved.typeRef = upstream.type.typeRef := by
  intro hall
  obtain ⟨o, ho, f, m, hf, hm, box, hfld, c, hc, hcall, hbox⟩ := @exists_call_of_first boxesEngine
    (fun _ => .ofSeed 0) boxesRequests (.declared "shop.Box" [.named "java.lang.String"])
    (by decide +kernel)
  obtain ⟨o', ho', g, upstream, -, hupstream, hname, hsame⟩ :=
    hall boxesEngine (fun _ => .ofSeed 0) boxesRequests o ho f hf m hm box hfld c hc hcall
  rw [TypeMetadata.qualifiedName_of_typeRef hbox] at hname
  -- Boxes are requested once, and without arguments.
  have hrequest : o'.request = ⟨"shop.Box", none⟩ := by
    rw [run_eq] at ho'
    rcases List.mem_pair.mp (request_mem_of_mem_outcomes ho') with heq | heq
    · rw [heq] at hname
      exact absurd hname (by decide)
    · exact heq
  rw [hrequest] at hupstream
  have hobject : (Model.resolve boxesEngine.catalog ⟨"shop.Box", none⟩).toOption.map
      (·.type.typeRef) = some (.declared "shop.Box" [Catalog.object]) := by
    decide +kernel
  rw [toOption_eq_some_iff.mpr hupstream, Option.map_some, ← hsame, hbox] at hobject
  exact absurd hobject (by decide)

/-- The order of an item of the shop is of the type that the method of orders returns. -/
theorem isAnswered_of_mem_outcomes_shop :
    ∃ o ∈ (shopEngine.run (fun _ => .ofSeed 0) shopRequests .empty).1.outcomes,
      ∃ f, o.result = .ok f ∧ ∃ m, Model.resolve shop o.request = .ok m ∧
        ∃ fld ∈ shopEngine.includedFields m, ∃ constant ∈ f.constants,
          m.IsCallOf (shopEngine.targets shopRequests) fld constant ∧
            ∃ request g upstream, IsAnswered m fld constant request upstream g ∧
              fld.resolved.typeRef = upstream.type.typeRef := by
  obtain ⟨o, ho, f, m, hf, hm, fld, hfld, c, hc, hcall, horder⟩ := @exists_call_of_first shopEngine
    (fun _ => .ofSeed 0) shopRequests (.named "shop.Order") (by decide +kernel)
  obtain ⟨m', hm', -, hall⟩ :=
    isAnswered_of_mem_outcomes shopEngine (fun _ => .ofSeed 0) shopRequests ho hf
  obtain rfl : m' = m := Except.ok.inj (hm'.symm.trans hm)
  obtain ⟨o', -, g, upstream, -, hupstream, hanswered⟩ := hall fld hfld c hc hcall
  refine ⟨o, ho, f, hf, m', hm, fld, hfld, c, hc, hcall, o'.request, g, upstream, hanswered,
    hanswered.agrees.same_of_plain ⟨_, _, horder⟩ ?_⟩
  -- No type of the shop has type parameters.
  have hplain : ∀ d ∈ shop.toList, d.typeParameters = [] := by decide
  exact hplain _ (shop.mem_toList_of_get? (Model.isOf_of_resolve hupstream).description)

end Engine

end Fixtures
