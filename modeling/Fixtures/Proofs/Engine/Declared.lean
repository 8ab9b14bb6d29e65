import Fixtures.Proofs.Constants.Collected
import Fixtures.Proofs.Creation
import Fixtures.Proofs.Engine.Run
import Fixtures.Proofs.Summary

/-!
# `Fixtures.Proofs.Engine.Declared`: the types that constants are declared with

Several fields may have a constant of one name. If their values are the same there is one constant
for all of them, and it is declared with the type of the first of these fields
(`Model.declaredType_of_constants`). So a field of another type is not of the type that its
constant is declared with, and the constructor is called with constants of which each is declared
for the first field that names it (`Engine.declaredType_of_pass`).

`Engine.not_declaredType_of_pass` is the case of an integer and a byte that share a constant.
-/

set_option autoImplicit false

namespace Fixtures

/-- The first of some fields that has a constant of a name. Its type is the one that the constant
is declared with. -/
def ModelField.firstWith? (fields : List ModelField) (name : String) : Option ModelField :=
  fields.find? fun f => decide (name ∈ f.description.constantNames)

/-- A name that a field has has a first field, which may be this one or one before it. -/
theorem ModelField.exists_firstWith? {fields : List ModelField} {f : ModelField} {name : String}
    (hf : f ∈ fields) (hname : name ∈ f.description.constantNames) :
    ∃ first, firstWith? fields name = some first :=
  Option.isSome_iff_exists.mp (List.find?_isSome.mpr ⟨f, hf, decide_eq_true hname⟩)

/-- The first field of the list comes before the others with the name. -/
theorem ModelField.firstWith?_cons (f : ModelField) (rest : List ModelField) (name : String) :
    firstWith? (f :: rest) name =
      (if name ∈ f.description.constantNames then some f else none).or (firstWith? rest name) := by
  rw [firstWith?, List.find?_cons]
  by_cases hname : name ∈ f.description.constantNames
  · rw [decide_eq_true hname, if_pos hname, Option.some_or]
  · rw [decide_eq_false hname, if_neg hname, Option.none_or]
    rfl

/-- The constants of a field with valid names are those of the directives that are followed, in
order. -/
theorem ModelField.map_name_given {f : ModelField} (h : f.HasValidNames) :
    f.given.map (·.name) = f.description.constantNames :=
  ModelField.map_name_directives (ModelField.directives_eq_ok_iff.mpr ⟨h, rfl⟩)

namespace Model

variable {m : Model} {peers : Peers} {pipeline : Pipeline} {fields : List ModelField}

/-- The drafts of a field have a first one of a name when the field has it. All drafts of a field
are for this field, so it does not matter which of them is first. -/
theorem map_field_find?_given {f : ModelField} (h : f.HasValidNames) (computed : Option String)
    (name : String) :
    ((f.given.zipIdx.map fun d => (⟨f, d, computed⟩ : Draft)).find?
        fun x => x.name == name).map (·.field) =
      if name ∈ f.description.constantNames then some f else none := by
  have hnames : name ∈ f.description.constantNames ↔ ∃ d ∈ f.given.zipIdx, d.1.name = name := by
    rw [← ModelField.map_name_given h, ← List.zipIdx_map_fst 0 f.given, List.map_map]
    simp only [List.zipIdx_map_fst, List.mem_map, Function.comp_apply]
  cases hfind : (f.given.zipIdx.map fun d => (⟨f, d, computed⟩ : Draft)).find?
      fun x => x.name == name with
  | some x =>
    obtain ⟨d, hd, rfl⟩ := List.mem_map.mp (List.mem_of_find?_eq_some hfind)
    have hname : d.1.name = name := by simpa [Draft.name] using List.find?_some hfind
    rw [if_pos (hnames.mpr ⟨d, hd, hname⟩), Option.map_some]
  | none =>
    rw [if_neg, Option.map_none]
    intro hmem
    obtain ⟨d, hd, hname⟩ := hnames.mp hmem
    refine List.find?_eq_none.mp hfind ⟨f, d, computed⟩ (List.mem_map_of_mem hd) ?_
    exact beq_iff_eq.mpr hname

/-- The first draft of a name is one of the first field that has a constant of it, since the drafts
follow the fields. -/
theorem map_field_find?_drafts (hnames : ∀ f ∈ fields, f.HasValidNames)
    {source final : UuidSource} {drafts : List Draft}
    (h : (m.drafts pipeline peers fields).run source = (drafts, final)) (name : String) :
    (drafts.find? fun x => x.name == name).map (·.field) = ModelField.firstWith? fields name := by
  induction fields generalizing drafts source with
  | nil =>
    cases h
    rfl
  | cons f rest ih =>
    -- The drafts of the first field come before the others, as the field comes before the others.
    obtain ⟨hf, hrest⟩ := List.forall_mem_cons.mp hnames
    obtain ⟨computed, next, others, -, hothers, rfl⟩ := run_drafts_cons_eq_iff.mp h
    rw [List.find?_append, Option.map_or, map_field_find?_given hf, ih hrest hothers,
      ModelField.firstWith?_cons]

/-- A name that a field has is that of exactly one constant, which is declared with the type of the
first field that has the name. -/
theorem declaredType_of_constants {source : UuidSource} {constants : List Constant}
    (h : ((m.constants fields pipeline peers).run source).1 = .ok constants) {f : ModelField}
    (hf : f ∈ fields) {name : String} (hname : name ∈ f.description.constantNames) :
    ∃ first c, ModelField.firstWith? fields name = some first ∧
      (∀ c' : Constant, c' ∈ constants ∧ c'.name = name ↔ c' = c) ∧
      c.declaredType = Render.type m.package first.resolved.typeRef := by
  obtain ⟨hnames, drafts, cs, after, hdrafts, hcs, hadd, rfl⟩ :=
    constants_run_eq_ok_iff.mp (Prod.ext h rfl)
  -- The constants are those of the first drafts of their names, so the first draft tells the type.
  have hlists := lists_of_addConstants (areDrafts_of_run_drafts hdrafts) hcs hadd
  obtain ⟨first, hfirst⟩ := ModelField.exists_firstWith? hf hname
  have hdraft := map_field_find?_drafts hnames hdrafts name
  rw [hfirst] at hdraft
  obtain ⟨x, hx, rfl⟩ := Option.map_eq_some_iff.mp hdraft
  have hxname : x.name = name := by simpa using List.find?_some hx
  obtain ⟨c, hc, hcname⟩ := hlists.complete x (List.mem_of_find?_eq_some hx)
  -- Every constant of the name is the one of the draft `x`.
  have hof : ∀ c' ∈ after.values, c'.name = name →
      ∃ text, x.text? m peers = some text ∧ c' = m.constant x.field x.directive text := by
    intro c' hc' hname'
    obtain ⟨x', text, hx', htext, hof⟩ := hlists.first c' hc'
    rw [hname', hx] at hx'
    obtain rfl := Option.some.inj hx'
    exact ⟨text, htext, hof⟩
  rw [hxname] at hcname
  obtain ⟨text, htext, rfl⟩ := hof c hc hcname
  refine ⟨x.field, m.constant x.field x.directive text, hfirst, fun c' => ⟨?_, ?_⟩, rfl⟩
  · rintro ⟨hc', hname'⟩
    obtain ⟨text', htext', rfl⟩ := hof c' hc' hname'
    rw [htext] at htext'
    rw [Option.some.inj htext']
  · rintro rfl
    exact ⟨hc, hcname⟩

end Model

namespace Engine

variable {e : Engine} {random : String → UuidSource} {targets : List String} {m : Model}

/-- In the fixture of a pass, a name that an included field has is that of exactly one constant,
which is declared with the type of the first included field that has the name. Without creators the
constructor is called with the primary constant of every field, and each of these is declared with
the type of the first included field that has its name. -/
theorem declaredType_of_pass {r : Registry} {f : Fixture}
    (h : (e.pass random targets m r).1 = .ok f) :
    (∀ fld ∈ e.includedFields m, ∀ name ∈ fld.description.constantNames,
      ∃ first c, ModelField.firstWith? (e.includedFields m) name = some first ∧
        (∀ c' : Constant, c' ∈ f.constants ∧ c'.name = name ↔ c' = c) ∧
        c.declaredType = Render.type m.package first.resolved.typeRef) ∧
    (m.type.isEnum = false → m.description.creators = [] →
      ∃ arguments : List Argument,
        f.methods.map (·.body) = [CreationMethod.constructorCall m.constructed arguments] ∧
        List.Forall₂ (fun fld a => fld.primaryConstant? = .ok a.constant ∧
            ∃ first c, ModelField.firstWith? (e.includedFields m) a.constant = some first ∧
              c ∈ f.constants ∧ c.name = a.constant ∧
              c.declaredType = Render.type m.package first.resolved.typeRef)
          (e.includedFields m) arguments) := by
  obtain ⟨hfixture, -⟩ := pass_eq_ok h
  obtain ⟨pipeline, -, hfixture⟩ := bind_eq_ok_iff.mp hfixture
  obtain ⟨constants, hconstants, hcompose⟩ := bind_eq_ok_iff.mp hfixture
  obtain ⟨-, -, rfl, hmethods⟩ := compose_eq_ok hcompose
  refine ⟨fun fld hfld name => Model.declaredType_of_constants hconstants hfld,
    fun hclass hnil => ?_⟩
  have hcovers := (Model.areConstants_of_eq_ok hconstants).covers
  obtain ⟨arguments, hprimary, -, hcreation⟩ :=
    Model.creationMethods_of_nil hcovers hclass hnil e.config.nullToken
  -- The methods are the only ones that can be made, and their arguments are in the order of the
  -- fields.
  rw [hcreation] at hmethods
  have hmember := (List.forall₂_and_left _ _).mpr ⟨fun fld hfld => hfld, hprimary⟩
  refine ⟨arguments, by rw [← Except.ok.inj hmethods]; rfl, hmember.imp ?_⟩
  rintro fld a ⟨hfld, hfirst⟩
  have hname := List.mem_of_head? (ModelField.head?_constantNames hfirst)
  obtain ⟨first, c, hfirst', hunique, htype⟩ :=
    Model.declaredType_of_constants hconstants hfld hname
  obtain ⟨hc, hcname⟩ := (hunique c).mpr rfl
  exact ⟨hfirst, first, c, hfirst', hc, hcname, htype⟩

/-! ### A shared constant -/

/-- A catalog with an integer and a byte that share a constant. -/
def sharing : Catalog where
  types := ⟨[("shop.Item", shopClass "Item" [
    shopField "count" (.primitive .int) [⟨"SHARED", none, none⟩],
    shopField "size" (.primitive .byte) [⟨"SHARED", none, none⟩],
    shopField "label" (.named "java.lang.String") []])], by decide⟩
  named := by decide

/-- The engine of the catalog with a shared constant. -/
def sharingEngine : Engine where
  catalog := sharing
  config := {}
  defaults := .empty
  isValid := shopEngine.isValid
  isCompiled := rfl

/-- The constant that the integer and the byte share is declared as an integer, and passed for
both. -/
theorem declaredType_of_pass_sharing :
    ∃ (m : Model) (f : Fixture), Model.resolve sharing ⟨"shop.Item", none⟩ = .ok m ∧
      (sharingEngine.pass (fun _ => .ofSeed 0) ["shop.Item"] m .empty).1 = .ok f ∧
      f.methods.map (·.body) = ["new Item(SHARED, SHARED, LABEL)"] ∧
      ∃ c, (∀ c' : Constant, c' ∈ f.constants ∧ c'.name = "SHARED" ↔ c' = c) ∧
        c.declaredType = "int" := by
  have hitem :
      ((Model.resolve sharing ⟨"shop.Item", none⟩).toOption.bind fun m =>
        (sharingEngine.pass (fun _ => .ofSeed 0) ["shop.Item"] m .empty).1.toOption.bind fun f =>
          (sharingEngine.includedFields m).head?.map fun fld =>
            decide ("SHARED" ∈ fld.description.constantNames ∧
              Render.type m.package fld.resolved.typeRef = "int" ∧
              f.methods.map (·.body) = ["new Item(SHARED, SHARED, LABEL)"])) = some true := by
    decide +kernel
  obtain ⟨m, hm, hitem⟩ := Option.bind_eq_some_iff.mp hitem
  obtain ⟨f, hf, hitem⟩ := Option.bind_eq_some_iff.mp hitem
  obtain ⟨fld, hfld, hitem⟩ := Option.map_eq_some_iff.mp hitem
  obtain ⟨hname, htype, hbodies⟩ := of_decide_eq_true hitem
  have hpass := toOption_eq_some_iff.mp hf
  obtain ⟨first, c, hfirst, hunique, hdeclared⟩ :=
    (declaredType_of_pass hpass).1 fld (List.mem_of_head? hfld) "SHARED" hname
  -- The first field with the name is the first of all.
  obtain ⟨rest, hcons⟩ := List.head?_eq_some_iff.mp hfld
  rw [hcons, ModelField.firstWith?_cons, if_pos hname, Option.some_or] at hfirst
  obtain rfl := Option.some.inj hfirst
  exact ⟨m, f, toOption_eq_some_iff.mp hm, hpass, hbodies, c, hunique, hdeclared.trans htype⟩

/-- A constant need not be declared with the type of every field that names it. The constant that
an integer and a byte share is no byte. -/
theorem not_declaredType_of_pass :
    ¬ ∀ (e : Engine) (random : String → UuidSource) (targets : List String) (m : Model)
        (r : Registry) (f : Fixture), (e.pass random targets m r).1 = .ok f →
      ∀ fld ∈ e.includedFields m, ∀ name ∈ fld.description.constantNames,
        ∀ c ∈ f.constants, c.name = name →
          c.declaredType = Render.type m.package fld.resolved.typeRef := by
  intro hall
  have hitem :
      ((Model.resolve sharing ⟨"shop.Item", none⟩).toOption.bind fun m =>
        (sharingEngine.pass (fun _ => .ofSeed 0) ["shop.Item"] m .empty).1.toOption.bind fun f =>
          (sharingEngine.includedFields m)[1]?.bind fun fld => f.constants[1]?.map fun c =>
            decide (c.name ∈ fld.description.constantNames ∧
              Render.type m.package fld.resolved.typeRef = "byte" ∧ c.declaredType = "int")) =
      some true := by
    decide +kernel
  obtain ⟨m, -, hitem⟩ := Option.bind_eq_some_iff.mp hitem
  obtain ⟨f, hf, hitem⟩ := Option.bind_eq_some_iff.mp hitem
  obtain ⟨fld, hfld, hitem⟩ := Option.bind_eq_some_iff.mp hitem
  obtain ⟨c, hc, hitem⟩ := Option.map_eq_some_iff.mp hitem
  obtain ⟨hname, htype, hdeclared⟩ := of_decide_eq_true hitem
  have hsame := hall sharingEngine (fun _ => .ofSeed 0) ["shop.Item"] m .empty f
    (toOption_eq_some_iff.mp hf) fld (List.mem_of_getElem? hfld) c.name hname c
    (List.mem_of_getElem? hc) rfl
  rw [hdeclared, htype] at hsame
  exact absurd hsame (by decide)

end Engine

end Fixtures
