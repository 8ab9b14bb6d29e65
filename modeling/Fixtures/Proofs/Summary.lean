import Fixtures.Proofs.Engine.Pass
import Fixtures.Proofs.Model
import Fixtures.Proofs.NameMap

/-!
# `Fixtures.Proofs.Summary`: what other fixtures see of a fixture is described in the catalog

The values of constants, the bodies of methods and the types of both depend on much: on type
arguments, on UUIDs, on the types that are requested together and on what is published already.
The summary has names only, and `summary_of_fixture_eq_ok` says that these depend on nothing but
the description of the type, and on whether transient fields are included: every fixture that can
be made for a type has the summary `TypeDescription.summary`.

Constants of one name count once in it, whatever their values are, because constants of one name
with different values are an error and leave no fixture. The name of a method shows the constants
that it passes, and which constant a parameter means is decided by the names of the constants
and fields.
-/

set_option autoImplicit false

namespace Fixtures

/-! ### The summary of a description -/

/-- The names of the constants of a field: those of its directives, or without directives the one
that is made of its own name, if one can be made. -/
def FieldDescription.constantNames (f : FieldDescription) : List String :=
  match f.constants with
  | [] => (Naming.constantName? f.name).toOption.toList
  | directives => directives.map (·.name)

/-- The constant that a parameter of a creator means: the one of this name, or else the first one
of the first field of this name. A parameter that means none is left as it is, and then there is no
fixture to which it would matter. -/
def FieldDescription.passedFor (fields : List FieldDescription) (constants : List String)
    (parameter : String) : String :=
  if parameter ∈ constants then parameter
  else ((fields.find? fun f => f.name == parameter).bind (·.constantNames.head?)).getD parameter

/-- The name of the method of a creator, when its parameters mean the constants `passed`. Only the
constants show in it, not the fields that they are passed for. -/
def Creator.methodName (simpleName : String) (passed : String → String) : Creator → String
  | .constructor parameters given =>
    given.getD (CreationMethod.derivedName .constructor simpleName
      (parameters.map fun p => ⟨passed p, p⟩))
  | .builder setters _ _ _ given =>
    given.getD (CreationMethod.derivedName .builder simpleName
      (setters.map fun p => ⟨passed p, p⟩))

namespace TypeDescription

/-- The fields of which a fixture has constants, as the description has them: all that are not
static, or of these the ones that are not transient. -/
def includedFields (d : TypeDescription) (includeTransient : Bool) : List FieldDescription :=
  d.fields.filter fun f => !f.isStatic && (includeTransient || !f.isTransient)

/-- The names of the constants of a fixture in ascending order, each once. -/
def constantNames (d : TypeDescription) (includeTransient : Bool) : List String :=
  (NameMap.ofList ((d.includedFields includeTransient).flatMap fun f =>
    f.constantNames.map fun name => (name, ()))).names

/-- The name of the first creation method, which other fixtures call. It is that of the first
creator, or without creators and for an enum the verb of a constructor and the type. -/
def firstMethod (d : TypeDescription) (includeTransient : Bool) : String :=
  let simpleName := Library.simpleName d.qualifiedName
  match d.kind, d.creators with
  | .classKind, creator :: _ =>
    creator.methodName simpleName (FieldDescription.passedFor (d.includedFields includeTransient)
      (d.constantNames includeTransient))
  | _, _ => CreatorKind.constructor.verb ++ simpleName

/-- What other fixtures see of a fixture of the type. It can be told before the fixture is made,
and for every fixture that can be made it is the same. -/
def summary (d : TypeDescription) (includeTransient : Bool) : Summary where
  typeName := d.qualifiedName
  fixtureName := d.qualifiedName ++ "Fixture"
  constants := d.constantNames includeTransient
  defaultMethod := d.firstMethod includeTransient

end TypeDescription

/-! ### The names of the constants -/

/-- Lists in ascending order with the same names are the same. -/
theorem eq_of_pairwise_of_mem_iff {names names' : List String} (h : names.Pairwise (· < ·))
    (h' : names'.Pairwise (· < ·)) (hmem : ∀ name, name ∈ names ↔ name ∈ names') :
    names = names' := by
  have hne : ∀ {name name' : String}, name < name' → name ≠ name' := by
    rintro name name' hlt rfl
    exact String.lt_irrefl name hlt
  have hperm := (List.perm_ext_iff_of_nodup (h.imp hne) (h'.imp hne)).mpr hmem
  refine hperm.eq_of_pairwise (fun name name' _ _ hlt hgt => ?_) h h'
  exact absurd (String.lt_trans hlt hgt) (String.lt_irrefl name)

/-- The directives of a field name its constants. A field without directives has one that is made
of its own name, when this can be done. -/
theorem ModelField.map_name_directives {f : ModelField} {ds : List ConstantDirective}
    (h : f.directives = .ok ds) : ds.map (·.name) = f.description.constantNames := by
  unfold FieldDescription.constantNames
  rcases directives_eq_ok h with ⟨hnil, name, hname, rfl⟩ | ⟨hne, rfl⟩
  · rw [hnil]
    unfold ModelField.name at hname
    simp [hname, Except.toOption]
  · split
    · next hnil => exact absurd hnil hne
    · rfl

/-- The first constant of a field is the first of its names. -/
theorem ModelField.head?_constantNames {f : ModelField} {primary : String}
    (h : f.primaryConstant? = .ok primary) :
    f.description.constantNames.head? = some primary := by
  unfold primaryConstant? at h
  unfold FieldDescription.constantNames
  split at h
  · next hnil =>
    unfold ModelField.name at h
    simp [hnil, h, Except.toOption]
  · next directive rest hcons =>
    cases h
    simp [hcons]

/-- A fixture has a constant of a name when one of its fields has. -/
theorem TypeDescription.mem_constantNames_iff {d : TypeDescription} {includeTransient : Bool}
    {name : String} : name ∈ d.constantNames includeTransient ↔
      ∃ f ∈ d.includedFields includeTransient, name ∈ f.constantNames := by
  rw [constantNames, NameMap.mem_names_ofList_iff, List.map_flatMap, List.mem_flatMap]
  simp only [List.map_map, Function.comp_def, List.map_id']

namespace Model

variable {c : Catalog} {request : Request} {m : Model} {includeTransient : Bool}

/-- The included fields of a model are the described ones. -/
theorem map_description_includedFields (hm : m.IsOf c request) (includeTransient : Bool) :
    (m.includedFields includeTransient).map (·.description)
      = m.description.includedFields includeTransient := by
  have hfilter : m.includedFields includeTransient = m.fields.filter
      ((fun f => includeTransient || !f.isTransient) ∘ ModelField.description) := rfl
  rw [hfilter, ← List.filter_map, hm.fields, List.filter_filter, TypeDescription.includedFields]
  simp only [Bool.and_comm]

/-- The constants that could be made have the names that are described. Both lists are in ascending
order, so it is enough that the same names are in them. -/
theorem AreConstants.map_name {peers : Peers} {constants : List Constant}
    (h : m.AreConstants peers (m.includedFields includeTransient) constants)
    (hm : m.IsOf c request) :
    constants.map (·.name) = m.description.constantNames includeTransient := by
  refine eq_of_pairwise_of_mem_iff (List.pairwise_map.mpr h.ascending) (NameMap.pairwise_names _)
    fun name => ?_
  rw [TypeDescription.mem_constantNames_iff, ← map_description_includedFields hm, List.mem_map]
  constructor
  -- A constant is the one of a directive, which is among the names of its field.
  · rintro ⟨constant, hmem, rfl⟩
    obtain ⟨f, hf, ds, hds, d, hd, value, rfl⟩ := h.origin constant hmem
    refine ⟨f.description, List.mem_map_of_mem hf, ?_⟩
    rw [← ModelField.map_name_directives hds]
    exact List.mem_map_of_mem (List.fst_mem_of_mem_zipIdx hd)
  -- A name of a field is the name of a directive, which has a constant.
  · rintro ⟨description, hdescription, hname⟩
    obtain ⟨f, hf, rfl⟩ := List.mem_map.mp hdescription
    obtain ⟨ds, hds, hwritten⟩ := h.written f hf
    rw [← ModelField.map_name_directives hds] at hname
    obtain ⟨d, hd, rfl⟩ := List.mem_map.mp hname
    obtain ⟨-, -, hexists, -⟩ := hwritten d hd
    exact hexists

end Model

/-! ### The names of the methods -/

section

variable {fields : List ModelField} {constants : List Constant}
  (hsorted : constants.Pairwise fun c c' => c.name < c'.name)

include hsorted

/-- What a parameter means is decided by the names of the constants and of the fields. A parameter
that is resolved means a constant, so the last case of `passedFor` does not come up. -/
theorem Argument.constant_of_ofParameter {parameter : String} {a : Argument}
    (h : Argument.ofParameter fields constants parameter = .ok a) :
    a.constant = FieldDescription.passedFor (fields.map (·.description)) (constants.map (·.name))
      parameter := by
  unfold ofParameter at h
  unfold FieldDescription.passedFor
  split at h
  · next c hc =>
    cases h
    obtain ⟨hmem, hname⟩ := Registry.mem_of_bisection hc
    rw [if_pos (List.mem_map.mpr ⟨c, hmem, hname⟩)]
    exact hname
  · next hnone =>
    -- No constant has this name, because it would have been found.
    have hnot : parameter ∉ constants.map (·.name) := by
      intro hmem
      obtain ⟨c, hc, hname⟩ := List.mem_map.mp hmem
      rw [Constant.find?, Registry.bisection_of_mem hsorted hc hname] at hnone
      cases hnone
    obtain ⟨found, hfound, h⟩ := bind_eq_ok_iff.mp h
    cases found with
    | none => cases h
    | some a' =>
      cases h
      unfold ofField? at hfound
      split at hfound
      · cases hfound
      · next f hf =>
        obtain ⟨primary, hprimary, hfound⟩ := bind_eq_ok_iff.mp hfound
        obtain ⟨c, hc, rfl⟩ := Option.map_eq_some_iff.mp (Except.ok.inj hfound)
        have hfield : (fields.map (·.description)).find? (fun f => f.name == parameter)
            = some f.description := by
          rw [List.find?_map]
          exact congrArg (Option.map _) hf
        rw [if_neg hnot, hfield, Option.bind_some,
          ModelField.head?_constantNames (mapError_eq_ok_iff.mp hprimary), Option.getD_some]
        exact (Registry.mem_of_bisection hc).2

/-- What parameters mean is decided by the names of the constants and of the fields. -/
theorem Argument.map_constant_of_ofParameter {parameters : List String}
    {arguments : List Argument}
    (h : parameters.mapM (Argument.ofParameter fields constants) = .ok arguments) :
    arguments.map (·.constant) = parameters.map (FieldDescription.passedFor
      (fields.map (·.description)) (constants.map (·.name))) := by
  have hmaps := List.forall₂_map_left_iff.mpr (List.forall₂_map_right_iff.mpr
    ((mapM_eq_ok_iff.mp h).imp fun _ _ ha => (constant_of_ofParameter hsorted ha).symm))
  rw [List.forall₂_eq_eq_eq] at hmaps
  exact hmaps.symm

end

namespace CreationMethod

/-- The derived name of a method shows nothing of the arguments but the constants. -/
theorem derivedName_congr {kind : CreatorKind} {simpleName : String}
    {arguments arguments' : List Argument}
    (h : arguments.map (·.constant) = arguments'.map (·.constant)) :
    derivedName kind simpleName arguments = derivedName kind simpleName arguments' := by
  have hwords : arguments.map (fun a => Naming.wordCase a.constant)
      = arguments'.map (fun a => Naming.wordCase a.constant) := by
    have := congrArg (List.map Naming.wordCase) h
    rw [List.map_map, List.map_map] at this
    exact this
  cases arguments with
  | nil =>
    rw [List.map_nil] at h
    rw [List.map_eq_nil_iff.mp h.symm]
  | cons a rest =>
    cases arguments' with
    | nil => cases h
    | cons a' rest' =>
      exact congrArg (fun words => kind.verb ++ simpleName ++ "With" ++ "And".intercalate words)
        hwords

/-- A method has its given name, or else the derived one. -/
theorem chooseName_eq_ok {given : Option String} {kind : CreatorKind} {simpleName name : String}
    {arguments : List Argument} (h : chooseName given kind simpleName arguments = .ok name) :
    name = given.getD (derivedName kind simpleName arguments) := by
  unfold chooseName at h
  split at h
  · cases h
    rfl
  · split at h
    · cases h
      rfl
    · cases h

end CreationMethod

namespace Model

variable {c : Catalog} {request : Request} {m : Model} {fields : List ModelField}
  {constants : List Constant}

/-- The name of the method of a creator is decided by the names of the constants and of the fields.
A given name is the same whatever the arguments are, and a derived one shows only the constants
among them. -/
theorem name_of_creatorMethod (hsorted : constants.Pairwise fun c c' => c.name < c'.name)
    {creator : Creator} {method : CreationMethod}
    (h : m.creatorMethod fields constants creator = .ok method) :
    method.name = creator.methodName m.type.simpleName (FieldDescription.passedFor
      (fields.map (·.description)) (constants.map (·.name))) := by
  -- Both kinds of creators derive a name in the same way, from what their parameters mean.
  have hderived : ∀ {kind : CreatorKind} {parameters : List String} {arguments : List Argument},
      parameters.mapM (Argument.ofParameter fields constants) = .ok arguments →
        CreationMethod.derivedName kind m.type.simpleName arguments
          = CreationMethod.derivedName kind m.type.simpleName (parameters.map fun p =>
              ⟨FieldDescription.passedFor (fields.map (·.description)) (constants.map (·.name)) p,
                p⟩) := by
    intro kind parameters arguments harguments
    refine CreationMethod.derivedName_congr ?_
    rw [Argument.map_constant_of_ofParameter hsorted harguments, List.map_map]
    rfl
  cases creator with
  | constructor parameters given =>
    obtain ⟨arguments, harguments, h⟩ := bind_eq_ok_iff.mp h
    obtain ⟨name, hname, h⟩ := bind_eq_ok_iff.mp h
    cases h
    rw [Creator.methodName, ← hderived harguments]
    exact CreationMethod.chooseName_eq_ok hname
  | builder setters builderMethod buildMethod setterPrefix given =>
    obtain ⟨arguments, harguments, h⟩ := bind_eq_ok_iff.mp h
    obtain ⟨name, hname, h⟩ := bind_eq_ok_iff.mp h
    cases h
    rw [Creator.methodName, ← hderived harguments]
    exact CreationMethod.chooseName_eq_ok hname

/-- The type of a model is an enum when it is described as one, and its simple name is the one of
the description. -/
theorem IsOf.type_eq (hm : m.IsOf c request) :
    m.type.qualifiedName = m.description.qualifiedName ∧
      m.type.simpleName = Library.simpleName m.description.qualifiedName ∧
      m.type.isEnum = (m.description.kind == .enumKind) := by
  obtain ⟨arguments, parameters, htype⟩ := hm.type
  rw [htype, c.qualifiedName_of_get? hm.description,
    TypeMetadata.originIn_of_get? hm.description]
  refine ⟨rfl, rfl, ?_⟩
  unfold TypeMetadata.originOf
  cases m.description.kind with
  | classKind => rfl
  | enumKind => rfl

/-- The first creation method has the name that is described. There is always a first one: enums
and types without creators have one method, and every creator has one. -/
theorem head?_creationMethods (hm : m.IsOf c request)
    (hsorted : constants.Pairwise fun c c' => c.name < c'.name) {includeTransient : Bool}
    (hfields : fields.map (·.description) = m.description.includedFields includeTransient)
    (hconstants : constants.map (·.name) = m.description.constantNames includeTransient)
    {nullToken : String} {methods : List CreationMethod}
    (h : m.creationMethods fields constants nullToken = .ok methods) :
    methods.head?.map (·.name) = some (m.description.firstMethod includeTransient) := by
  obtain ⟨-, hsimple, henum⟩ := hm.type_eq
  unfold creationMethods at h
  unfold TypeDescription.firstMethod
  cases hkind : m.description.kind with
  | enumKind =>
    rw [henum, hkind, if_pos (by decide)] at h
    cases h
    rw [enumMethod, hsimple]
    rfl
  | classKind =>
    rw [henum, hkind, if_neg (by decide)] at h
    cases hcreators : m.description.creators with
    | nil =>
      rw [hcreators] at h
      obtain ⟨method, hmethod, h⟩ := bind_eq_ok_iff.mp h
      cases h
      unfold defaultMethod at hmethod
      obtain ⟨parameters, -, hmethod⟩ := bind_eq_ok_iff.mp hmethod
      obtain ⟨arguments, -, hmethod⟩ := bind_eq_ok_iff.mp hmethod
      cases hmethod
      rw [hsimple]
      rfl
    | cons creator rest =>
      rw [hcreators] at h
      obtain ⟨made, hmade, h⟩ := bind_eq_ok_iff.mp h
      split at h
      · cases h
      · cases h
        cases mapM_eq_ok_iff.mp hmade with
        | cons hfirst hrest =>
          rw [List.head?_cons, Option.map_some, name_of_creatorMethod hsorted hfirst, hsimple,
            hfields, hconstants]

end Model

/-- Every fixture that can be made for a type has the summary that is described, whatever the
type arguments, the targets, the registry and the UUIDs are. -/
theorem Engine.summary_of_fixture_eq_ok {e : Engine} {request : Request} {m : Model} {peers : Peers}
    {source : UuidSource} {f : Fixture} (hm : m.IsOf e.catalog request)
    (h : e.fixture m peers source = .ok f) :
    f.summary = m.description.summary e.config.includeTransient := by
  obtain ⟨hconstants, constants, hcompose⟩ := fixture_eq_ok h
  obtain ⟨htype, hfixture, rfl, hmethods⟩ := compose_eq_ok hcompose
  obtain ⟨hname, -, -⟩ := hm.type_eq
  have hnames := hconstants.map_name hm
  have hfirst := Model.head?_creationMethods hm hconstants.ascending
    (Model.map_description_includedFields hm _) hnames hmethods
  rw [Fixture.summary, TypeDescription.summary, htype, hfixture, hname, hnames,
    Fixture.defaultMethod?, hfirst, Option.getD_some, TypeMetadata.fixtureName, hname]

end Fixtures
