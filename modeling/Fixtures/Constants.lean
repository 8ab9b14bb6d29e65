import Fixtures.Pipeline
import Fixtures.Registry

/-!
# `Fixtures.Constants`: the constants of a fixture

Each field of a type gives one constant for each of its directives, or a single one named after
the field. The value of a constant is what its directive says; without a word of the directive
it is a reference to the fixture of the field's type, when that type is a target, and else the
text that the pipeline gives. The pipeline is asked at most once for a field, when the first of its
constants takes its text from there, and all constants that take it have the same.

Which published fixtures the constants refer to is told by `Model.dependency?` alone, before any
of them is made.
-/

set_option autoImplicit false

namespace Fixtures

/-- What a pass sees of the other fixtures. It is all that the constants of one type depend on
besides the type, the providers and the UUIDs. -/
structure Peers where
  /-- The types of which fixtures are wanted. -/
  targets : List String
  /-- The fixtures that exist so far. -/
  registry : Registry

/-! ### Dependencies -/

namespace ModelField

/-- Whether the field has a constant whose directive does not give the value. A field without
directives has one. -/
def leavesOpen (f : ModelField) : Bool :=
  f.description.constants.isEmpty || f.description.constants.any (·.value.isNone)

/-- The directives of a field, or the one that stands for none. The names are checked here: one
that no constant can have is an error, and so is a field name that no name can be made of. -/
def directives (f : ModelField) : Except IdentifierFault (List ConstantDirective) :=
  match f.description.constants with
  | [] => do return [{ name := ← Naming.constantName? f.name, value := none, reference := none }]
  | given => do
    given.forM fun d => Naming.checkConstant d.name
    return given

end ModelField

namespace Model

/-- The target that a field is of, if its type is one. The type of the model itself does not count:
a fixture never refers to itself. -/
def target? (m : Model) (targets : List String) (f : ModelField) : Option String :=
  let name := f.resolved.qualifiedName
  if targets.contains name ∧ name ≠ m.type.qualifiedName then some name else none

/-- The target whose fixture the constants of a field refer to. Where all directives give their
values there is nothing to refer to. -/
def dependency? (m : Model) (targets : List String) (f : ModelField) : Option String :=
  if f.leavesOpen then m.target? targets f else none

end Model

/-! ### Values -/

/-- Where the value of a constant comes from. A directive decides this together with the targets,
before any value is known. -/
inductive ValueSource where
  /-- The directive. -/
  | explicit (text : String)
  /-- The fixture of a type: a constant of it, or its default method. -/
  | reference (typeName : String) (constant : Option String)
  /-- The pipeline. -/
  | pipeline
deriving DecidableEq

/-- Where the value of a directive of the field `f` comes from. A given value comes before all
else. A directive may ask for a constant of another fixture only if the field is of a target. -/
def ValueSource.of (target : Option String) (f : ModelField) (d : ConstantDirective) :
    Except FixtureError ValueSource :=
  match d.value, target, d.reference with
  | some text, _, _ => .ok (.explicit text)
  | none, some typeName, constant => .ok (.reference typeName constant)
  | none, none, some constant => .error (.noTarget f.name constant f.resolved.qualifiedName)
  | none, none, none => .ok .pipeline

/-- The published fixture of a type that a field refers to. -/
def Registry.require (r : Registry) (typeName field : String) : Except FixtureError Summary :=
  match r.get? typeName with
  | some s => .ok s
  | none => .error (.unpublished field typeName)

/-- A reference to a fixture as it is written inside a package: a constant that the fixture has, or
a call of its default method. -/
def Summary.referenceText (s : Summary) (package : String) :
    Option String → Except FixtureError String
  | some constant =>
    if s.hasConstant constant then .ok (Render.name package s.fixtureName ++ "." ++ constant)
    else .error (.unknownConstant constant s.fixtureName)
  | none => .ok (Render.name package s.fixtureName ++ "." ++ s.defaultMethod ++ "()")

/-- The text of a value; `computed` is what the pipeline gives. -/
def ValueSource.text (registry : Registry) (package computed : String) (f : ModelField) :
    ValueSource → Except FixtureError String
  | .explicit text => .ok text
  | .reference typeName constant => do
    let s ← registry.require typeName f.name
    s.referenceText package constant
  | .pipeline => .ok computed

/-! ### Constants -/

/-- Adds a constant. One of the same name stays and has to have the same value; its type and its
field are those of the first. -/
def addConstant (constants : NameMap Constant) (c : Constant) :
    Except FixtureError (NameMap Constant) :=
  match constants.get? c.name with
  | none => .ok (constants.insert c.name c)
  | some first =>
    if first.value = c.value then .ok constants
    else .error (.duplicateConstant c.name first.value c.value)

namespace Model

/-- The constant that a directive of the field `f` gives. It is declared with the field's type, and
keeps the places of the field and of the directive. -/
def constant (m : Model) (f : ModelField) (d : ConstantDirective × Nat) (value : String) :
    Constant where
  name := d.1.name
  declaredType := Render.type m.package f.resolved.typeRef
  value
  fieldIndex := f.index
  directiveIndex := d.2
  fieldName := f.name

/-- Adds the constant of a directive of the field `f`: where its value comes from, what the value
is, and whether it can stand beside those there are. -/
def addDirective (m : Model) (peers : Peers) (f : ModelField) (computed : String)
    (constants : NameMap Constant) (d : ConstantDirective × Nat) :
    Except FixtureError (NameMap Constant) := do
  let source ← ValueSource.of (m.target? peers.targets f) f d.1
  let value ← source.text peers.registry m.package computed f
  addConstant constants (m.constant f d value)

/-- Whether a directive of the field `f` takes its value from the pipeline. -/
def takesPipeline (m : Model) (peers : Peers) (f : ModelField) (d : ConstantDirective) : Bool :=
  match ValueSource.of (m.target? peers.targets f) f d with
  | .ok .pipeline => true
  | _ => false

/-- Adds the constants of directives of the field `f`. The pipeline is asked at the first directive
that takes its value from there, and those behind it have the same text. Up to there no directive
does, so the text of the absent value stands in. -/
def addDirectives (m : Model) (pipeline : Pipeline) (peers : Peers) (f : ModelField) :
    List (ConstantDirective × Nat) → NameMap Constant → Drawing FixtureError (NameMap Constant)
  | [], constants => return constants
  | d :: rest, constants =>
    if m.takesPipeline peers f d.1 then do
      let computed ← pipeline.resolve f
      liftExcept ((d :: rest).foldlM (m.addDirective peers f computed) constants)
    else do
      let constants ← liftExcept (m.addDirective peers f pipeline.nullToken constants d)
      m.addDirectives pipeline peers f rest constants

/-- Adds the constants of a field. The names of all its directives are checked before the first
constant is made. -/
def addField (m : Model) (pipeline : Pipeline) (peers : Peers) (constants : NameMap Constant)
    (f : ModelField) : Drawing FixtureError (NameMap Constant) := do
  let directives ← liftExcept (f.directives.mapError .identifier)
  m.addDirectives pipeline peers f directives.zipIdx constants

/-- The constants of some fields in order of name. They are made field by field, so the first
failure is that of the first field that has one. -/
def constants (m : Model) (fields : List ModelField) (pipeline : Pipeline) (peers : Peers) :
    Drawing FixtureError (List Constant) := do
  let constants ← fields.foldlM (m.addField pipeline peers) .empty
  return constants.values

end Model

end Fixtures
