import Fixtures.Creation
import Fixtures.Proofs.Constants.Values
import Fixtures.Proofs.NameMap
import Fixtures.Proofs.Provider.Places
import Fixtures.Source

/-!
# `Fixtures.Proofs.Constants.Places`: what a fixture shows of the places of fields

Each constant tells the place of its field. Besides this nothing of a fixture depends on places:
the constants of unplaced fields are the unplaced constants of the fields
(`Model.constants_unplaced`), and the creation methods and the source that are made with unplaced
fields and constants are the same (`Model.creationMethods_map`, `Source.text_unplaced`). The methods
show only the names of constants, so they stay the same under other changes of the constants too.
-/

set_option autoImplicit false

namespace Fixtures

/-- A constant without the place of its field. The place is the number of the field in the
description, with the fields that are not included counted too. -/
def Constant.unplaced (c : Constant) : Constant := { c with fieldIndex := 0 }

/-! ### Constants -/

/-- A fold commutes with a change of its results if each step does. The monad may be one of
failures or one that draws. -/
theorem foldlM_map_of_commute {μ : Type → Type} [Monad μ] [LawfulMonad μ] {α α' β β' : Type}
    {f : β → α → μ β} {f' : β' → α' → μ β'} {g : β → β'} {k : α → α'}
    (h : ∀ b a, f' (g b) (k a) = g <$> f b a) (items : List α) (b : β) :
    (items.map k).foldlM f' (g b) = g <$> items.foldlM f b := by
  induction items generalizing b with
  | nil => rw [List.map_nil, List.foldlM_nil, List.foldlM_nil, map_pure]
  | cons item rest ih =>
    rw [List.map_cons, List.foldlM_cons, List.foldlM_cons, h, bind_map_left, map_bind]
    exact bind_congr fun next => ih next

/-- Adding looks at names and values, and so not at places: the constants that are there, the new
one, and the error are the same without them. -/
theorem addConstant_unplaced (constants : NameMap Constant) (c : Constant) :
    addConstant (constants.map Constant.unplaced) c.unplaced
      = NameMap.map Constant.unplaced <$> addConstant constants c := by
  have hname : c.unplaced.name = c.name := rfl
  unfold addConstant
  rw [hname, NameMap.get?_map]
  cases constants.get? c.name with
  | none => exact congrArg Except.ok (NameMap.map_insert Constant.unplaced constants c.name c)
  | some first =>
    simp only [Option.map_some]
    -- Values decide whether the name may be taken again.
    by_cases hvalue : first.value = c.value
    · rw [if_pos hvalue]
      exact if_pos hvalue
    · rw [if_neg hvalue]
      exact if_neg hvalue

namespace Model

/-- The value of a directive is made from its field without looking at the place of this. -/
theorem addDirective_unplaced (m : Model) (peers : Peers) (f : ModelField) (computed : String)
    (constants : NameMap Constant) (d : ConstantDirective × Nat) :
    m.addDirective peers f.unplaced computed (constants.map Constant.unplaced) d
      = NameMap.map Constant.unplaced <$> m.addDirective peers f computed constants d := by
  unfold addDirective
  rw [map_bind]
  refine bind_congr fun source => ?_
  rw [map_bind]
  exact bind_congr fun value => addConstant_unplaced constants (m.constant f d value)

/-- The directives of an unplaced field draw what those of the field draw, and have the unplaced
constants. -/
theorem addDirectives_unplaced (m : Model) (pipeline : Pipeline) (peers : Peers) (f : ModelField)
    (items : List (ConstantDirective × Nat)) (constants : NameMap Constant) :
    m.addDirectives pipeline peers f.unplaced items (constants.map Constant.unplaced)
      = NameMap.map Constant.unplaced <$> m.addDirectives pipeline peers f items constants := by
  induction items generalizing constants with
  | nil => rw [addDirectives, addDirectives, map_pure]
  | cons d rest ih =>
    have htakes : m.takesPipeline peers f.unplaced d.1 = m.takesPipeline peers f d.1 := rfl
    rw [addDirectives, addDirectives, htakes]
    split
    -- Once the text of the pipeline is there, the directives from here on are one plain fold.
    · rw [Pipeline.resolve_unplaced, map_bind]
      refine bind_congr fun computed => ?_
      have hfold := foldlM_map_of_commute (k := id) (addDirective_unplaced m peers f computed)
        (d :: rest) constants
      rw [List.map_id] at hfold
      rw [hfold]
      exact liftExcept_map _ _
    · rw [addDirective_unplaced, map_bind]
      refine (congrArg (· >>= _) (liftExcept_map _ _)).trans ?_
      rw [bind_map_left]
      exact bind_congr fun next => ih next

/-- So does the whole field, whose names are checked without its place. -/
theorem addField_unplaced (m : Model) (pipeline : Pipeline) (peers : Peers)
    (constants : NameMap Constant) (f : ModelField) :
    m.addField pipeline peers (constants.map Constant.unplaced) f.unplaced
      = NameMap.map Constant.unplaced <$> m.addField pipeline peers constants f := by
  unfold addField
  rw [map_bind]
  exact bind_congr fun ds => addDirectives_unplaced m pipeline peers f ds.zipIdx constants

/-- Unplaced fields have the unplaced constants. The order is that of the names, which has nothing
to do with places. -/
theorem constants_unplaced (m : Model) (fields : List ModelField) (pipeline : Pipeline)
    (peers : Peers) :
    m.constants (fields.map ModelField.unplaced) pipeline peers
      = List.map Constant.unplaced <$> m.constants fields pipeline peers := by
  have hfold := foldlM_map_of_commute (addField_unplaced m pipeline peers) fields NameMap.empty
  have hempty : (NameMap.empty : NameMap Constant).map Constant.unplaced = NameMap.empty := rfl
  rw [hempty] at hfold
  unfold Model.constants
  rw [hfold, bind_map_left, map_bind]
  simp only [NameMap.values_map, map_pure]

end Model

/-! ### Creation methods -/

/-- Halving a list of changed items finds the changed item. It compares the same keys at the same
places, whether the list is sorted or not. -/
theorem Bisection.find?_map {α β : Type} (key : β → String) (name : String) (g : α → β)
    (items : List α) :
    Bisection.find? key name (items.map g) = (Bisection.find? (key ∘ g) name items).map g := by
  fun_induction Bisection.find? (key ∘ g) name items with
  | case1 items h hlt ih =>
    have hmapped : 1 < (items.map g).length := by simpa using h
    rw [Bisection.find?, dif_pos hmapped, if_pos (by simpa using hlt), List.length_map,
      ← List.map_take, ih]
  | case2 items h hge ih =>
    have hmapped : 1 < (items.map g).length := by simpa using h
    rw [Bisection.find?, dif_pos hmapped, if_neg (by simpa using hge), List.length_map,
      ← List.map_drop, ih]
  | case3 items h =>
    rw [Bisection.find?, dif_neg (by simpa using h), List.find?_map]
    rfl

/-- A change of constants that does not show in their names and in the names of their fields.
Creation methods go by nothing else. -/
structure Constant.Keeps (k : Constant → Constant) : Prop where
  name : ∀ c, (k c).name = c.name
  fieldName : ∀ c, (k c).fieldName = c.fieldName

/-- To leave the place out is such a change. -/
theorem Constant.keeps_unplaced : Keeps unplaced := ⟨fun _ => rfl, fun _ => rfl⟩

section

variable {k : Constant → Constant} (hk : Constant.Keeps k)

include hk

/-- Among changed constants the changed one is found under a name. -/
theorem Constant.find?_map (constants : List Constant) (name : String) :
    Constant.find? (constants.map k) name = (Constant.find? constants name).map k := by
  have hname : Constant.name ∘ k = Constant.name := funext hk.name
  rw [Constant.find?, Bisection.find?_map, hname]
  rfl

/-- What a parameter means does not depend on places, nor on what else changes in the constants. -/
theorem Argument.ofParameter_map (fields : List ModelField) (constants : List Constant) :
    ofParameter (fields.map ModelField.unplaced) (constants.map k)
      = ofParameter fields constants := by
  -- A parameter means a constant of its name, or else the primary constant of the field of its
  -- name.
  have hfield : ofField? (fields.map ModelField.unplaced) (constants.map k)
      = ofField? fields constants := by
    funext parameter
    have hsame : (fun f : ModelField => f.name == parameter) ∘ ModelField.unplaced
        = fun f => f.name == parameter := rfl
    unfold ofField?
    rw [List.find?_map, hsame]
    cases fields.find? fun f => f.name == parameter with
    | none => rfl
    | some f =>
      simp only [Option.map_some, Constant.find?_map hk, Option.map_map, Function.comp_def, hk.name]
      rfl
  funext parameter
  unfold ofParameter
  rw [Constant.find?_map hk, hfield]
  cases Constant.find? constants parameter with
  | none => rfl
  | some c => exact congrArg Except.ok (congrArg₂ Argument.mk (hk.name c) (hk.fieldName c))

/-- The creation methods do not depend on places, nor on what else changes in the constants. -/
theorem Model.creationMethods_map (m : Model) (fields : List ModelField)
    (constants : List Constant) (nullToken : String) :
    m.creationMethods (fields.map ModelField.unplaced) (constants.map k) nullToken
      = m.creationMethods fields constants nullToken := by
  have hdefault : m.defaultMethod (fields.map ModelField.unplaced) (constants.map k)
      = m.defaultMethod fields constants := by
    unfold defaultMethod
    rw [Argument.ofParameter_map hk, List.mapM_map]
    rfl
  have hcreator : m.creatorMethod (fields.map ModelField.unplaced) (constants.map k)
      = m.creatorMethod fields constants := by
    funext creator
    cases creator with
    | constructor => simp only [creatorMethod, Argument.ofParameter_map hk]
    | builder => simp only [creatorMethod, Argument.ofParameter_map hk]
  unfold creationMethods
  rw [hdefault, hcreator]

end

/-- The source does not show places. Constants stand in it in the order of their names, each with
its type and value. -/
theorem Source.text_unplaced (c : Catalog) (m : Model) (constants : List Constant)
    (methods : List CreationMethod) (withHeader : Bool) :
    Source.text c m (constants.map Constant.unplaced) methods withHeader
      = Source.text c m constants methods withHeader := by
  have hlines : (constants.map Constant.unplaced).map constantLine
      = constants.map constantLine := by
    rw [List.map_map]
    rfl
  unfold text lines
  rw [hlines, List.isEmpty_map]

end Fixtures
