import Fixtures.Metadata
import Fixtures.Proofs.Failing
import Fixtures.Proofs.TypeRef.Parameters

/-!
# `Fixtures.Proofs.Resolution`: what a resolved type is made of

A type is resolved by depth: inside the default arguments of a described generic type without
arguments one expansion less is left. But where a resolution has an answer, it has the same one with
more expansions (`ofRefWith_mono`). So `made_of_ofRef` can tell without depths what one step of it
does: the type is completed, by default arguments or by the root object type in the place of a type
parameter (`Catalog.completed`), and then `ofRef` itself resolves its component or its arguments
(`Made`).

All that is known of every resolved type follows from that, by induction on the resolved type.
-/

set_option autoImplicit false

namespace Fixtures

namespace Catalog

/-- A name with default arguments, if it is that of a described type. A described type without type
parameters has none, so its name stays as it is too. -/
def completedName (c : Catalog) (name : String) : TypeRef :=
  match c.get? name with
  | some d => .declared name (c.defaultArguments d)
  | none => .named name

/-- A type with default arguments in the place of none, and the root object type in the place of a
type parameter. Types inside it stay as they are. -/
def completed (c : Catalog) : TypeRef → TypeRef
  | .declared name [] => c.completedName name
  | .parameter _ => c.completedName TypeRef.objectName
  | t => t

variable {c : Catalog}

theorem length_defaultArguments (d : TypeDescription) :
    (c.defaultArguments d).length = d.typeParameters.length :=
  List.length_map _

/-- A name stays the same with its arguments, be they default ones or none. -/
theorem exists_completedName_eq (c : Catalog) (name : String) :
    ∃ arguments, c.completedName name = .declared name arguments := by
  unfold completedName
  cases c.get? name with
  | none => exact ⟨[], rfl⟩
  | some d => exact ⟨c.defaultArguments d, rfl⟩

/-- So does the name of a declared type. -/
theorem exists_completed_declared_eq (c : Catalog) (name : String) (arguments : List TypeRef) :
    ∃ arguments', c.completed (.declared name arguments) = .declared name arguments' := by
  cases arguments with
  | nil => exact c.exists_completedName_eq name
  | cons argument arguments => exact ⟨argument :: arguments, rfl⟩

end Catalog

namespace TypeMetadata

/-- Induction on resolved types: a declared type may use the statement for what each of its
parameters stands for. -/
@[elab_as_elim]
theorem induction {motive : TypeMetadata → Prop} (primitive : ∀ kind, motive (.primitive kind))
    (array : ∀ written component, motive component → motive (.array written component))
    (declared : ∀ name arguments parameters origin,
      (∀ parameter ∈ parameters, motive parameter.2) →
        motive (.declared name arguments parameters origin)) : ∀ t, motive t
  | .primitive kind => primitive kind
  | .array written component =>
    array written component (induction primitive array declared component)
  | .declared name arguments parameters origin =>
    declared name arguments parameters origin fun parameter _ =>
      induction primitive array declared parameter.2
decreasing_by
  · simp only [TypeMetadata.array.sizeOf_spec]
    omega
  · next hmem =>
    have hsize := List.sizeOf_lt_of_mem hmem
    rw [Prod.mk.sizeOf_spec] at hsize
    simp only [TypeMetadata.declared.sizeOf_spec]
    omega

/-! ### Names -/

/-- What a name is to a catalog: a described class or enum, or a type of elsewhere, for which there
is no description. -/
def originIn (c : Catalog) (name : String) : Origin :=
  match c.get? name with
  | none => .foreign
  | some d => originOf d

/-- The names that the parameters of a declared type have to a catalog, in order: the described
ones, or without a description as many numbered ones as there are arguments. -/
def knownNames (c : Catalog) (name : String) (arguments : List TypeRef) : List String :=
  match c.get? name with
  | some d => d.parameterNames
  | none => positionalNames arguments.length

section

variable {c : Catalog} {expand expand' : Expansion} {name : String} {arguments : List TypeRef}
  {d : TypeDescription} {t : TypeRef} {r : TypeMetadata}

theorem knownNames_of_get? (h : c.get? name = some d) (arguments : List TypeRef) :
    knownNames c name arguments = d.parameterNames := by
  rw [knownNames, h]

theorem knownNames_of_get?_eq_none (h : c.get? name = none) (arguments : List TypeRef) :
    knownNames c name arguments = positionalNames arguments.length := by
  rw [knownNames, h]

theorem originIn_of_get? (h : c.get? name = some d) : originIn c name = originOf d := by
  rw [originIn, h]

theorem originIn_of_get?_eq_none (h : c.get? name = none) : originIn c name = .foreign := by
  rw [originIn, h]

theorem length_positionalNames (n : Nat) : (positionalNames n).length = n := by
  rw [positionalNames, List.length_map, List.length_range]

theorem length_parameterNames (d : TypeDescription) :
    d.parameterNames.length = d.typeParameters.length :=
  List.length_map _

/-! ### Types with arguments -/

/-- Types are resolved one by one, up to the first that fails. The two functions are defined
together, as a declared type holds a list of types. -/
theorem ofRefsWith_eq (ts : List TypeRef) :
    ofRefsWith c expand ts = ts.mapM (ofRefWith c expand) := by
  induction ts with
  | nil => rw [ofRefsWith, List.mapM_nil]; rfl
  | cons t ts ih => rw [ofRefsWith, List.mapM_cons, ih]

/-- A type with arguments is resolved by them, if there are as many as its name takes. A name
without a description takes any number of arguments. -/
theorem ofRefWith_declared (h : arguments ≠ []) :
    ofRefWith c expand (.declared name arguments) =
      if (knownNames c name arguments).length = arguments.length then do
        let resolved ← arguments.mapM (ofRefWith c expand)
        return .declared name arguments ((knownNames c name arguments).zip resolved)
          (originIn c name)
      else
        .error (.arity name (knownNames c name arguments).length arguments.length) := by
  cases arguments with
  | nil => exact absurd rfl h
  | cons argument arguments =>
    rw [ofRefWith]
    cases hget : c.get? name with
    | none =>
      rw [knownNames_of_get?_eq_none hget, originIn_of_get?_eq_none hget,
        if_pos (length_positionalNames _), List.mapM_cons, ofRefsWith_eq]
      simp only [bind_assoc, pure_bind, List.length_cons]
    | some d =>
      rw [knownNames_of_get? hget, originIn_of_get? hget, length_parameterNames,
        List.mapM_cons, ofRefsWith_eq]
      simp only [bind_assoc, pure_bind, List.length_cons]

/-! ### More expansions -/

/-- The first computation has no answer, or both do the same. An answer of the first one, be it a
success or a failure, is the answer of the second one. -/
def Approximates {α : Type} (x y : Except FixtureError α) : Prop := x = .error .endless ∨ x = y

namespace Approximates

variable {α β : Type} {x y : Except FixtureError α}

theorem refl (x : Except FixtureError α) : Approximates x x := .inr rfl

theorem eq_ok {a : α} (h : Approximates x y) (hx : x = .ok a) : y = .ok a := by
  rcases h with hend | heq
  · rw [hx] at hend
    cases hend
  · exact heq.symm.trans hx

/-- Of two steps the second ones may have an answer only where the first ones have one. -/
theorem bind {f g : α → Except FixtureError β} (h : Approximates x y)
    (hf : ∀ a, Approximates (f a) (g a)) : Approximates (x >>= f) (y >>= g) := by
  rcases h with rfl | rfl
  · exact .inl rfl
  · cases x with
    | error err => exact .refl _
    | ok a => exact hf a

/-- One step on each item has an answer when all steps up to the first failure have one. -/
theorem mapM {f g : α → Except FixtureError β} {items : List α}
    (h : ∀ item ∈ items, Approximates (f item) (g item)) :
    Approximates (items.mapM f) (items.mapM g) := by
  induction items with
  | nil => exact .refl _
  | cons item rest ih =>
    rw [List.mapM_cons, List.mapM_cons]
    refine (h item List.mem_cons_self).bind fun b => ?_
    exact (ih fun i hi => h i (List.mem_cons_of_mem _ hi)).bind fun more => .refl _

end Approximates

/-- The second expansion gives what the first one does, wherever that one has an answer. An
expansion of greater depth extends one of less. -/
def Expansion.Extends (expand expand' : Expansion) : Prop :=
  ∀ d, Approximates (expand d) (expand' d)

/-- A name without arguments is resolved alike with more expansions. Only a described generic type
asks for an expansion at all. -/
theorem ofNameWith_mono (hexpand : expand.Extends expand') (name : String) :
    Approximates (ofNameWith c expand name) (ofNameWith c expand' name) := by
  unfold ofNameWith
  split
  · exact .refl _
  · split
    · exact .refl _
    · exact (hexpand _).bind fun _ => .refl _

/-- A type is resolved alike with more expansions. A type that runs out of them has no answer with
fewer and may get one, but no answer is changed, not even a failure. -/
theorem ofRefWith_mono (hexpand : expand.Extends expand') (t : TypeRef) :
    Approximates (ofRefWith c expand t) (ofRefWith c expand' t) := by
  induction t using TypeRef.induction with
  | primitive kind =>
    rw [ofRefWith, ofRefWith]
    exact .refl _
  | array component ih =>
    rw [ofRefWith, ofRefWith]
    exact ih.bind fun _ => .refl _
  | parameter name =>
    rw [ofRefWith, ofRefWith]
    exact ofNameWith_mono hexpand _
  | declared name arguments ih =>
    by_cases hnil : arguments = []
    · subst hnil
      rw [ofRefWith, ofRefWith]
      exact ofNameWith_mono hexpand name
    · rw [ofRefWith_declared hnil, ofRefWith_declared hnil]
      -- Whether the number of arguments is right does not depend on expansions.
      split
      · exact (Approximates.mapM ih).bind fun _ => .refl _
      · exact .refl _

theorem expandDefaults_succ (c : Catalog) (depth : Nat) (d : TypeDescription) :
    expandDefaults c (depth + 1) d = do
      return (c.defaultArguments d,
        ← ofRefsWith c (expandDefaults c depth) (c.defaultArguments d)) :=
  rfl

/-- Expansion by default arguments gives the same at a greater depth, once it has an answer. At
depth 0 there is none, and each further depth resolves the arguments one deeper. -/
theorem extends_expandDefaults (c : Catalog) (depth : Nat) :
    (expandDefaults c depth).Extends (expandDefaults c (depth + 1)) := by
  induction depth with
  | zero => exact fun d => .inl rfl
  | succ depth ih =>
    intro d
    rw [expandDefaults_succ, expandDefaults_succ, ofRefsWith_eq, ofRefsWith_eq]
    exact (Approximates.mapM fun t _ => ofRefWith_mono ih t).bind fun _ => .refl _

/-! ### One step of a resolution -/

/-- The resolved type is made of the type by resolving its component, or its arguments for the
parameters that the catalog knows of it. -/
inductive Made (c : Catalog) : TypeRef → TypeMetadata → Prop
  | primitive {kind : Primitive} : Made c (.primitive kind) (.primitive kind)
  | array {written : TypeRef} {component : TypeMetadata} (h : ofRef c written = .ok component) :
      Made c (.array written) (.array written component)
  | declared {name : String} {arguments : List TypeRef} {parameters : List (String × TypeMetadata)}
      (hnames : parameters.map (·.1) = knownNames c name arguments)
      (h : List.Forall₂ (fun t parameter => ofRef c t = .ok parameter.2) arguments parameters) :
      Made c (.declared name arguments) (.declared name arguments parameters (originIn c name))

/-- The names of the parameters and what they stand for are put together. There are as many of one
as of the other, so nothing is cut off. -/
theorem Made.of_resolved {resolved : List TypeMetadata}
    (hnames : (knownNames c name arguments).length = arguments.length)
    (h : List.Forall₂ (fun t r => ofRef c t = .ok r) arguments resolved) :
    Made c (.declared name arguments) (.declared name arguments
      ((knownNames c name arguments).zip resolved) (originIn c name)) := by
  have hlength := hnames.trans h.length_eq
  refine .declared (List.map_fst_zip hlength.le) ?_
  rw [← List.map_snd_zip hlength.ge] at h
  exact (List.forall₂_map_right_iff (R := fun t r => ofRef c t = .ok r)).mp h

/-- A name without arguments is resolved by its default arguments. They were resolved with an
expansion less, which is no difference to `ofRef`, as there was an answer. -/
theorem made_of_ofNameWith (h : ofNameWith c (expandDefaults c 2) name = .ok r) :
    Made c (c.completedName name) r := by
  unfold ofNameWith at h
  unfold Catalog.completedName
  cases hget : c.get? name with
  | none =>
    rw [hget] at h
    cases h
    have hnames := knownNames_of_get?_eq_none hget []
    rw [← originIn_of_get?_eq_none hget]
    exact .declared hnames.symm .nil
  | some d =>
    simp only [hget] at h ⊢
    have hnames := knownNames_of_get? hget (c.defaultArguments d)
    have hlength : (knownNames c name (c.defaultArguments d)).length =
        (c.defaultArguments d).length := by
      rw [hnames, length_parameterNames, Catalog.length_defaultArguments]
    rw [← originIn_of_get? hget] at h
    split at h
    · next hempty =>
      cases h
      have hnone : c.defaultArguments d = [] := by
        rw [Catalog.defaultArguments, List.isEmpty_iff.mp hempty, List.map_nil]
      rw [hnone] at hlength ⊢
      exact .declared (List.length_eq_zero_iff.mp hlength).symm .nil
    · obtain ⟨⟨arguments, resolved⟩, hmade, h⟩ := bind_eq_ok_iff.mp h
      cases h
      rw [expandDefaults_succ, ofRefsWith_eq] at hmade
      obtain ⟨resolved, hresolved, hmade⟩ := bind_eq_ok_iff.mp hmade
      cases hmade
      rw [← hnames]
      refine .of_resolved hlength (mapM_eq_ok_iff.mp ?_)
      -- The default arguments were resolved with one expansion less than `ofRef` has.
      have hmore := Approximates.mapM fun t (_ : t ∈ c.defaultArguments d) =>
        ofRefWith_mono (c := c) (extends_expandDefaults c 1) t
      exact hmore.eq_ok hresolved

/-- A resolved type is made of the completed type. Only a bare name and a type parameter are
completed; a type that has arguments is made of these, in as many parameters. -/
theorem made_of_ofRef (h : ofRef c t = .ok r) : Made c (c.completed t) r := by
  unfold ofRef at h
  cases t with
  | primitive kind =>
    rw [ofRefWith] at h
    cases h
    exact .primitive
  | array component =>
    rw [ofRefWith] at h
    obtain ⟨resolved, hresolved, h⟩ := bind_eq_ok_iff.mp h
    cases h
    exact .array hresolved
  | parameter name =>
    rw [ofRefWith] at h
    exact made_of_ofNameWith h
  | declared name arguments =>
    by_cases hnil : arguments = []
    · subst hnil
      rw [ofRefWith] at h
      exact made_of_ofNameWith h
    · rw [ofRefWith_declared hnil] at h
      split at h
      · next hlength =>
        obtain ⟨resolved, hresolved, h⟩ := bind_eq_ok_iff.mp h
        cases h
        -- With arguments there is nothing to complete at the top.
        have hsame : c.completed (.declared name arguments) = .declared name arguments := by
          cases arguments with
          | nil => exact absurd rfl hnil
          | cons argument arguments => rfl
        rw [hsame]
        exact .of_resolved hlength (mapM_eq_ok_iff.mp hresolved)
      · cases h

theorem Made.typeRef_eq (h : Made c t r) : r.typeRef = t := by
  cases h with
  | primitive => rfl
  | array h => rfl
  | declared hnames h => rfl

/-- A type is resolved with the arguments that it has when it is completed. What is inside the
arguments is kept as written, though it is completed where it is resolved itself. -/
theorem typeRef_of_ofRef (h : ofRef c t = .ok r) : r.typeRef = c.completed t :=
  (made_of_ofRef h).typeRef_eq

/-- The component of a resolved array is resolved from the written one. -/
theorem ofRef_of_ofRef_array {written : TypeRef} {component : TypeMetadata}
    (h : ofRef c t = .ok (.array written component)) : ofRef c written = .ok component := by
  have hmade := made_of_ofRef h
  generalize c.completed t = u at hmade
  cases hmade with
  | array hcomponent => exact hcomponent

/-- A resolved declared type has the known parameters, each resolved from its argument. -/
theorem forall₂_of_ofRef_declared {parameters : List (String × TypeMetadata)} {origin : Origin}
    (h : ofRef c t = .ok (.declared name arguments parameters origin)) :
    parameters.map (·.1) = knownNames c name arguments ∧
      List.Forall₂ (fun t parameter => ofRef c t = .ok parameter.2) arguments parameters := by
  have hmade := made_of_ofRef h
  generalize c.completed t = u at hmade
  cases hmade with
  | declared hnames harguments => exact ⟨hnames, harguments⟩

end

end TypeMetadata

end Fixtures
