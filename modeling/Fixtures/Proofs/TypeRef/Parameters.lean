import Fixtures.Proofs.TypeRef.Text

/-!
# `Fixtures.Proofs.TypeRef.Parameters`: where type parameters come from and where they go

`Occurs p t` says that the type parameter `p` stands somewhere in `t`. The operations that change
what a type names are described by what occurs in their results: binding brings in the names that
it is given (`occurs_bindParameters`), qualified names change nothing (`occurs_mapNames_iff`), and
substitution leaves of each parameter what occurs in its image (`occurs_substitute`). A type that
is read from a text has no parameters to begin with (`containsParameter_of_parse`).

A type that mentions none of the bound names stays as it is when they are bound, and a type without
parameters when they are replaced (`bindParameters_eq_self`, `substitute_eq_self`).
-/

set_option autoImplicit false

namespace Fixtures.TypeRef

/-- Induction on types: a declared type may use the statement for each of its arguments. The
recursion that comes with the type has a case for lists of arguments instead. -/
@[elab_as_elim]
theorem induction {motive : TypeRef → Prop} (primitive : ∀ kind, motive (.primitive kind))
    (declared : ∀ name arguments, (∀ t ∈ arguments, motive t) → motive (.declared name arguments))
    (array : ∀ component, motive component → motive (.array component))
    (parameter : ∀ name, motive (.parameter name)) : ∀ t, motive t
  | .primitive kind => primitive kind
  | .declared name arguments =>
    declared name arguments fun t _ => induction primitive declared array parameter t
  | .array component =>
    array component (induction primitive declared array parameter component)
  | .parameter name => parameter name

/-- A type parameter stands somewhere in a type, at any depth of arguments and arrays. -/
inductive Occurs (p : String) : TypeRef → Prop
  | parameter : Occurs p (.parameter p)
  | argument {name : String} {arguments : List TypeRef} {t : TypeRef} :
      t ∈ arguments → Occurs p t → Occurs p (.declared name arguments)
  | component {t : TypeRef} : Occurs p t → Occurs p (.array t)

section

variable {p q : String}

/-- No parameter is in a primitive type. This and the three statements below follow the forms of a
type. -/
theorem not_occurs_primitive {kind : Primitive} : ¬ Occurs p (.primitive kind) := nofun

theorem occurs_parameter_iff : Occurs p (.parameter q) ↔ p = q := by
  constructor
  · rintro ⟨⟩
    rfl
  · rintro rfl
    exact .parameter

theorem occurs_declared_iff {name : String} {arguments : List TypeRef} :
    Occurs p (.declared name arguments) ↔ ∃ t ∈ arguments, Occurs p t := by
  constructor
  · rintro (_ | ⟨ht, h⟩)
    exact ⟨_, ht, h⟩
  · rintro ⟨t, ht, h⟩
    exact .argument ht h

theorem occurs_array_iff {t : TypeRef} : Occurs p (.array t) ↔ Occurs p t := by
  constructor
  · rintro (_ | _ | h)
    exact h
  · exact .component

end

/-- A type contains parameters when one occurs in it. The one is computed, and the other one tells
which parameter it is. -/
theorem containsParameter_iff {t : TypeRef} : t.containsParameter = true ↔ ∃ p, Occurs p t := by
  induction t using induction with
  | primitive kind => simp [containsParameter, not_occurs_primitive]
  | declared name arguments ih =>
    simp only [containsParameter, anyContainsParameter_eq, List.any_eq_true, occurs_declared_iff]
    constructor
    · rintro ⟨t, ht, h⟩
      obtain ⟨p, hp⟩ := (ih t ht).mp h
      exact ⟨p, t, ht, hp⟩
    · rintro ⟨p, t, ht, hp⟩
      exact ⟨t, ht, (ih t ht).mpr ⟨p, hp⟩⟩
  | array component ih => simp only [containsParameter, occurs_array_iff, ih]
  | parameter name => simp [containsParameter, occurs_parameter_iff]

/-- A type contains no parameters when none occurs in it. -/
theorem containsParameter_eq_false_iff {t : TypeRef} :
    t.containsParameter = false ↔ ∀ p, ¬ Occurs p t := by
  rw [← Bool.not_eq_true, containsParameter_iff, not_exists]

/-! ### What occurs after a change -/

/-- After binding there is no parameter but the bound ones and those of the type itself. A name
with arguments is never bound, even if it is one of the parameters. -/
theorem occurs_bindParameters {ps : List String} {p : String} {t : TypeRef}
    (h : Occurs p (t.bindParameters ps)) : p ∈ ps ∨ Occurs p t := by
  induction t using induction with
  | primitive kind => exact absurd h not_occurs_primitive
  | declared name arguments ih =>
    cases arguments with
    | nil =>
      rw [bindParameters] at h
      split at h
      · next hname =>
        rw [occurs_parameter_iff.mp h]
        exact .inl (by simpa using hname)
      · exact .inr h
    | cons argument arguments =>
      -- A type with arguments keeps its name, and parameters are bound in the arguments.
      have hall : bindParameters ps (declared name (argument :: arguments))
          = declared name ((argument :: arguments).map (bindParameters ps)) := by
        rw [bindParameters, bindAllParameters_eq, List.map_cons]
      rw [hall, occurs_declared_iff] at h
      obtain ⟨image, himage, h⟩ := h
      obtain ⟨t, ht, rfl⟩ := List.mem_map.mp himage
      exact (ih t ht h).imp_right (.argument ht)
  | array component ih => exact (ih (occurs_array_iff.mp h)).imp_right .component
  | parameter name => exact .inr h

/-- Qualified names bring in no parameters and take none away. -/
theorem occurs_mapNames_iff {f : String → String} {p : String} {t : TypeRef} :
    Occurs p (t.mapNames f) ↔ Occurs p t := by
  induction t using induction with
  | primitive kind => rfl
  | declared name arguments ih =>
    rw [mapNames, mapAllNames_eq, occurs_declared_iff, occurs_declared_iff]
    simp only [List.mem_map, exists_exists_and_eq_and]
    exact exists_congr fun t => and_congr_right fun ht => ih t ht
  | array component ih => rw [mapNames, occurs_array_iff, occurs_array_iff, ih]
  | parameter name => rfl

/-- What occurs after a substitution occurs in the image of a parameter of the type, which is
the parameter itself where it has no other. -/
theorem occurs_substitute {lookup : String → Option TypeRef} {p : String} {t : TypeRef}
    (h : Occurs p (t.substitute lookup)) :
    ∃ q, Occurs q t ∧ Occurs p ((lookup q).getD (.parameter q)) := by
  induction t using induction with
  | primitive kind => exact absurd h not_occurs_primitive
  | declared name arguments ih =>
    rw [substitute, substituteAll_eq, occurs_declared_iff] at h
    obtain ⟨image, himage, h⟩ := h
    obtain ⟨t, ht, rfl⟩ := List.mem_map.mp himage
    obtain ⟨q, hq, h⟩ := ih t ht h
    exact ⟨q, .argument ht hq, h⟩
  | array component ih =>
    obtain ⟨q, hq, h⟩ := ih (occurs_array_iff.mp h)
    exact ⟨q, .component hq, h⟩
  | parameter name => exact ⟨name, .parameter, h⟩

/-- No parameter is in a type that is read from a text, since a text can only write names. -/
theorem containsParameter_of_parse {text : String} {t : TypeRef} (h : parse text = .ok t) :
    t.containsParameter = false := by
  obtain ⟨lower, rest, hderives, -⟩ := denotes_of_parse h
  exact hderives.isWritten.noParameter

/-! ### Types that stay as they are -/

/-- Nothing is bound where no bound name is mentioned. -/
theorem bindParameters_eq_self {ps : List String} {t : TypeRef}
    (h : ∀ name ∈ t.declaredNames, name ∉ ps) : t.bindParameters ps = t := by
  induction t using induction with
  | primitive kind => rfl
  | declared name arguments ih =>
    cases arguments with
    | nil =>
      rw [bindParameters, if_neg]
      simpa using h name List.mem_cons_self
    | cons argument arguments =>
      have hall : ∀ u ∈ argument :: arguments, u.bindParameters ps = u := by
        intro u hu
        refine ih u hu fun name' hname' => h name' (List.mem_cons_of_mem _ ?_)
        rw [allDeclaredNames_eq]
        exact List.mem_flatMap_of_mem hu hname'
      rw [bindParameters, bindAllParameters_eq, hall argument List.mem_cons_self,
        List.map_congr_left fun u hu => hall u (List.mem_cons_of_mem _ hu), List.map_id']
  | array component ih => rw [bindParameters, ih h]
  | parameter name => rfl

/-- Nothing is replaced where no type parameter occurs, whatever the replacements are. -/
theorem substitute_eq_self {lookup : String → Option TypeRef} {t : TypeRef}
    (h : t.containsParameter = false) : t.substitute lookup = t := by
  induction t using induction with
  | primitive kind => rfl
  | declared name arguments ih =>
    rw [containsParameter, anyContainsParameter_eq, List.any_eq_false] at h
    rw [substitute, substituteAll_eq,
      List.map_congr_left fun u hu => ih u hu (Bool.not_eq_true _ ▸ h u hu), List.map_id']
  | array component ih => rw [substitute, ih h]
  | parameter name => cases h

end Fixtures.TypeRef
