import Fixtures.Proofs.Expansion

/-!
# `Fixtures.Proofs.Consistency`: a resolved type and its parts

A resolved type tells twice what is inside it: `typeRef` names the arguments or the component, and
the parts are what these are resolved to. It is consistent when both tell the same, at every depth.

The two are not made in the same way. A type is completed before it is resolved (`made_of_ofRef`),
so a part has default arguments where none are written and the root object type in the place of a
type parameter. But the type around it keeps what is written (`IsCompleted`). Therefore a resolved
type is consistent exactly where nothing inside it is left to complete (`consistent_iff_of_ofRef`):
`typeRef` has no type parameters and uses no described generic type without arguments.
-/

set_option autoImplicit false

namespace Fixtures

open TypeRef (Occurs UsesRaw objectName)

/-- The types that stand directly in a type: its arguments, or its component. What is in these is
not among them. -/
def TypeRef.inside : TypeRef → List TypeRef
  | .declared _ arguments => arguments
  | .array component => [component]
  | _ => []

namespace TypeMetadata

/-- The type names its parts as they name themselves: an array its component, and a declared type
what its parameters stand for, in order. Nothing is asked of a primitive type, which has no parts.
-/
def IsConsistent : TypeMetadata → Prop
  | primitive _ => True
  | t@(array _ component) => t.typeRef = .array component.typeRef
  | t@(declared _ _ parameters _) =>
    t.typeRef = .declared t.qualifiedName (parameters.map fun parameter => parameter.2.typeRef)

/-- All parts of a type are consistent, the type itself included. So what it names can be trusted
at any depth. -/
def Consistent (t : TypeMetadata) : Prop := ∀ s : TypeMetadata, s.Within t → s.IsConsistent

/-- The parts of the type name themselves as the type names them, but completed. All resolved types
have this, while only some are consistent. -/
def IsCompleted (c : Catalog) : TypeMetadata → Prop
  | primitive _ => True
  | array written component => component.typeRef = c.completed written
  | declared _ arguments parameters _ =>
    parameters.map (fun parameter => parameter.2.typeRef) = arguments.map c.completed

end TypeMetadata

/-! ### Types with nothing to complete -/

namespace Catalog

variable {c : Catalog} {name : String} {arguments : List TypeRef} {t : TypeRef}

theorem isSettledArgument_primitive {kind : Primitive} : c.IsSettledArgument (.primitive kind) :=
  ⟨nofun, fun _ => TypeRef.not_occurs_primitive⟩

theorem isSettledArgument_array_iff :
    c.IsSettledArgument (.array t) ↔ c.IsSettledArgument t := by
  constructor
  · exact fun h => Calls.component.isSettledArgument h
  · rintro ⟨hnormal, hclosed⟩
    refine ⟨fun name hraw => ?_, fun p hp => hclosed p (TypeRef.occurs_array_iff.mp hp)⟩
    cases hraw with
    | component hraw => exact hnormal name hraw

/-- A declared type has nothing to complete exactly if its arguments have not. Without arguments
the name itself must not be that of a described generic type, or it is a raw use. -/
theorem isSettledArgument_declared_iff (h : arguments = [] → ¬ c.IsGeneric name) :
    c.IsSettledArgument (.declared name arguments) ↔ ∀ t ∈ arguments, c.IsSettledArgument t := by
  constructor
  · exact fun h t ht => (Calls.argument ht).isSettledArgument h
  · refine fun harguments => ⟨fun other hraw => ?_, fun p hp => ?_⟩
    · cases hraw with
      | self => exact h rfl
      | argument ht hraw => exact (harguments _ ht).1 other hraw
    · obtain ⟨t, ht, hp⟩ := TypeRef.occurs_declared_iff.mp hp
      exact (harguments t ht).2 p hp

/-- A type with nothing to complete stays as it is. Only a bare name or a type parameter is ever
completed, and neither of them is left to complete here. -/
theorem completed_eq_self (h : c.IsSettledArgument t) : c.completed t = t := by
  unfold completed
  split
  · next name =>
    unfold completedName
    cases hget : c.get? name with
    | none => rfl
    | some d =>
      -- A description without type parameters has no default arguments.
      have hnone : d.typeParameters = [] := by
        by_contra hne
        exact h.1 name .self ⟨d, hget, hne⟩
      simp only [defaultArguments, hnone, List.map_nil]
  · next name => exact absurd .parameter (h.2 name)
  · rfl

/-- A type has nothing to complete if it is not changed and has nothing to complete then. The
second part is needed, since default arguments may be raw uses of the root object type themselves.
-/
theorem isSettledArgument_iff :
    c.IsSettledArgument t ↔ c.completed t = t ∧ c.IsSettledArgument (c.completed t) := by
  constructor
  · intro h
    rw [completed_eq_self h]
    exact ⟨rfl, h⟩
  · rintro ⟨hsame, h⟩
    rwa [hsame] at h

/-- A name with default arguments has nothing to complete inside if the root object type is not
generic. -/
theorem isSettledArgument_of_mem_inside_completedName (hobject : ¬ c.IsGeneric objectName)
    {u : TypeRef} (hu : u ∈ (c.completedName name).inside) : c.IsSettledArgument u := by
  unfold completedName at hu
  split at hu
  · next d hget =>
    exact ⟨hasNormalDefaults_of_not_isGeneric hobject d (c.mem_toList_of_get? hget) u hu,
      fun _ => not_occurs_of_mem_defaultArguments hu⟩
  · cases hu

/-- If the root object type is not generic, a completed type has nothing to complete inside when
the type itself has not. -/
theorem isSettledArgument_of_mem_inside_completed (hobject : ¬ c.IsGeneric objectName)
    (ht : ∀ u ∈ t.inside, c.IsSettledArgument u) :
    ∀ u ∈ (c.completed t).inside, c.IsSettledArgument u := by
  unfold completed
  split
  · exact fun u => isSettledArgument_of_mem_inside_completedName hobject
  · exact fun u => isSettledArgument_of_mem_inside_completedName hobject
  · exact ht

end Catalog

namespace TypeMetadata

variable {c : Catalog} {t : TypeRef} {r s : TypeMetadata}

/-- The type that a resolved one is made of has something to complete only inside. It was completed
at the top before it was resolved. -/
theorem Made.isSettledArgument_iff (h : Made c t r) :
    c.IsSettledArgument t ↔ ∀ u ∈ t.inside, c.IsSettledArgument u := by
  cases h with
  | primitive => exact ⟨nofun, fun _ => Catalog.isSettledArgument_primitive⟩
  | array h =>
    rw [Catalog.isSettledArgument_array_iff]
    exact List.forall_mem_singleton.symm
  | @declared name arguments parameters hnames h =>
    refine Catalog.isSettledArgument_declared_iff ?_
    -- Without arguments there are no parameters, so the name has none to the catalog.
    rintro rfl ⟨d, hget, hne⟩
    rw [knownNames_of_get? hget, List.forall₂_nil_left_iff.mp h, List.map_nil] at hnames
    exact hne (List.map_eq_nil_iff.mp hnames.symm)

/-! ### Consistent types -/

theorem consistent_primitive {kind : Primitive} : (primitive kind).Consistent := by
  rintro s ⟨⟩
  trivial

theorem consistent_array_iff {written : TypeRef} {component : TypeMetadata} :
    (array written component).Consistent ↔
      component.typeRef = written ∧ component.Consistent := by
  constructor
  · intro h
    exact ⟨(TypeRef.array.inj (h _ .self)).symm, fun s hs => h s (.component hs)⟩
  · rintro ⟨rfl, h⟩ s (_ | hs)
    · rfl
    · exact h s hs

theorem consistent_declared_iff {name : String} {arguments : List TypeRef}
    {parameters : List (String × TypeMetadata)} {origin : Origin} :
    (declared name arguments parameters origin).Consistent ↔
      parameters.map (fun parameter => parameter.2.typeRef) = arguments ∧
        ∀ parameter ∈ parameters, parameter.2.Consistent := by
  constructor
  · intro h
    exact ⟨(TypeRef.declared.inj (h _ .self)).2.symm,
      fun parameter hmem s hs => h s (.parameter hmem hs)⟩
  · rintro ⟨rfl, h⟩ s (_ | _ | ⟨hmem, hs⟩)
    · rfl
    · exact h _ hmem s hs

/-! ### What is resolved -/

/-- A part of a resolved type is resolved itself. So what is shown of all resolved types holds at
every depth. -/
theorem exists_ofRef_of_within (h : ofRef c t = .ok r) (hs : s.Within r) :
    ∃ u, ofRef c u = .ok s := by
  induction hs generalizing t with
  | self => exact ⟨t, h⟩
  | component _ ih => exact ih (ofRef_of_ofRef_array h)
  | parameter hmem _ ih =>
    obtain ⟨u, -, hu⟩ := exists_of_mem_right (forall₂_of_ofRef_declared h).2 hmem
    exact ih hu

/-- The parts of a resolved type are completed. -/
theorem isCompleted_of_ofRef (h : ofRef c t = .ok r) : r.IsCompleted c := by
  cases r with
  | primitive kind => trivial
  | array written component => exact typeRef_of_ofRef (ofRef_of_ofRef_array h)
  | declared name arguments parameters origin =>
    show parameters.map _ = arguments.map _
    have hsame := (forall₂_of_ofRef_declared h).2.imp fun _ _ => typeRef_of_ofRef
    rw [← List.forall₂_eq_eq_eq, List.forall₂_map_left_iff, List.forall₂_map_right_iff]
    exact hsame.flip

/-- A resolved type is consistent exactly if its type has nothing to complete. The induction is on
the resolved type: a part tells the same as the type around it exactly if completing does not
change what is written there. -/
theorem consistent_iff_isSettledArgument (h : ofRef c t = .ok r) :
    r.Consistent ↔ c.IsSettledArgument r.typeRef := by
  induction r using TypeMetadata.induction generalizing t with
  | primitive kind =>
    exact ⟨fun _ => Catalog.isSettledArgument_primitive, fun _ => consistent_primitive⟩
  | array written component ih =>
    have hcomponent := ofRef_of_ofRef_array h
    calc (array written component).Consistent
      _ ↔ component.typeRef = written ∧ c.IsSettledArgument component.typeRef := by
        rw [consistent_array_iff, ih hcomponent]
      _ ↔ c.IsSettledArgument written := by
        rw [typeRef_of_ofRef hcomponent, ← Catalog.isSettledArgument_iff]
      _ ↔ c.IsSettledArgument (.array written) := Catalog.isSettledArgument_array_iff.symm
  | declared name arguments parameters origin ih =>
    have hresolved := (forall₂_of_ofRef_declared h).2
    have hcompleted : parameters.map (fun parameter => parameter.2.typeRef) =
        arguments.map c.completed := isCompleted_of_ofRef h
    have hsame : arguments.map c.completed = arguments ↔ ∀ u ∈ arguments, c.completed u = u := by
      simpa only [List.map_id, id] using List.map_inj_left (l := arguments) (g := id)
    have hparts : (∀ parameter ∈ parameters, parameter.2.Consistent) ↔
        ∀ u ∈ arguments, c.IsSettledArgument (c.completed u) := by
      have hmap := @List.forall_mem_map _ _ c.completed arguments c.IsSettledArgument
      rw [← hmap, ← hcompleted, List.forall_mem_map]
      refine forall₂_congr fun parameter hparameter => ?_
      obtain ⟨u, -, hu⟩ := exists_of_mem_right hresolved hparameter
      exact ih parameter hparameter hu
    calc (declared name arguments parameters origin).Consistent
      _ ↔ (∀ u ∈ arguments, c.completed u = u) ∧
          ∀ u ∈ arguments, c.IsSettledArgument (c.completed u) := by
        rw [consistent_declared_iff, hcompleted, hsame, hparts]
      _ ↔ ∀ u ∈ arguments, c.IsSettledArgument u := by
        rw [← forall₂_and]
        exact forall₂_congr fun u _ => Catalog.isSettledArgument_iff.symm
      _ ↔ c.IsSettledArgument (.declared name arguments) := by
        have hmade := made_of_ofRef h
        rw [← typeRef_of_ofRef h] at hmade
        exact hmade.isSettledArgument_iff.symm

/-- A resolved type is consistent exactly if nothing inside the completed type is left to complete,
at any depth. So it is consistent if nothing inside the type is, in a catalog that does not describe
the root object type as generic. Every part of a resolved type names its own parts completed, and is
consistent exactly if its type has nothing to complete. -/
theorem consistent_iff_of_ofRef (h : ofRef c t = .ok r) :
    (r.Consistent ↔ ∀ u ∈ (c.completed t).inside, c.IsSettledArgument u) ∧
    (¬ c.IsGeneric objectName → (∀ u ∈ t.inside, c.IsSettledArgument u) → r.Consistent) ∧
    ∀ s : TypeMetadata, s.Within r →
      s.IsCompleted c ∧ (s.Consistent ↔ c.IsSettledArgument s.typeRef) := by
  have hconsistent : r.Consistent ↔ ∀ u ∈ (c.completed t).inside, c.IsSettledArgument u := by
    rw [consistent_iff_isSettledArgument h, typeRef_of_ofRef h]
    exact (made_of_ofRef h).isSettledArgument_iff
  refine ⟨hconsistent, fun hobject ht => hconsistent.mpr ?_, fun s hs => ?_⟩
  · exact Catalog.isSettledArgument_of_mem_inside_completed hobject ht
  · obtain ⟨u, hu⟩ := exists_ofRef_of_within h hs
    exact ⟨isCompleted_of_ofRef hu, consistent_iff_isSettledArgument hu⟩

/-- The array of crates of shelves is consistent. -/
theorem consistent_iff_of_ofRef_crates :
    ∃ r, ofRef Model.crates (.array (.declared "store.Crate"
        [.declared "store.Shelf" [Catalog.object]])) = .ok r ∧ r.Consistent := by
  have hresolved : (ofRef Model.crates (.array (.declared "store.Crate"
      [.declared "store.Shelf" [Catalog.object]]))).toOption.isSome := by
    decide +kernel
  obtain ⟨r, hr⟩ := Option.isSome_iff_exists.mp hresolved
  have hr := toOption_eq_some_iff.mp hr
  have hobject : Model.crates.IsSettledArgument Catalog.object :=
    (Catalog.isSettledArgument_declared_iff fun _ => Catalog.not_isGeneric_crates).mpr nofun
  have hone : ∀ name u, Model.crates.IsSettledArgument u →
      Model.crates.IsSettledArgument (.declared name [u]) := fun name u hu =>
    (Catalog.isSettledArgument_declared_iff fun hnil => absurd hnil (List.cons_ne_nil _ _)).mpr
      (List.forall_mem_singleton.mpr hu)
  obtain ⟨-, hconsistent, -⟩ := consistent_iff_of_ofRef hr
  exact ⟨r, hr, hconsistent Catalog.not_isGeneric_crates
    (List.forall_mem_singleton.mpr (hone _ _ (hone _ _ hobject)))⟩

/-- Shelves without arguments are shelves of objects, but an array of them is still an array of
shelves without arguments, and a shelf of them a shelf of such. -/
theorem not_consistent_shelves :
    (∃ r, ofRef Model.crates (.array (.named "store.Shelf")) = .ok r ∧
      r.typeRef = .array (.named "store.Shelf") ∧
      r.component?.map typeRef = some (.declared "store.Shelf" [Catalog.object]) ∧
      ¬ r.Consistent) ∧
    ∃ r, ofRef Model.crates (.declared "store.Shelf" [.named "store.Shelf"]) = .ok r ∧
      r.typeRef = .declared "store.Shelf" [.named "store.Shelf"] ∧
      (r.binding? "T").map typeRef = some (.declared "store.Shelf" [Catalog.object]) ∧
      ¬ r.Consistent := by
  have hgeneric : Model.crates.IsGeneric "store.Shelf" := ⟨_, rfl, List.cons_ne_nil _ _⟩
  have harray : ((ofRef Model.crates (.array (.named "store.Shelf"))).toOption.map fun r =>
      r.component?.map typeRef) = some (some (.declared "store.Shelf" [Catalog.object])) := by
    decide +kernel
  have hshelf : ((ofRef Model.crates
      (.declared "store.Shelf" [.named "store.Shelf"])).toOption.map fun r =>
      (r.binding? "T").map typeRef) = some (some (.declared "store.Shelf" [Catalog.object])) := by
    decide +kernel
  obtain ⟨shelves, hshelves, hcomponent⟩ := Option.map_eq_some_iff.mp harray
  obtain ⟨shelf, hmade, hbinding⟩ := Option.map_eq_some_iff.mp hshelf
  have hshelves := toOption_eq_some_iff.mp hshelves
  have hmade := toOption_eq_some_iff.mp hmade
  have htypes := typeRef_of_ofRef hshelves
  have htype := typeRef_of_ofRef hmade
  -- Both types keep a raw use of the shelf inside, which is what the equivalence asks for.
  refine ⟨⟨shelves, hshelves, htypes, hcomponent, fun h => ?_⟩,
    ⟨shelf, hmade, htype, hbinding, fun h => ?_⟩⟩
  · have hsettled := (consistent_iff_isSettledArgument hshelves).mp h
    rw [htypes] at hsettled
    exact hsettled.1 _ (.component .self) hgeneric
  · have hsettled := (consistent_iff_isSettledArgument hmade).mp h
    rw [htype] at hsettled
    exact hsettled.1 _ (.argument List.mem_cons_self .self) hgeneric

end TypeMetadata

end Fixtures
