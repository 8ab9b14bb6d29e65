import Fixtures.Proofs.Metadata
import Mathlib.Logic.Relation
import Mathlib.Order.WellFounded

/-!
# `Fixtures.Proofs.Expansion`: how deep default arguments lead

A described generic type that is used without arguments is raw: it gets default arguments, which
are types of the catalog and are resolved in turn. So the resolution of a type calls itself not only
for the parts of the type (`Calls`), and whether it comes to an end depends on what the default
arguments use raw. Some of these calls are not made, because an error comes first: in a type with a
wrong number of arguments none of them is resolved, and after an argument that fails the next ones
are not. So a resolution may also end where `Calls` goes on for ever.

They use no generic type raw but the root object type (`eq_objectName_of_usesRaw`), which stands for
whatever is erased and is not erased itself. In a catalog that does not describe it as generic no
raw type leads to another one, and every resolution ends. Otherwise the root object type can be met
raw in the default arguments of another type, and then it gets default arguments too. That is the
last time, unless these come back to it (`Catalog.ObjectEnds`): exactly then there are calls without
end (`wellFounded_calls_iff`).

`ofRef` goes by depth and not by calls. Wherever the calls end, it is the only function that
gives for each type what one call makes of its results (`eq_ofRef_iff`).
-/

set_option autoImplicit false

namespace Fixtures

open TypeRef (Occurs objectName)

/-! ### Raw uses -/

/-- The name stands in a type without arguments, at any depth. Whether it should have some is for
the catalog to say. -/
inductive TypeRef.UsesRaw (name : String) : TypeRef → Prop
  | self : UsesRaw name (.declared name [])
  | argument {other : String} {arguments : List TypeRef} {t : TypeRef} (ht : t ∈ arguments)
      (h : UsesRaw name t) : UsesRaw name (.declared other arguments)
  | component {t : TypeRef} (h : UsesRaw name t) : UsesRaw name (.array t)

open TypeRef (UsesRaw)

namespace Catalog

/-- The catalog describes the type with type parameters. A type that is not described may have some
as well, but nothing is known of them. -/
def IsGeneric (c : Catalog) (name : String) : Prop :=
  ∃ d, c.get? name = some d ∧ d.typeParameters ≠ []

/-- The type is a described generic one without arguments. This looks at the type itself and not
into it. -/
def IsRaw (c : Catalog) (t : TypeRef) : Prop := ∃ name, t = .named name ∧ c.IsGeneric name

/-- No described generic type stands in the type without arguments, at any depth. -/
def IsNormal (c : Catalog) (t : TypeRef) : Prop := ∀ name, t.UsesRaw name → ¬ c.IsGeneric name

/-- No described generic type stands in a default argument without arguments. This is what raw
types in bounds are erased for, and only the root object type can be in the way of it. -/
def HasNormalDefaults (c : Catalog) : Prop :=
  ∀ d ∈ c.toList, ∀ t ∈ c.defaultArguments d, c.IsNormal t

/-- The default arguments of the root object type, if it has some, do not use it raw. This is
weaker than normal default arguments: a root object type with type parameters may still end. -/
def ObjectEnds (c : Catalog) : Prop :=
  ∀ d, c.get? objectName = some d → ∀ t ∈ c.defaultArguments d, ¬ t.UsesRaw objectName

end Catalog

/-! ### The calls of a resolution -/

/-- The resolution of the first type calls that of the second one, if it comes so far: an error that
is found before may end it. -/
inductive Calls (c : Catalog) : TypeRef → TypeRef → Prop
  | component {t : TypeRef} : Calls c (.array t) t
  | parameter {name : String} : Calls c (.parameter name) Catalog.object
  | argument {name : String} {arguments : List TypeRef} {t : TypeRef} (ht : t ∈ arguments) :
      Calls c (.declared name arguments) t
  | default {name : String} {d : TypeDescription} {t : TypeRef} (hget : c.get? name = some d)
      (ht : t ∈ c.defaultArguments d) : Calls c (.named name) t

namespace TypeMetadata

/-- One call of a resolution, where `resolve` is what it calls for other types. A recursion that is
written like this needs no depth, but it is a function only where the calls end. -/
def resolveStep (c : Catalog) (resolve : TypeRef → Except FixtureError TypeMetadata) :
    TypeRef → Except FixtureError TypeMetadata
  | .primitive kind => .ok (.primitive kind)
  | .array component => do return .array component (← resolve component)
  | .parameter _ => resolve Catalog.object
  | .declared name arguments =>
    match c.get? name with
    | none => do
      let resolved ← arguments.mapM resolve
      return .declared name arguments ((positionalNames arguments.length).zip resolved) .foreign
    | some d =>
      if arguments ≠ [] ∧ arguments.length ≠ d.typeParameters.length then
        .error (.arity name d.typeParameters.length arguments.length)
      else do
        let concrete := if arguments = [] then c.defaultArguments d else arguments
        let resolved ← concrete.mapM resolve
        return .declared name concrete (d.parameterNames.zip resolved) (originOf d)

end TypeMetadata

section

variable {c : Catalog} {d : TypeDescription} {name : String} {t u : TypeRef}

/-! ### What default arguments use raw -/

namespace Catalog

theorem usesRaw_object (h : object.UsesRaw name) : name = objectName := by
  cases h with
  | self => rfl
  | argument ht => cases ht

/-- A raw generic type gets arguments, and only the root object type stands raw in these. -/
theorem eq_objectName_of_usesRaw_eraseRaw (h : (c.eraseRaw t).UsesRaw name)
    (hgeneric : c.IsGeneric name) : name = objectName := by
  induction t using TypeRef.induction with
  | primitive kind => cases h
  | array component ih =>
    cases h with
    | component h => exact ih h
  | parameter other => cases h
  | declared other arguments ih =>
    obtain ⟨d, hget, hne⟩ := hgeneric
    cases arguments with
    | nil =>
      rw [eraseRaw] at h
      split at h
      · next d' hget' =>
        generalize hkinds : d'.typeParameters.map (fun _ => object) = erased at h
        cases h with
        | self =>
          -- The type itself stands raw only if it has no parameters to erase.
          rw [hget'] at hget
          cases hget
          exact absurd (List.map_eq_nil_iff.mp hkinds) hne
        | argument ht h =>
          rw [← hkinds] at ht
          obtain ⟨-, -, rfl⟩ := List.mem_map.mp ht
          exact usesRaw_object h
      · next hnone =>
        cases h with
        | self =>
          rw [hnone] at hget
          cases hget
        | argument ht => cases ht
    | cons argument arguments =>
      have hall : c.eraseRaw (.declared other (argument :: arguments))
          = .declared other ((argument :: arguments).map c.eraseRaw) := by
        rw [eraseRaw, eraseAllRaw_eq, List.map_cons]
      rw [hall] at h
      cases h with
      | argument hu h =>
        obtain ⟨u', hu', rfl⟩ := List.mem_map.mp hu
        exact ih u' hu' h

/-- A default argument uses no generic type raw but the root object type. -/
theorem eq_objectName_of_usesRaw (ht : t ∈ c.defaultArguments d) (h : t.UsesRaw name)
    (hgeneric : c.IsGeneric name) : name = objectName := by
  obtain ⟨parameter, -, rfl⟩ := List.mem_map.mp ht
  split at h
  · exact usesRaw_object h
  · exact eq_objectName_of_usesRaw_eraseRaw h hgeneric

/-- A description with default arguments has type parameters, one for each of them. -/
theorem isGeneric_of_mem_defaultArguments (hget : c.get? name = some d)
    (ht : t ∈ c.defaultArguments d) : c.IsGeneric name := by
  refine ⟨d, hget, ?_⟩
  rintro hnone
  rw [defaultArguments, hnone] at ht
  cases ht

/-- If the root object type is not generic, default arguments use no generic type raw. -/
theorem hasNormalDefaults_of_not_isGeneric (h : ¬ c.IsGeneric objectName) :
    c.HasNormalDefaults := by
  intro d _ t ht name hraw hgeneric
  rw [eq_objectName_of_usesRaw ht hraw hgeneric] at hgeneric
  exact h hgeneric

end Catalog

/-! ### From one raw type to the next -/

/-- The type has no type parameters, and uses no generic type raw. Nothing in it is left to
complete, so a resolution only goes through its parts. -/
def Catalog.IsSettledArgument (c : Catalog) (t : TypeRef) : Prop :=
  c.IsNormal t ∧ ∀ p, ¬ Occurs p t

/-- What is called for such a type is such a type. -/
theorem Calls.isSettledArgument (h : Calls c t u) (ht : c.IsSettledArgument t) :
    c.IsSettledArgument u := by
  obtain ⟨hnormal, hclosed⟩ := ht
  cases h with
  | component =>
    exact ⟨fun name hraw => hnormal name (.component hraw), fun p hp => hclosed p (.component hp)⟩
  | parameter => exact absurd .parameter (hclosed _)
  | argument hu =>
    exact ⟨fun name hraw => hnormal name (.argument hu hraw),
      fun p hp => hclosed p (.argument hu hp)⟩
  | default hget hu =>
    exact absurd (Catalog.isGeneric_of_mem_defaultArguments hget hu) (hnormal _ .self)

/-- Normal default arguments make such types of raw types: the calls for a raw type are those for
its default arguments. -/
theorem Calls.isSettledArgument_of_isRaw (h : Calls c t u) (hc : c.HasNormalDefaults)
    (ht : c.IsRaw t) : c.IsSettledArgument u := by
  obtain ⟨name, rfl, -⟩ := ht
  cases h with
  | argument hu => cases hu
  | default hget hu =>
    exact ⟨hc _ (c.mem_toList_of_get? hget) _ hu,
      fun _ => Catalog.not_occurs_of_mem_defaultArguments hu⟩

/-- With normal default arguments no raw type leads to another one. After the first call the types
have nothing to complete, and they lead to such types only. -/
theorem not_isRaw_of_transGen (hc : c.HasNormalDefaults) (h : Relation.TransGen (Calls c) t u)
    (ht : c.IsRaw t) : ¬ c.IsRaw u := by
  have hsettled : c.IsSettledArgument u := by
    induction h with
    | single hcalls => exact hcalls.isSettledArgument_of_isRaw hc ht
    | tail _ hcalls ih => exact hcalls.isSettledArgument ih
  rintro ⟨name, rfl, hgeneric⟩
  exact hsettled.1 name .self hgeneric

/-- A type leads to what it uses raw. -/
theorem reflTransGen_of_usesRaw (h : t.UsesRaw name) :
    Relation.ReflTransGen (Calls c) t (.named name) := by
  induction h with
  | self => exact .refl
  | argument ht _ ih => exact .head (.argument ht) ih
  | component _ ih => exact .head .component ih

/-- A described type is found under its name. -/
theorem Catalog.get?_of_mem_toList (h : d ∈ c.toList) : c.get? d.qualifiedName = some d := by
  obtain ⟨entry, hentry, rfl⟩ := List.mem_map.mp h
  rw [← c.named entry hentry]
  exact (NameMap.get?_eq_some_iff c.types _ _).mpr hentry

/-- Default arguments are normal exactly where no raw type leads to another one. The other
direction goes from a raw type to what its default arguments use raw. -/
theorem Catalog.hasNormalDefaults_iff : c.HasNormalDefaults ↔
    ∀ t u, Relation.TransGen (Calls c) t u → c.IsRaw t → ¬ c.IsRaw u := by
  constructor
  · exact fun hc t u => not_isRaw_of_transGen hc
  · intro h d hd t ht name hraw hgeneric
    have hget := Catalog.get?_of_mem_toList hd
    have hpath : Relation.TransGen (Calls c) (.named d.qualifiedName) (.named name) :=
      .head' (.default hget ht) (reflTransGen_of_usesRaw hraw)
    exact h _ _ hpath ⟨_, rfl, Catalog.isGeneric_of_mem_defaultArguments hget ht⟩
      ⟨_, rfl, hgeneric⟩

/-! ### Where resolutions end -/

/-- The resolution of a type ends if those of the default arguments of its raw types do, and that
of the root object type for its parameters. The induction is on the type, whose parts are called
first. -/
theorem acc_calls (hdefault : ∀ name d, t.UsesRaw name → c.get? name = some d →
      ∀ u ∈ c.defaultArguments d, Acc (flip (Calls c)) u)
    (hparameter : ∀ p, Occurs p t → Acc (flip (Calls c)) Catalog.object) :
    Acc (flip (Calls c)) t := by
  induction t using TypeRef.induction with
  | primitive kind =>
    refine ⟨_, fun u hu => ?_⟩
    cases hu
  | array component ih =>
    refine ⟨_, fun u hu => ?_⟩
    cases hu with
    | component =>
      exact ih (fun name d hraw => hdefault name d (.component hraw))
        fun p hp => hparameter p (.component hp)
  | parameter p =>
    refine ⟨_, fun u hu => ?_⟩
    cases hu with
    | parameter => exact hparameter p .parameter
  | declared name arguments ih =>
    refine ⟨_, fun u hu => ?_⟩
    cases hu with
    | argument hu =>
      exact ih u hu (fun name d hraw => hdefault name d (.argument hu hraw))
        fun p hp => hparameter p (.argument hu hp)
    | default hget hu => exact hdefault name _ .self hget u hu

/-- The calls of all resolutions end exactly where the root object type is not used raw by its own
default arguments. One direction finds the cycle. The other one shows that calls end for the root
object type first, for default arguments next and then for all types. -/
theorem wellFounded_calls_iff : WellFounded (flip (Calls c)) ↔ c.ObjectEnds := by
  constructor
  · intro hwf d hget t ht hraw
    -- Otherwise the root object type would lead back to itself.
    have hcycle : Relation.TransGen (Calls c) Catalog.object Catalog.object :=
      .head' (.default hget ht) (reflTransGen_of_usesRaw hraw)
    have hcycle : Relation.TransGen (flip (Calls c)) Catalog.object Catalog.object :=
      Relation.transGen_swap.mpr hcycle
    exact hwf.transGen.irrefl.irrefl _ hcycle
  · intro hends
    -- First the root object type, then all default arguments, and with them all types.
    have hobject : Acc (flip (Calls c)) Catalog.object := by
      refine acc_calls ?_ fun p hp => absurd hp Catalog.not_occurs_object
      intro name d hraw hget t ht
      obtain rfl := Catalog.usesRaw_object hraw
      refine acc_calls ?_ fun p hp => absurd hp (Catalog.not_occurs_of_mem_defaultArguments ht)
      intro name d' hraw hget' u hu
      have hname := Catalog.eq_objectName_of_usesRaw ht hraw
        (Catalog.isGeneric_of_mem_defaultArguments hget' hu)
      rw [hname] at hraw
      exact absurd hraw (hends d hget t ht)
    have hdefault : ∀ d, ∀ t ∈ c.defaultArguments d, Acc (flip (Calls c)) t := by
      intro d t ht
      refine acc_calls ?_ fun p hp => absurd hp (Catalog.not_occurs_of_mem_defaultArguments ht)
      intro name d' hraw hget' u hu
      have hname := Catalog.eq_objectName_of_usesRaw ht hraw
        (Catalog.isGeneric_of_mem_defaultArguments hget' hu)
      rw [hname] at hget'
      exact hobject.inv (.default hget' hu)
    exact ⟨fun t => acc_calls (fun name d _ _ => hdefault d) fun _ _ => hobject⟩

/-! ### Resolution by depth -/

namespace TypeMetadata

variable {expand expand' : Expansion}

/-- One call depends on the calls that it makes, and on nothing else. -/
theorem resolveStep_congr {f g : TypeRef → Except FixtureError TypeMetadata}
    (h : ∀ u, Calls c t u → f u = g u) : resolveStep c f t = resolveStep c g t := by
  cases t with
  | primitive kind => rfl
  | array component => rw [resolveStep, resolveStep, h component .component]
  | parameter name => exact h _ .parameter
  | declared name arguments =>
    have harguments : arguments.mapM f = arguments.mapM g :=
      mapM_congr fun u hu => h u (.argument hu)
    rw [resolveStep, resolveStep]
    cases hget : c.get? name with
    | none => simp only [harguments]
    | some d =>
      cases arguments with
      | nil =>
        have hdefaults : (c.defaultArguments d).mapM f = (c.defaultArguments d).mapM g :=
          mapM_congr fun u hu => h u (.default hget hu)
        simp only [if_true, hdefaults]
      | cons argument arguments => simp only [List.cons_ne_nil, if_false, harguments]

/-- Expansions that agree on what a type without parameters uses raw resolve it alike. Nothing else
in such a type asks for an expansion. -/
theorem ofRefWith_congr (hclosed : ∀ p, ¬ Occurs p t)
    (h : ∀ name d, t.UsesRaw name → c.get? name = some d → d.typeParameters ≠ [] →
      expand d = expand' d) : ofRefWith c expand t = ofRefWith c expand' t := by
  induction t using TypeRef.induction with
  | primitive kind => rw [ofRefWith, ofRefWith]
  | array component ih =>
    rw [ofRefWith, ofRefWith, ih (fun p hp => hclosed p (.component hp))
      fun name d hraw => h name d (.component hraw)]
  | parameter name => exact absurd .parameter (hclosed name)
  | declared name arguments ih =>
    cases arguments with
    | nil =>
      rw [ofRefWith, ofRefWith, ofNameWith, ofNameWith]
      cases hget : c.get? name with
      | none => rfl
      | some d =>
        by_cases hnone : d.typeParameters = []
        · simp only [hnone, List.isEmpty_nil, if_true]
        · simp only [h name d .self hget hnone]
    | cons argument arguments =>
      have heq : ∀ u ∈ argument :: arguments, ofRefWith c expand u = ofRefWith c expand' u :=
        fun u hu => ih u hu (fun p hp => hclosed p (.argument hu hp))
          fun name d hraw => h name d (.argument hu hraw)
      have hfirst := heq argument List.mem_cons_self
      have hmore : ofRefsWith c expand arguments = ofRefsWith c expand' arguments := by
        rw [ofRefsWith_eq, ofRefsWith_eq]
        exact mapM_congr fun u hu => heq u (List.mem_cons_of_mem _ hu)
      rw [ofRefWith, ofRefWith, hfirst, hmore]

/-- Default arguments are resolved alike by expansions that agree on the root object type. It is
the only generic type that they use raw. -/
theorem ofRefsWith_defaultArguments_congr
    (h : ∀ t ∈ c.defaultArguments d, t.UsesRaw objectName → ∀ d', c.get? objectName = some d' →
      expand d' = expand' d') :
    ofRefsWith c expand (c.defaultArguments d) = ofRefsWith c expand' (c.defaultArguments d) := by
  rw [ofRefsWith_eq, ofRefsWith_eq]
  refine mapM_congr fun t ht => ?_
  refine ofRefWith_congr (fun _ => Catalog.not_occurs_of_mem_defaultArguments ht) ?_
  intro name d' hraw hget hne
  have hname := Catalog.eq_objectName_of_usesRaw ht hraw ⟨d', hget, hne⟩
  rw [hname] at hraw hget
  exact h t ht hraw d' hget

/-- The second expansion inside each other is that of the root object type, and there is none in
it. -/
theorem expandDefaults_two (hends : c.ObjectEnds) :
    ofRefsWith c (expandDefaults c 1) (c.defaultArguments d) =
      ofRefsWith c (expandDefaults c 2) (c.defaultArguments d) := by
  refine ofRefsWith_defaultArguments_congr fun t _ _ d' hget => ?_
  have hinner : ofRefsWith c (expandDefaults c 0) (c.defaultArguments d') =
      ofRefsWith c (expandDefaults c 1) (c.defaultArguments d') :=
    ofRefsWith_defaultArguments_congr fun u hu hraw => absurd hraw (hends d' hget u hu)
  rw [expandDefaults_succ, expandDefaults_succ, hinner]

/-- Resolution by depth makes of each type what one call makes of its results. The depth shows only
for a bare name, whose default arguments are resolved with one expansion less. -/
theorem ofRef_eq_resolveStep (hends : c.ObjectEnds) (t : TypeRef) :
    ofRef c t = resolveStep c (ofRef c) t := by
  have hall : ∀ ts, ofRefsWith c (expandDefaults c 2) ts = ts.mapM (ofRef c) :=
    fun ts => ofRefsWith_eq ts
  cases t with
  | primitive kind => rw [ofRef, ofRefWith, resolveStep]
  | array component =>
    rw [ofRef, ofRefWith, resolveStep]
    rfl
  | parameter name =>
    rw [ofRef, ofRefWith, resolveStep, ofRef, Catalog.object, TypeRef.named, ofRefWith]
  | declared name arguments =>
    cases arguments with
    | nil =>
      rw [ofRef, ofRefWith, ofNameWith, resolveStep]
      cases hget : c.get? name with
      | none => rfl
      | some d =>
        by_cases hnone : d.typeParameters = []
        · have hdefaults : c.defaultArguments d = [] := by rw [Catalog.defaultArguments, hnone]; rfl
          simp [hnone, hdefaults, bind, Except.bind, pure, Except.pure]
        · have hexpand := expandDefaults_succ c 1 d
          rw [expandDefaults_two hends, hall] at hexpand
          simp [hnone, hexpand]
    | cons argument arguments =>
      rw [ofRef, ofRefWith, resolveStep]
      cases hget : c.get? name with
      | none => simp [hall, ofRef]
      | some d =>
        by_cases hfits : d.typeParameters.length = arguments.length + 1
        · simp [hfits, hall, ofRef]
        · have hne : arguments.length + 1 ≠ d.typeParameters.length := fun h => hfits h.symm
          simp [hfits, hne]

/-- Where resolutions end, resolution by depth is the only function that makes of each type what
one call makes of its results. Two such functions agree by induction along the calls. -/
theorem eq_ofRef_iff (hends : c.ObjectEnds) {f : TypeRef → Except FixtureError TypeMetadata} :
    (∀ t, f t = resolveStep c f t) ↔ f = ofRef c := by
  constructor
  · intro hf
    funext t
    induction t using (wellFounded_calls_iff.mpr hends).induction with
    | _ t ih =>
      rw [hf t, ofRef_eq_resolveStep hends t]
      exact resolveStep_congr fun u hu => ih u hu
  · rintro rfl
    exact ofRef_eq_resolveStep hends

end TypeMetadata

/-- Normal default arguments of the root object type do not use it. -/
theorem Catalog.HasNormalDefaults.objectEnds (h : c.HasNormalDefaults) : c.ObjectEnds := by
  intro d hget t ht hraw
  exact h d (c.mem_toList_of_get? hget) t ht _ hraw (isGeneric_of_mem_defaultArguments hget ht)

/-- A root object type that is not described has no default arguments. -/
theorem Catalog.objectEnds_of_get?_eq_none (h : c.get? objectName = none) : c.ObjectEnds := by
  intro d hget
  rw [h] at hget
  cases hget

end

/-- Default arguments use no generic type raw, unless the catalog describes the root object type as
generic, and then no other one. They are normal exactly where no raw type leads to another one, and
then the calls of every resolution end. The calls of all resolutions end exactly where the default
arguments of the root object type do not use it raw; and then `ofRef` is what they compute. -/
theorem Catalog.resolution_ends (c : Catalog) :
    (¬ c.IsGeneric objectName → c.HasNormalDefaults) ∧
    (c.HasNormalDefaults ↔
      ∀ t u, Relation.TransGen (Calls c) t u → c.IsRaw t → ¬ c.IsRaw u) ∧
    (c.HasNormalDefaults → WellFounded (flip (Calls c))) ∧
    (∀ d ∈ c.toList, ∀ t ∈ c.defaultArguments d, ∀ name, t.UsesRaw name → c.IsGeneric name →
      name = objectName) ∧
    (WellFounded (flip (Calls c)) ↔ c.ObjectEnds) ∧
    (WellFounded (flip (Calls c)) → ∀ f : TypeRef → Except FixtureError TypeMetadata,
      (∀ t, f t = TypeMetadata.resolveStep c f t) ↔ f = TypeMetadata.ofRef c) := by
  refine ⟨hasNormalDefaults_of_not_isGeneric, hasNormalDefaults_iff, ?_, ?_,
    wellFounded_calls_iff, ?_⟩
  · intro hnormal
    exact wellFounded_calls_iff.mpr hnormal.objectEnds
  · intro d _ t ht name hraw hgeneric
    exact eq_objectName_of_usesRaw ht hraw hgeneric
  · intro hwf f
    exact TypeMetadata.eq_ofRef_iff (wellFounded_calls_iff.mp hwf)

/-- The catalog of crates and shelves does not describe the root object type. -/
theorem Catalog.not_isGeneric_crates : ¬ Model.crates.IsGeneric objectName := by
  rintro ⟨d, hget, -⟩
  have hnone : (Model.crates.get? objectName).isNone := by decide +kernel
  rw [hget] at hnone
  cases hnone

/-- The bound of a crate is a raw shelf, which gets an object as its argument. -/
theorem Catalog.resolution_ends_crates :
    Model.crates.HasNormalDefaults ∧ WellFounded (flip (Calls Model.crates)) ∧
      (∀ u, Relation.TransGen (Calls Model.crates) (.named "store.Crate") u →
        ¬ Model.crates.IsRaw u) ∧
      ∀ t, TypeMetadata.ofRef Model.crates t =
        TypeMetadata.resolveStep Model.crates (TypeMetadata.ofRef Model.crates) t := by
  have hcrate : Model.crates.IsRaw (.named "store.Crate") :=
    ⟨_, rfl, _, rfl, List.cons_ne_nil _ _⟩
  obtain ⟨hnormal, hpaths, hends, -, -, honly⟩ := resolution_ends Model.crates
  have hdefaults := hnormal not_isGeneric_crates
  have hwf := hends hdefaults
  exact ⟨hdefaults, hwf, fun u hu => hpaths.mp hdefaults _ u hu hcrate, (honly hwf _).mpr rfl⟩

/-! ### A generic root object type -/

/-- A class with one type parameter. -/
def classWith (package name : String) (bound : Option TypeRef) : TypeDescription where
  package
  name
  kind := .classKind
  typeParameters := [⟨"T", bound⟩]
  fields := []
  enumConstants := []
  fixture := false
  providers := .empty
  creators := []

/-- Boxes, and a root object type whose parameter has a bound. -/
def boxes : Catalog where
  types := ⟨[
    ("com.acme.Box", classWith "com.acme" "Box" none),
    ("java.lang.Object", classWith "java.lang" "Object" (some (.named "java.lang.String")))],
    by decide⟩
  named := by decide

/-- A root object type whose parameter has no bound. -/
def endless : Catalog where
  types := ⟨[("java.lang.Object", classWith "java.lang" "Object" none)], by decide⟩
  named := by decide

/-- A box without arguments is a box of raw objects, so a raw type leads to another one, and an
object without arguments leads back to itself. -/
theorem Catalog.not_hasNormalDefaults :
    ¬ boxes.HasNormalDefaults ∧
    ¬ (∀ t u, Relation.TransGen (Calls boxes) t u → boxes.IsRaw t → ¬ boxes.IsRaw u) ∧
    ¬ WellFounded (flip (Calls endless)) := by
  have hobject : object ∈ boxes.defaultArguments (classWith "com.acme" "Box" none) :=
    List.mem_cons_self
  have hgeneric : boxes.IsGeneric objectName := ⟨_, rfl, List.cons_ne_nil _ _⟩
  have hnot : ¬ boxes.HasNormalDefaults := by
    intro hnormal
    exact hnormal _ List.mem_cons_self _ hobject _ .self hgeneric
  refine ⟨hnot, fun hpaths => hnot (hasNormalDefaults_iff.mpr hpaths), fun hwf => ?_⟩
  have hloop : object ∈ endless.defaultArguments (classWith "java.lang" "Object" none) :=
    List.mem_cons_self
  exact wellFounded_calls_iff.mp hwf _ rfl _ hloop .self

end Fixtures
