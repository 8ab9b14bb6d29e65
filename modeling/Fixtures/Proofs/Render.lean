import Fixtures.Proofs.Model
import Fixtures.Proofs.Registry
import Fixtures.Render
import Mathlib.Data.List.TakeWhile

/-!
# `Fixtures.Proofs.Render`: which rendered names are read back

A rendered type is written for a place inside a package, where the catalog gives every short name
a meaning (`Catalog.qualify`). Rendering decides from a name alone whether it is written short, and
reading searches the package, then the names that need no import, and then all descriptions. So a
short name can be hidden by another type that is found first (`Catalog.IsHidden`).

That is all that can go wrong: a type of known names is read back exactly when no name in it that is
written without a dot is hidden (`qualifyType_rendered_iff`). A name with a dot is read as it is.
A hidden name there is, where a package has a type of its own that is named as one of the core
library (`not_qualifyType_rendered`).
-/

set_option autoImplicit false

namespace Fixtures

/-! ### Replacing names -/

namespace TypeRef

mutual

/-- To replace names twice is to replace them once. The recursion is on the type and on the list of
its arguments together. -/
theorem mapNames_mapNames (f g : String → String) :
    ∀ t : TypeRef, (t.mapNames f).mapNames g = t.mapNames fun n => g (f n)
  | primitive _ => rfl
  | declared name arguments => by
    rw [mapNames, mapNames, mapNames, mapAllNames_mapAllNames f g arguments]
  | array component => by rw [mapNames, mapNames, mapNames, mapNames_mapNames f g component]
  | parameter _ => rfl

/-- So it is in each of some types. -/
theorem mapAllNames_mapAllNames (f g : String → String) :
    ∀ ts : List TypeRef, mapAllNames g (mapAllNames f ts) = mapAllNames (fun n => g (f n)) ts
  | [] => rfl
  | t :: ts => by
    rw [mapAllNames, mapAllNames, mapAllNames, mapNames_mapNames f g t,
      mapAllNames_mapAllNames f g ts]

end

mutual

/-- A type stays as it is when all its names do. So statements about types come down to statements
about the names in them. -/
theorem mapNames_eq_self_iff (f : String → String) :
    ∀ t : TypeRef, t.mapNames f = t ↔ ∀ n ∈ t.declaredNames, f n = n
  | primitive _ => by simp [mapNames, declaredNames]
  | declared name arguments => by
    simp [mapNames, declaredNames, mapAllNames_eq_self_iff f arguments]
  | array component => by simp [mapNames, declaredNames, mapNames_eq_self_iff f component]
  | parameter _ => by simp [mapNames, declaredNames]

/-- So it is in each of some types. -/
theorem mapAllNames_eq_self_iff (f : String → String) :
    ∀ ts : List TypeRef, mapAllNames f ts = ts ↔ ∀ n ∈ allDeclaredNames ts, f n = n
  | [] => by simp [mapAllNames, allDeclaredNames]
  | t :: ts => by
    simp [mapAllNames, allDeclaredNames, mapNames_eq_self_iff f t, mapAllNames_eq_self_iff f ts,
      or_imp, forall_and]

end

end TypeRef

/-! ### Parts of names -/

namespace Library

/-- A simple name has no dot. -/
theorem notMem_simpleName (name : String) : '.' ∉ (simpleName name).toList := by
  rw [simpleName, String.toList_ofList, simpleChars, List.mem_reverse]
  intro hmem
  exact absurd (List.mem_takeWhile_imp hmem) (by simp)

section

variable {package name : String} (h : '.' ∉ name.toList)

include h

/-- No character of a name without a dot is one. -/
theorem ne_dot_of_mem_reverse {c : Char} (hc : c ∈ name.toList.reverse) : (c != '.') = true := by
  rw [bne_iff_ne]
  rintro rfl
  exact h (List.mem_reverse.mp hc)

/-- A name without a dot is its own simple name. -/
theorem simpleName_of_notMem : simpleName name = name := by
  rw [simpleName, simpleChars,
    List.takeWhile_eq_self_iff.mpr fun _ => ne_dot_of_mem_reverse h, List.reverse_reverse,
    String.ofList_toList]

/-- A qualified name has the package that it is made of. -/
theorem packageName_qualify : packageName (TypeDescription.qualify package name) = package := by
  rw [TypeDescription.qualify, packageName, packageChars]
  split
  · next hempty =>
    obtain rfl : package = "" := by simpa using hempty
    have hnone : name.toList.reverse.dropWhile (· != '.') = [] :=
      List.dropWhile_eq_nil_iff.mpr fun _ => ne_dot_of_mem_reverse h
    rw [hnone]
    rfl
  · have htext : (package ++ "." ++ name).toList.reverse
        = name.toList.reverse ++ '.' :: package.toList.reverse := by simp
    rw [htext, List.dropWhile_append_of_pos fun _ => ne_dot_of_mem_reverse h]
    simp

end

/-- A text that is given by its characters has a dot when one of them is. -/
theorem mem_ofList {cs : List Char} (h : cs.contains '.' = true) :
    '.' ∈ (String.ofList cs).toList := by
  rwa [String.toList_ofList, ← List.contains_iff_mem]

/-- The names of the library have a package. There are a few tables of them, and each name is
looked at. -/
theorem mem_of_contains {name : String} (h : contains name = true) : '.' ∈ name.toList := by
  have hlookup : ∀ {α : Type} {table : List (String × α)}, (table.lookup name).isSome = true →
      name ∈ table.map (·.1) := by
    intro α table hsome
    obtain ⟨x, hx⟩ := Option.isSome_iff_exists.mp hsome
    obtain ⟨before, after, rfl, -⟩ := List.lookup_eq_some_iff.mp hx
    simp
  -- Each name of the tables is taken as its characters, which is faster than to take it apart.
  have hdot : ∀ name ∈ implicitImports ++ boxedScalars.map (·.1) ++ valueTypes.map (·.1)
      ++ containers.map (·.1), '.' ∈ name.toList := by
    simp only [implicitImports, boxedScalars, valueTypes, containers, List.map_cons, List.map_nil,
      List.cons_append, List.nil_append, List.forall_mem_cons, List.not_mem_nil, false_imp_iff,
      implies_true, and_true]
    and_intros <;> exact mem_ofList rfl
  refine hdot name ?_
  simp only [contains, Bool.or_eq_true, List.contains_iff_mem] at h
  simp only [List.mem_append]
  exact h.imp (.imp (.imp id hlookup) hlookup) hlookup

/-- The simple name of a text that is given by its characters. -/
theorem simpleName_ofList (cs : List Char) :
    simpleName (String.ofList cs) = String.ofList (simpleChars cs) := by
  rw [simpleName, String.toList_ofList]

/-- The short names that need no import, in the order of the table. No two of them are the same. -/
theorem map_simpleName_implicitImports :
    implicitImports.map simpleName = ["Object", "String", "Boolean", "Byte", "Short", "Integer",
      "Long", "Float", "Double", "Character", "Number", "CharSequence", "Comparable", "Iterable",
      "UUID", "Collection", "List", "ArrayList", "LinkedList", "Set", "HashSet", "LinkedHashSet",
      "SortedSet", "NavigableSet", "TreeSet", "Map", "HashMap", "LinkedHashMap", "SortedMap",
      "NavigableMap", "TreeMap", "Queue", "PriorityQueue", "Deque", "ArrayDeque", "Optional",
      "BigDecimal", "BigInteger", "Instant", "LocalDate", "LocalDateTime", "Duration"] := by
  simp only [implicitImports, List.map_cons, List.map_nil, List.cons.injEq, and_true]
  and_intros <;> exact simpleName_ofList _

/-- A name that needs no import is found by its simple name: no two of them have the same. -/
theorem implicit?_simpleName {name : String} (h : name ∈ implicitImports) :
    implicit? (simpleName name) = some name := by
  have hnodup : (implicitImports.map simpleName).Nodup := by
    rw [map_simpleName_implicitImports]
    decide +kernel
  exact Registry.find?_eq_some_of_nodup hnodup h

end Library

namespace Render

/-- A name is rendered in full, or it is rendered as its simple name. Which of these it is depends
on the package and on the name, but not on the catalog. -/
theorem name_eq (package name : String) :
    Render.name package name = name ∨ Render.name package name = Library.simpleName name := by
  unfold Render.name
  dsimp only
  split
  · exact .inr rfl
  · exact .inl rfl

/-- A name that is rendered with a dot is rendered in full. -/
theorem name_eq_self_of_mem {package name : String}
    (h : '.' ∈ (Render.name package name).toList) : Render.name package name = name := by
  refine (name_eq package name).resolve_right fun hsimple => ?_
  exact Library.notMem_simpleName name (hsimple ▸ h)

/-- A name that is rendered without a dot is rendered as its simple name. -/
theorem name_eq_simpleName_of_notMem {package name : String}
    (h : '.' ∉ (Render.name package name).toList) :
    Render.name package name = Library.simpleName name := by
  rcases name_eq package name with hfull | hsimple
  · rw [hfull] at h ⊢
    exact (Library.simpleName_of_notMem h).symm
  · exact hsimple

end Render

/-! ### What short names mean -/

namespace Catalog

variable {c : Catalog} {package name : String}

/-- The simple name of a type means another type inside a package, or no known one. There are three
ways for a type of another package, and one for a type of the package itself. -/
inductive IsHidden (c : Catalog) (package name : String) : Prop
  /-- The package has a described type of its own with the simple name. -/
  | sibling (hne : TypeDescription.qualify package (Library.simpleName name) ≠ name)
      (h : c.contains (TypeDescription.qualify package (Library.simpleName name)) = true)
  /-- The simple name means a type of the library without an import. -/
  | imported (hne : TypeDescription.qualify package (Library.simpleName name) ≠ name)
      {other : String} (hother : other ≠ name)
      (h : Library.implicit? (Library.simpleName name) = some other)
  /-- The type is of another package and not the only one that is described with the simple
  name. -/
  | ambiguous (hne : TypeDescription.qualify package (Library.simpleName name) ≠ name)
      (hdot : '.' ∈ name.toList) (himplicit : Library.implicit? (Library.simpleName name) = none)
      (h : (c.unique? (Library.simpleName name)).map (·.qualifiedName) ≠ some name)
  /-- The type is of the package, but it has no description and needs an import. -/
  | undescribed (hsame : TypeDescription.qualify package (Library.simpleName name) = name)
      (hnone : c.contains name = false) (h : name ∉ Library.implicitImports)

/-- A type is hidden in one of four ways, each of which can be looked up. -/
theorem isHidden_iff :
    c.IsHidden package name ↔
      if TypeDescription.qualify package (Library.simpleName name) = name then
        c.contains name = false ∧ name ∉ Library.implicitImports
      else
        c.contains (TypeDescription.qualify package (Library.simpleName name)) = true ∨
          (∃ other ∈ Library.implicit? (Library.simpleName name), other ≠ name) ∨
          ('.' ∈ name.toList ∧ Library.implicit? (Library.simpleName name) = none ∧
            (c.unique? (Library.simpleName name)).map (·.qualifiedName) ≠ some name) := by
  split
  · next hsame =>
    constructor
    · rintro (⟨hne, -⟩ | ⟨hne, -, -⟩ | ⟨hne, -, -, -⟩ | ⟨-, hnone, h⟩)
      · exact absurd hsame hne
      · exact absurd hsame hne
      · exact absurd hsame hne
      · exact ⟨hnone, h⟩
    · rintro ⟨hnone, h⟩
      exact .undescribed hsame hnone h
  · next hne =>
    constructor
    · rintro (⟨-, h⟩ | ⟨-, hother, h⟩ | ⟨-, hdot, himplicit, h⟩ | ⟨hsame, -, -⟩)
      · exact .inl h
      · exact .inr (.inl ⟨_, h, hother⟩)
      · exact .inr (.inr ⟨hdot, himplicit, h⟩)
      · exact absurd hsame hne
    · rintro (h | ⟨other, h, hother⟩ | ⟨hdot, himplicit, h⟩)
      · exact .sibling hne h
      · exact .imported hne hother h
      · exact .ambiguous hne hdot himplicit h

instance : Decidable (c.IsHidden package name) := decidable_of_iff _ isHidden_iff.symm

/-- A name with a dot is qualified already. -/
theorem qualify_of_mem (h : '.' ∈ name.toList) : c.qualify package name = name :=
  if_pos (List.contains_iff_mem.mpr h)

/-- What a name without a dot means, looked up in three places: the package, the names that need no
import, and all descriptions. If it is found nowhere it means itself. -/
theorem qualify_of_notMem (h : '.' ∉ name.toList) :
    c.qualify package name = if c.contains (TypeDescription.qualify package name) then
        TypeDescription.qualify package name
      else (Library.implicit? name).getD
        (((c.unique? name).map (·.qualifiedName)).getD name) := by
  have hdot : ¬ name.toList.contains '.' = true := by
    rwa [List.contains_iff_mem]
  unfold qualify
  rw [if_neg hdot]
  dsimp only
  congr 1
  cases Library.implicit? name with
  | some other => rfl
  | none => cases c.unique? name <;> rfl

/-- A name is contained when it has a description. -/
theorem contains_iff : c.contains name = true ↔ ∃ d ∈ c.toList, d.qualifiedName = name := by
  show (c.get? name).isSome = true ↔ _
  rw [Option.isSome_iff_exists]
  constructor
  · rintro ⟨d, hd⟩
    have hmem := (NameMap.get?_eq_some_iff c.types name d).mp hd
    exact ⟨d, List.mem_map.mpr ⟨_, hmem, rfl⟩, qualifiedName_of_get? hd⟩
  · rintro ⟨d, hd, rfl⟩
    obtain ⟨entry, hmem, rfl⟩ := List.mem_map.mp hd
    refine ⟨entry.2, (NameMap.get?_eq_some_iff c.types _ _).mpr ?_⟩
    rw [← c.named entry hmem]
    exact hmem

/-- The only described type with a simple name has the name, and no other one has it. -/
theorem mem_of_unique?_eq_some {d : TypeDescription} (h : c.unique? name = some d) :
    d ∈ c.toList ∧ ∀ d' ∈ c.toList, d'.name = name → d' = d := by
  unfold unique? at h
  split at h
  · next hfilter =>
    cases h
    have hmem : d ∈ c.toList.filter fun d => d.name == name := by
      rw [hfilter]
      exact List.mem_singleton_self d
    refine ⟨(List.mem_filter.mp hmem).1, fun d' hd' hname => ?_⟩
    have hmem' : d' ∈ c.toList.filter fun d => d.name == name :=
      List.mem_filter.mpr ⟨hd', by simpa using hname⟩
    rwa [hfilter, List.mem_singleton] at hmem'
  · cases h

/-- A described name without a dot is the simple name of its description. -/
theorem name_eq_of_qualifiedName {d : TypeDescription} (h : d.qualifiedName = name)
    (hdot : '.' ∉ name.toList) : d.name = name := by
  unfold TypeDescription.qualifiedName TypeDescription.qualify at h
  split at h
  · exact h
  · subst h
    exact absurd (by simp) hdot

/-- The simple name of a type of the package that is not hidden means the type. -/
theorem qualify_simpleName_of_eq (hfree : ¬ c.IsHidden package name)
    (hsame : TypeDescription.qualify package (Library.simpleName name) = name) :
    c.qualify package (Library.simpleName name) = name := by
  rw [qualify_of_notMem (Library.notMem_simpleName name), hsame]
  split
  · rfl
  · next hnone =>
    have himport : name ∈ Library.implicitImports := by
      by_contra himport
      exact hfree (.undescribed hsame (Bool.eq_false_iff.mpr hnone) himport)
    rw [Library.implicit?_simpleName himport, Option.getD_some]

section

variable (hknown : c.contains name = true ∨ Library.contains name = true)

include hknown

/-- The simple name of a hidden type means something else: a type that is found before it, or, when
nothing is found, the short name itself. There is one case for each way of hiding, and in each the
three places are gone through. -/
theorem IsHidden.qualify_ne (h : c.IsHidden package name) :
    c.qualify package (Library.simpleName name) ≠ name := by
  intro hread
  rw [qualify_of_notMem (Library.notMem_simpleName name)] at hread
  cases h with
  | sibling hne h =>
    rw [if_pos h] at hread
    exact hne hread
  | imported hne hother h =>
    split at hread
    · exact hne hread
    · rw [h, Option.getD_some] at hread
      exact hother hread
  -- Nothing is found in the package or without an import, so all descriptions are searched.
  | ambiguous hne hdot himplicit h =>
    split at hread
    · exact hne hread
    · rw [himplicit, Option.getD_none] at hread
      cases hunique : (c.unique? (Library.simpleName name)).map (·.qualifiedName) with
      | some other =>
        rw [hunique, Option.getD_some] at hread
        rw [hread] at hunique
        exact h hunique
      | none =>
        rw [hunique, Option.getD_none] at hread
        rw [← hread] at hdot
        exact Library.notMem_simpleName name hdot
  | undescribed hsame hnone h =>
    rw [hsame, hnone, if_neg Bool.false_ne_true] at hread
    cases himplicit : Library.implicit? (Library.simpleName name) with
    | some other =>
      rw [himplicit, Option.getD_some] at hread
      rw [hread] at himplicit
      exact h (List.mem_of_find?_eq_some himplicit)
    | none =>
      rw [himplicit, Option.getD_none] at hread
      -- The type is one of the library, so its name has a package.
      have hlibrary := hknown.resolve_left (Bool.eq_false_iff.mp hnone)
      have hdot := Library.mem_of_contains hlibrary
      cases hunique : c.unique? (Library.simpleName name) with
      | some d =>
        rw [hunique, Option.map_some, Option.getD_some] at hread
        have hcontains := contains_iff.mpr ⟨d, (mem_of_unique?_eq_some hunique).1, hread⟩
        rw [hnone] at hcontains
        cases hcontains
      | none =>
        rw [hunique, Option.map_none, Option.getD_none] at hread
        rw [← hread] at hdot
        exact Library.notMem_simpleName name hdot

/-- The simple name of a type of another package that is not hidden means the type. -/
theorem qualify_simpleName_of_ne (hfree : ¬ c.IsHidden package name)
    (hne : TypeDescription.qualify package (Library.simpleName name) ≠ name) :
    c.qualify package (Library.simpleName name) = name := by
  rw [qualify_of_notMem (Library.notMem_simpleName name), if_neg fun h => hfree (.sibling hne h)]
  cases himplicit : Library.implicit? (Library.simpleName name) with
  | some other =>
    by_contra hother
    exact hfree (.imported hne hother himplicit)
  | none =>
    rw [Option.getD_none]
    by_cases hdot : '.' ∈ name.toList
    · have hunique : (c.unique? (Library.simpleName name)).map (·.qualifiedName) = some name := by
        by_contra hother
        exact hfree (.ambiguous hne hdot himplicit hother)
      rw [hunique, Option.getD_some]
    -- Without a package the name is its own simple name, and it is described.
    · rw [Library.simpleName_of_notMem hdot]
      cases hunique : c.unique? name with
      | none => rfl
      | some d =>
        have hdescribed := hknown.resolve_right fun h => hdot (Library.mem_of_contains h)
        obtain ⟨d', hd', hname⟩ := contains_iff.mp hdescribed
        have hshort := name_eq_of_qualifiedName hname hdot
        obtain rfl := (mem_of_unique?_eq_some hunique).2 d' hd' hshort
        exact hname

/-- A rendered name means the type again, unless it is written without a dot and hidden. -/
theorem qualify_rendered_iff :
    c.qualify package (Render.name package name) = name ↔
      ('.' ∉ (Render.name package name).toList → ¬ c.IsHidden package name) := by
  by_cases hdot : '.' ∈ (Render.name package name).toList
  · rw [qualify_of_mem hdot, Render.name_eq_self_of_mem hdot]
    have hfull : '.' ∈ name.toList := Render.name_eq_self_of_mem hdot ▸ hdot
    exact iff_of_true rfl fun hnone => absurd hfull hnone
  · rw [Render.name_eq_simpleName_of_notMem hdot]
    simp only [Library.notMem_simpleName, not_false_eq_true, forall_const]
    constructor
    · intro hread hhidden
      exact hhidden.qualify_ne hknown hread
    · intro hfree
      by_cases hsame : TypeDescription.qualify package (Library.simpleName name) = name
      · exact qualify_simpleName_of_eq hfree hsame
      · exact qualify_simpleName_of_ne hknown hfree hsame

end

/-! ### Types -/

/-- A rendered type of known names is read back when none of its names that are written without a
dot is hidden, and only then. Reading changes names one by one and leaves the form of the type
alone, so this is a statement about each name. Whether a name is hidden can be looked up
(`isHidden_iff`). -/
theorem qualifyType_rendered_iff (c : Catalog) (package : String) (t : TypeRef)
    (hknown : ∀ n ∈ t.declaredNames, c.contains n = true ∨ Library.contains n = true) :
    c.qualifyType package (t.mapNames (Render.name package)) = t ↔
      ∀ n ∈ t.declaredNames, '.' ∉ (Render.name package n).toList → ¬ c.IsHidden package n := by
  unfold qualifyType
  rw [TypeRef.mapNames_mapNames, TypeRef.mapNames_eq_self_iff]
  exact forall₂_congr fun n hn => qualify_rendered_iff (hknown n hn)

/-- A class of a package. -/
def acmeClass (name : String) : TypeDescription where
  package := "com.acme"
  name
  kind := .classKind
  typeParameters := []
  fields := []
  enumConstants := []
  fixture := true
  providers := .empty
  creators := []

/-- The catalog of a package that has its own class for texts. -/
def acme : Catalog where
  types := ⟨[("com.acme.Item", acmeClass "Item"), ("com.acme.String", acmeClass "String")],
    by decide⟩
  named := by decide

/-- Integers and the items of the package are read back. -/
theorem qualifyType_rendered_iff_acme :
    (TypeRef.declared "java.util.Map" [.named "java.lang.Integer", .array (.named "com.acme.Item")]
        |> Render.type "com.acme") = "java.util.Map<Integer, Item[]>" ∧
      acme.qualifyType "com.acme" (TypeRef.mapNames (Render.name "com.acme")
          (.declared "java.util.Map" [.named "java.lang.Integer", .array (.named "com.acme.Item")]))
        = .declared "java.util.Map" [.named "java.lang.Integer", .array (.named "com.acme.Item")] :=
  ⟨by decide +kernel,
    (qualifyType_rendered_iff acme "com.acme" _ (by decide +kernel)).mpr (by decide +kernel)⟩

/-- Not every rendered type of known names is read back. Inside the package the text of the library
is written as the class of the package is. -/
theorem not_qualifyType_rendered :
    ¬ ∀ (c : Catalog) (package : String) (t : TypeRef),
      (∀ n ∈ t.declaredNames, c.contains n = true ∨ Library.contains n = true) →
        c.qualifyType package (t.mapNames (Render.name package)) = t := by
  intro hall
  have hread := hall acme "com.acme" (.named "java.lang.String") (by decide +kernel)
  have hsibling : acme.qualifyType "com.acme"
      (TypeRef.mapNames (Render.name "com.acme") (.named "java.lang.String"))
        = .named "com.acme.String" := by
    decide +kernel
  rw [hsibling] at hread
  exact absurd hread (by decide)

end Catalog

end Fixtures
