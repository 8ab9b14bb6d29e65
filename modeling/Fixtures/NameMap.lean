/-!
# `Fixtures.NameMap`: finite maps from names

A map from names to values as the list of its entries in ascending order of name. The order is
part of the type, so what a reader sees (listing, printing, the first failing entry) is always
in name order, and two maps with the same lookups are the same map (`ext_get?`). Names are
compared by code points, which is also the byte order of their UTF-8 form.
-/

set_option autoImplicit false

namespace Fixtures

/-- A finite map from names, its entries in strictly ascending order of name. -/
structure NameMap (α : Type) where
  entries : List (String × α)
  sorted : entries.Pairwise fun a b => a.1 < b.1
deriving DecidableEq

namespace NameMap

variable {α β : Type}

/-! ### Operations on entry lists -/

/-- Puts an entry at its place in a list in ascending order; an entry of the same name gives
way. -/
def put (name : String) (value : α) : List (String × α) → List (String × α)
  | [] => [(name, value)]
  | entry :: rest =>
    if name < entry.1 then (name, value) :: entry :: rest
    else if name = entry.1 then (name, value) :: rest
    else entry :: put name value rest

theorem mem_put {name : String} {value : α} {entries : List (String × α)} {e : String × α}
    (h : e ∈ put name value entries) : e = (name, value) ∨ e ∈ entries := by
  induction entries with
  | nil => exact .inl (by simpa [put] using h)
  | cons entry rest ih =>
    rw [put] at h
    split at h
    · simpa using h
    · split at h
      · rcases List.mem_cons.1 h with h | h
        · exact .inl h
        · exact .inr (List.mem_cons_of_mem _ h)
      · rcases List.mem_cons.1 h with h | h
        · exact .inr (h ▸ List.mem_cons_self)
        · exact (ih h).imp_right (List.mem_cons_of_mem _)

theorem pairwise_put (name : String) (value : α) {entries : List (String × α)}
    (h : entries.Pairwise fun a b => a.1 < b.1) :
    (put name value entries).Pairwise fun a b => a.1 < b.1 := by
  induction entries with
  | nil => simp [put]
  | cons entry rest ih =>
    have hrest := List.pairwise_cons.1 h
    rw [put]
    split
    · next hlt =>
      refine List.pairwise_cons.2 ⟨fun e he => ?_, h⟩
      rcases List.mem_cons.1 he with he | he
      · exact he ▸ hlt
      · exact String.lt_trans hlt (hrest.1 e he)
    · split
      · next heq => exact List.pairwise_cons.2 ⟨fun e he => heq ▸ hrest.1 e he, hrest.2⟩
      · next hge hne =>
        refine List.pairwise_cons.2 ⟨fun e he => ?_, ih hrest.2⟩
        rcases mem_put he with he | he
        · subst he
          rcases String.le_total name entry.1 with hle | hle
          · exact absurd (String.le_antisymm hle (String.not_lt.1 hge)) hne
          · exact String.not_le.1 fun hle' => hne (String.le_antisymm hle' hle)
        · exact hrest.1 e he

/-! ### The map -/

/-- The map without entries. -/
def empty : NameMap α := ⟨[], .nil⟩

/-- The map with one more entry; an entry of the same name gives way. -/
def insert (m : NameMap α) (name : String) (value : α) : NameMap α :=
  ⟨put name value m.entries, pairwise_put name value m.sorted⟩

/-- The value under a name. -/
def get? (m : NameMap α) (name : String) : Option α :=
  (m.entries.find? fun e => e.1 == name).map (·.2)

/-- Whether a name has a value. -/
def contains (m : NameMap α) (name : String) : Bool :=
  (m.get? name).isSome

/-- The number of entries. -/
def size (m : NameMap α) : Nat := m.entries.length

/-- Whether there is no entry. -/
def isEmpty (m : NameMap α) : Bool := m.entries.isEmpty

/-- The names in ascending order. -/
def names (m : NameMap α) : List String := m.entries.map (·.1)

/-- The values in ascending order of name. -/
def values (m : NameMap α) : List α := m.entries.map (·.2)

/-- The map of a list of entries; of two entries with one name the later one stays. -/
def ofList (entries : List (String × α)) : NameMap α :=
  entries.foldl (fun m e => m.insert e.1 e.2) empty

/-- The entries of `top`, and those of `m` under all other names. -/
def overlay (m top : NameMap α) : NameMap α :=
  top.entries.foldl (fun m e => m.insert e.1 e.2) m

instance : Inhabited (NameMap α) := ⟨empty⟩

/-! ### What lookups see -/

@[simp] theorem get?_empty (name : String) : (empty : NameMap α).get? name = none := rfl

theorem find?_put (name other : String) (value : α) (entries : List (String × α)) :
    ((put name value entries).find? fun e => e.1 == other).map (·.2)
      = if name = other then some value
        else (entries.find? fun e => e.1 == other).map (·.2) := by
  induction entries with
  | nil => by_cases h : name = other <;> simp [put, h]
  | cons entry rest ih =>
    rw [put]
    split
    · by_cases h : name = other <;> simp [h, List.find?_cons]
    · split
      · next heq => subst heq; by_cases h : entry.1 = other <;> simp [h]
      · next hne =>
        by_cases h : entry.1 = other
        · have : name ≠ other := fun hn => hne (hn.trans h.symm)
          simp [h, this]
        · simpa [h, List.find?_cons] using ih

/-- An insertion changes the value under its own name only. -/
theorem get?_insert (m : NameMap α) (name other : String) (value : α) :
    (m.insert name value).get? other = if name = other then some value else m.get? other :=
  find?_put name other value m.entries

@[simp] theorem get?_insert_self (m : NameMap α) (name : String) (value : α) :
    (m.insert name value).get? name = some value := by
  simp [get?_insert]

theorem get?_insert_of_ne (m : NameMap α) {name other : String} (value : α) (h : name ≠ other) :
    (m.insert name value).get? other = m.get? other := by
  simp [get?_insert, h]

/-- A lookup finds exactly the entries of the list. -/
theorem get?_eq_some_iff (m : NameMap α) (name : String) (value : α) :
    m.get? name = some value ↔ (name, value) ∈ m.entries := by
  obtain ⟨entries, sorted⟩ := m
  simp only [get?]
  induction entries with
  | nil => simp
  | cons entry rest ih =>
    have hrest := List.pairwise_cons.1 sorted
    obtain ⟨k, v⟩ := entry
    by_cases h : k = name
    · subst h
      have : (k, value) ∉ rest := fun hm => String.lt_irrefl k (hrest.1 _ hm)
      simp [this, eq_comm]
    · have : ¬ (name = k ∧ value = v) := fun hn => h hn.1.symm
      simpa [List.find?_cons, h, this] using ih hrest.2

/-- Maps with the same lookups are the same map. -/
theorem ext_get? {m n : NameMap α} (h : ∀ name, m.get? name = n.get? name) : m = n := by
  obtain ⟨xs, hx⟩ := m
  obtain ⟨ys, hy⟩ := n
  have hmem : ∀ e, e ∈ xs ↔ e ∈ ys := fun e => by
    have h1 := get?_eq_some_iff ⟨xs, hx⟩ e.1 e.2
    have h2 := get?_eq_some_iff ⟨ys, hy⟩ e.1 e.2
    rw [h e.1] at h1
    exact h1.symm.trans h2
  clear h
  suffices xs = ys by subst this; rfl
  induction xs generalizing ys with
  | nil =>
    cases ys with
    | nil => rfl
    | cons y ys => exact absurd ((hmem y).2 List.mem_cons_self) (by simp)
  | cons x xs ih =>
    cases ys with
    | nil => exact absurd ((hmem x).1 List.mem_cons_self) (by simp)
    | cons y ys =>
      have hx' := List.pairwise_cons.1 hx
      have hy' := List.pairwise_cons.1 hy
      have hxy : x = y := by
        rcases List.mem_cons.1 ((hmem x).1 List.mem_cons_self) with e | e
        · exact e
        · rcases List.mem_cons.1 ((hmem y).2 List.mem_cons_self) with e' | e'
          · exact e'.symm
          · exact absurd (String.lt_trans (hx'.1 y e') (hy'.1 x e)) (String.lt_irrefl _)
      subst hxy
      have hne : ∀ {zs : List (String × α)}, (∀ e ∈ zs, x.1 < e.1) → x ∉ zs :=
        fun hz hm => String.lt_irrefl _ (hz x hm)
      refine congrArg (x :: ·) (ih hx'.2 ys hy'.2 fun e => ⟨fun he => ?_, fun he => ?_⟩)
      · rcases List.mem_cons.1 ((hmem e).1 (List.mem_cons_of_mem _ he)) with h | h
        · exact absurd (h ▸ he) (hne hx'.1)
        · exact h
      · rcases List.mem_cons.1 ((hmem e).2 (List.mem_cons_of_mem _ he)) with h | h
        · exact absurd (h ▸ he) (hne hy'.1)
        · exact h

end NameMap

end Fixtures
