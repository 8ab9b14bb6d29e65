import Fixtures.Registry

/-!
# `Fixtures.Proofs.Registry`: what an access to a registry reads and writes

An `Access` is anything that is done with a registry. It is `LocalTo` some keys and an own key
if it changes the entry of its own key only, and if what it gives and what it writes there is
decided by the entries under these keys. Two accesses with different own keys, neither of which
reads the own key of the other, can be made in either order (`LocalTo.fst_after`,
`LocalTo.comm`).

Publishing is the only way in which a registry changes. `get?_publish` tells all its entries
afterwards, and `growsTo_publish` that none is lost.
-/

set_option autoImplicit false

namespace Fixtures.Registry

/-! ### Entries -/

/-- Registries with the same entries are the same registry. -/
theorem ext_get? {r s : Registry} (h : ∀ key, r.get? key = s.get? key) : r = s := by
  obtain ⟨fixtures, named⟩ := r
  obtain ⟨others, named'⟩ := s
  have heq : fixtures = others := NameMap.ext_get? h
  subst heq
  rfl

/-- After it is published a summary stands under its name, and nothing else has changed. -/
theorem get?_publish {r after : Registry} {s : Summary} (h : r.publish s = .ok after)
    (key : String) : after.get? key = if s.typeName = key then some s else r.get? key := by
  unfold publish at h
  split at h
  · cases h
    exact NameMap.get?_insert r.fixtures s.typeName key s
  · next present hpresent =>
    split at h
    · next hsame =>
      cases h
      split
      · next hkey => rw [← hkey, hpresent, hsame]
      · rfl
    · cases h

/-- Whether a summary can be published is decided by the entry under its name. It can when there is
none, or the same one. -/
theorem publish_error_congr {r s : Registry} {x : Summary} {err : FixtureError}
    (h : r.get? x.typeName = s.get? x.typeName) :
    r.publish x = .error err ↔ s.publish x = .error err := by
  unfold publish
  rw [h]
  cases s.get? x.typeName with
  | none => simp
  | some present =>
    by_cases hsame : present = x
    · simp [hsame]
    · simp [hsame]

/-! ### Growing -/

/-- All entries of a registry stand in another one too, unchanged. Entries are never taken out or
replaced, so this is how a registry and a later one are related. -/
def GrowsTo (r s : Registry) : Prop :=
  ∀ key x, r.get? key = some x → s.get? key = some x

/-- Without a change no entry is lost. -/
theorem GrowsTo.refl (r : Registry) : r.GrowsTo r := fun _ _ h => h

/-- Entries that stay twice stay. -/
theorem GrowsTo.trans {r s t : Registry} (h : r.GrowsTo s) (h' : s.GrowsTo t) : r.GrowsTo t :=
  fun key x hx => h' key x (h key x hx)

/-- Publishing loses no entry and changes none. -/
theorem growsTo_publish {r after : Registry} {s : Summary} (h : r.publish s = .ok after) :
    r.GrowsTo after := by
  intro key x hx
  rw [get?_publish h]
  split
  · next hkey =>
    -- The entry was there before, so what is published is the same summary.
    subst hkey
    simp only [publish, hx] at h
    split at h
    · next hsame => rw [hsame]
    · cases h
  · exact hx

/-- A summary that stands in the registry can be published again. -/
theorem publish_of_get? {r : Registry} {s : Summary} (h : r.get? s.typeName = some s) :
    r.publish s = .ok r := by
  unfold publish
  rw [h]
  exact if_pos rfl

/-! ### Searching -/

/-- In a list of items with different keys every item is found by its key. -/
theorem find?_eq_some_of_nodup {α : Type} {key : α → String} {items : List α} {item : α}
    (hnodup : (items.map key).Nodup) (hmem : item ∈ items) :
    items.find? (fun other => key other == key item) = some item := by
  obtain ⟨before, after, rfl⟩ := List.append_of_mem hmem
  rw [List.map_append, List.map_cons] at hnodup
  refine List.find?_eq_some_iff_append.mpr ⟨by simp, before, after, rfl, fun other hother => ?_⟩
  have hne : key other ≠ key item :=
    (List.nodup_append.mp hnodup).2.2 _ (List.mem_map_of_mem hother) _ List.mem_cons_self
  simpa using hne

/-- What is found by halving is in the list, in any order, and has the key. -/
theorem mem_of_bisection {α : Type} {key : α → String} {name : String} {items : List α} {item : α}
    (h : Bisection.find? key name items = some item) : item ∈ items ∧ key item = name := by
  induction items using Bisection.find?.induct key name with
  | case1 items hlen hlt ih =>
    rw [Bisection.find?, dif_pos hlen, if_pos hlt] at h
    obtain ⟨hmem, hkey⟩ := ih h
    exact ⟨List.mem_of_mem_take hmem, hkey⟩
  | case2 items hlen hge ih =>
    rw [Bisection.find?, dif_pos hlen, if_neg hge] at h
    obtain ⟨hmem, hkey⟩ := ih h
    exact ⟨List.mem_of_mem_drop hmem, hkey⟩
  | case3 items hlen =>
    rw [Bisection.find?, dif_neg hlen] at h
    exact ⟨List.mem_of_find?_eq_some h, by simpa using List.find?_some h⟩

/-- In a list in ascending order of key every item is found by halving. -/
theorem bisection_of_mem {α : Type} {key : α → String} {name : String} {items : List α} {item : α}
    (hsorted : items.Pairwise fun a b => key a < key b) (hmem : item ∈ items)
    (hkey : key item = name) : Bisection.find? key name items = some item := by
  induction items using Bisection.find?.induct key name with
  | case1 items hlen hlt ih =>
    rw [Bisection.find?, dif_pos hlen, if_pos hlt]
    refine ih (hsorted.sublist (List.take_sublist _ _)) ?_
    -- An item in the middle or behind it would have a key that is not below that of the middle.
    obtain ⟨i, hi, rfl⟩ := List.getElem_of_mem hmem
    have hbelow : i < items.length / 2 := by
      rcases Nat.lt_trichotomy i (items.length / 2) with hbelow | hsame | hbehind
      · exact hbelow
      · simp only [← hsame, hkey] at hlt
        exact absurd hlt (String.lt_irrefl _)
      · have hgt := List.pairwise_iff_getElem.mp hsorted _ _ (by omega) hi hbehind
        rw [hkey] at hgt
        exact absurd (String.lt_trans hlt hgt) (String.lt_irrefl _)
    exact List.mem_take_iff_getElem.mpr ⟨i, by omega, rfl⟩
  | case2 items hlen hge ih =>
    rw [Bisection.find?, dif_pos hlen, if_neg hge]
    refine ih (hsorted.sublist (List.drop_sublist _ _)) ?_
    -- An item before the middle would have a key below that of the middle.
    obtain ⟨i, hi, rfl⟩ := List.getElem_of_mem hmem
    have hbehind : items.length / 2 ≤ i := by
      rcases Nat.lt_or_ge i (items.length / 2) with hbelow | hbehind
      · have hlt := List.pairwise_iff_getElem.mp hsorted _ _ hi (by omega) hbelow
        rw [hkey] at hlt
        exact absurd hlt hge
      · exact hbehind
    exact List.mem_drop_iff_getElem.mpr ⟨i - items.length / 2, by omega, by congr 1; omega⟩
  | case3 items hlen =>
    rw [Bisection.find?, dif_neg hlen]
    obtain ⟨only, rfl⟩ : ∃ only, items = [only] := by
      refine List.length_eq_one_iff.mp ?_
      have := List.length_pos_of_mem hmem
      omega
    obtain rfl := List.mem_singleton.mp hmem
    rw [List.find?_cons_of_pos (by simpa using hkey)]

/-- A summary only has constants that it lists. For this they need not be in order. -/
theorem mem_of_hasConstant {s : Summary} {name : String} (h : s.hasConstant name = true) :
    name ∈ s.constants := by
  obtain ⟨found, hfound⟩ := Option.isSome_iff_exists.mp h
  obtain ⟨hmem, rfl⟩ := mem_of_bisection hfound
  exact hmem

/-- A summary that lists its constants in ascending order has those that it lists. -/
theorem hasConstant_of_mem {s : Summary} {name : String} (hsorted : s.constants.Pairwise (· < ·))
    (h : name ∈ s.constants) : s.hasConstant name = true :=
  Option.isSome_iff_exists.mpr ⟨name, bisection_of_mem hsorted h rfl⟩

/-! ### Accesses -/

/-- What is done with a registry: it gives something, and leaves a registry behind. A single lookup
is one, and so is a whole pass. -/
abbrev Access (α : Type) := Registry → α × Registry

/-- The access reads no entries but those under `reads` and `own`, and writes no entry but the
one under `own`. -/
structure LocalTo {α : Type} (op : Access α) (reads : List String) (own : String) : Prop where
  /-- All other entries stay. -/
  frame : ∀ r key, key ≠ own → (op r).2.get? key = r.get? key
  /-- What it gives is decided by the entries that it reads. -/
  value : ∀ r s, (∀ key ∈ own :: reads, r.get? key = s.get? key) → (op r).1 = (op s).1
  /-- What it writes is decided by the entries that it reads. -/
  entry : ∀ r s, (∀ key ∈ own :: reads, r.get? key = s.get? key) →
    (op r).2.get? own = (op s).2.get? own

/-- An access that changes nothing is local to what decides its result, and any key can be called
its own. -/
theorem localTo_of_read {α : Type} {f : Registry → α} {reads : List String} (own : String)
    (h : ∀ r s, (∀ key ∈ reads, r.get? key = s.get? key) → f r = f s) :
    LocalTo (fun r => (f r, r)) reads own where
  frame _ _ _ := rfl
  value r s hagree := h r s fun key hkey => hagree key (List.mem_cons_of_mem _ hkey)
  entry _ _ hagree := hagree own List.mem_cons_self

namespace LocalTo

variable {α β : Type} {f : Access α} {g : Access β} {reads readsOther : List String}
  {own other : String}

/-- What is made of the result of an access is read from nowhere else. -/
theorem map (hf : LocalTo f reads own) (g : α → β) :
    LocalTo (fun r => (g (f r).1, (f r).2)) reads own where
  frame := hf.frame
  value r s hagree := congrArg g (hf.value r s hagree)
  entry := hf.entry

/-- An access does not notice one that writes none of the entries that it reads: what it reads is
the same before and after. -/
theorem agree_after (hg : LocalTo g readsOther other) (hne : own ≠ other)
    (hreads : other ∉ reads) (r : Registry) :
    ∀ key ∈ own :: reads, (g r).2.get? key = r.get? key := by
  intro key hkey
  refine hg.frame r key ?_
  rintro rfl
  rcases List.mem_cons.mp hkey with rfl | hkey
  · exact hne rfl
  · exact hreads hkey

/-- An access gives the same after one that writes none of the entries that it reads. -/
theorem fst_after (hf : LocalTo f reads own) (hg : LocalTo g readsOther other)
    (hne : own ≠ other) (hreads : other ∉ reads) (r : Registry) :
    (f (g r).2).1 = (f r).1 :=
  hf.value _ _ (hg.agree_after hne hreads r)

/-- Two accesses that write different entries, neither of which the other one reads, leave the
same registry behind in either order. -/
theorem comm (hf : LocalTo f reads own) (hg : LocalTo g readsOther other) (hne : own ≠ other)
    (hother : other ∉ reads) (hown : own ∉ readsOther) (r : Registry) :
    (f (g r).2).2 = (g (f r).2).2 := by
  refine ext_get? fun key => ?_
  -- An entry is written by the one access, by the other one, or by none of them.
  by_cases hkey : key = own
  · subst hkey
    rw [hf.entry _ _ (hg.agree_after hne hother r), hg.frame _ _ hne]
  · by_cases hkey' : key = other
    · subst hkey'
      rw [hf.frame _ _ hkey, hg.entry _ _ (hf.agree_after hne.symm hown r)]
    · rw [hf.frame _ _ hkey, hg.frame _ _ hkey', hg.frame _ _ hkey', hf.frame _ _ hkey]

end LocalTo

end Fixtures.Registry
