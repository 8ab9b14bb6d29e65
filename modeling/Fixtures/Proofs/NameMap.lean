import Fixtures.NameMap
import Mathlib.Data.List.Forall2
import Mathlib.Data.List.Nodup

/-!
# `Fixtures.Proofs.NameMap`: maps with other values under the same names, and their order

Changing every value of a map (`map`) changes what lookups find, and nothing else: lookups and
insertions commute with it. A map is made of its own entries (`ofList_entries`), and the entries of
a map laid over another come first (`get?_overlay`). More loosely, the values of two maps may be
related name by name (`Related`), and they stay so when related values are inserted.

The names of a map ascend character by character, and so do the bytes of their encoding
(`toUTF8_lt`): a later character has the larger bytes (`utf8EncodeChar_lt`).
-/

set_option autoImplicit false

namespace Fixtures.NameMap

variable {α β : Type}

/-- The map with every value changed. Its names stay, so they are still in order. -/
def map (g : α → β) (m : NameMap α) : NameMap β where
  entries := m.entries.map fun e => (e.1, g e.2)
  sorted := List.pairwise_map.mpr m.sorted

/-- A lookup finds the changed value. -/
theorem get?_map (g : α → β) (m : NameMap α) (name : String) :
    (m.map g).get? name = (m.get? name).map g := by
  rw [get?, map, List.find?_map, Option.map_map, get?, Option.map_map]
  rfl

/-- The same names have values. -/
theorem contains_map (g : α → β) (m : NameMap α) (name : String) :
    (m.map g).contains name = m.contains name := by
  rw [contains, contains, get?_map, Option.isSome_map]

/-- An insertion can be made before the change or after it. -/
theorem map_insert (g : α → β) (m : NameMap α) (name : String) (value : α) :
    (m.map g).insert name (g value) = (m.insert name value).map g := by
  refine ext_get? fun other => ?_
  rw [get?_insert, get?_map, get?_map, get?_insert]
  split
  · rfl
  · rfl

/-- The values are changed one by one. -/
theorem values_map (g : α → β) (m : NameMap α) : (m.map g).values = m.values.map g := by
  rw [values, values, map, List.map_map, List.map_map]
  rfl

/-- After entries of different names are inserted, lookups find these before the others. Without
the condition the last entry of a name is found, and not the first. -/
theorem get?_foldl_insert {entries : List (String × α)} (h : (entries.map (·.1)).Nodup)
    (m : NameMap α) (name : String) :
    (entries.foldl (fun m e => m.insert e.1 e.2) m).get? name
      = ((entries.find? fun e => e.1 == name).map (·.2)).or (m.get? name) := by
  induction entries generalizing m with
  | nil => exact (Option.none_or).symm
  | cons e rest ih =>
    obtain ⟨hfirst, hrest⟩ := List.nodup_cons.mp h
    rw [List.foldl_cons, ih hrest, get?_insert, List.find?_cons]
    by_cases hname : e.1 = name
    · -- No entry behind this one has its name.
      have hnone : (rest.find? fun e' => e'.1 == name) = none := by
        refine List.find?_eq_none.mpr fun e' he' heq => hfirst ?_
        exact List.mem_map.mpr ⟨e', he', (beq_iff_eq.mp heq).trans hname.symm⟩
      rw [hnone, if_pos hname, beq_iff_eq.mpr hname]
      rfl
    · rw [if_neg hname, beq_eq_false_iff_ne.mpr hname]

/-- No two entries of a map have one name. -/
theorem nodup_names (m : NameMap α) : m.names.Nodup :=
  (List.pairwise_map.mpr m.sorted).imp String.ne_of_lt

/-- A map is made of its entries. -/
theorem ofList_entries (m : NameMap α) : ofList m.entries = m := by
  refine ext_get? fun name => ?_
  rw [ofList, get?_foldl_insert m.nodup_names, get?_empty, Option.or_none, get?]

/-- A lookup in an overlay finds what is on top, and else what lies below. -/
theorem get?_overlay (m top : NameMap α) (name : String) :
    (m.overlay top).get? name = (top.get? name).or (m.get? name) :=
  get?_foldl_insert top.nodup_names m name

/-- A map of entries with different names has each of them, and no others. So their order does not
matter. -/
theorem get?_ofList_eq_some_iff {entries : List (String × α)} (h : (entries.map (·.1)).Nodup)
    {name : String} {value : α} :
    (ofList entries).get? name = some value ↔ (name, value) ∈ entries := by
  rw [ofList, get?_foldl_insert h, get?_empty, Option.or_none, Option.map_eq_some_iff]
  constructor
  · rintro ⟨e, hfind, rfl⟩
    have hname : e.1 = name := by simpa using List.find?_some hfind
    rw [← hname]
    exact List.mem_of_find?_eq_some hfind
  · intro hmem
    have hsome : (entries.find? fun e => e.1 == name).isSome := by
      rw [List.find?_isSome]
      exact ⟨(name, value), hmem, by simp⟩
    obtain ⟨e, hfind⟩ := Option.isSome_iff_exists.mp hsome
    -- The entry that is found has the name, and only one entry has it.
    have hname : e.1 = name := by simpa using List.find?_some hfind
    exact ⟨e, hfind, congrArg Prod.snd
      (List.inj_on_of_nodup_map h (List.mem_of_find?_eq_some hfind) hmem hname)⟩

/-! ### Names -/

/-- A name is listed when it has a value. -/
theorem mem_names_iff {m : NameMap α} {name : String} :
    name ∈ m.names ↔ ∃ value, m.get? name = some value := by
  simp only [names, List.mem_map, Prod.exists, exists_and_right, exists_eq_right, get?_eq_some_iff]

/-- The names of a map are those of the entries that it is made of, whether or not some of these
have the same name. -/
theorem mem_names_ofList_iff {entries : List (String × α)} {name : String} :
    name ∈ (ofList entries).names ↔ name ∈ entries.map (·.1) := by
  have hfold : ∀ m : NameMap α, name ∈ (entries.foldl (fun m e => m.insert e.1 e.2) m).names ↔
      name ∈ m.names ∨ name ∈ entries.map (·.1) := by
    induction entries with
    | nil => simp
    | cons entry rest ih =>
      intro m
      rw [List.foldl_cons, ih, List.map_cons, List.mem_cons, ← or_assoc]
      refine or_congr_left ?_
      rw [mem_names_iff, mem_names_iff]
      by_cases hname : entry.1 = name
      · simp [hname]
      · simp [get?_insert_of_ne _ _ hname, Ne.symm hname]
  rw [ofList, hfold]
  exact or_iff_right List.not_mem_nil

/-- The names of a map are in ascending order. -/
theorem pairwise_names (m : NameMap α) : m.names.Pairwise (· < ·) :=
  List.pairwise_map.mpr m.sorted

/-! ### Related maps -/

/-- Two maps have the same names, and related values under each. The values may be of different
kinds. -/
def Related (R : α → β → Prop) (m : NameMap α) (m' : NameMap β) : Prop :=
  List.Forall₂ (fun e e' => e.1 = e'.1 ∧ R e.2 e'.2) m.entries m'.entries

namespace Related

variable {R : α → β → Prop} {m : NameMap α} {m' : NameMap β}

theorem empty : Related R .empty .empty := .nil

/-- Either both maps have a value under a name, and these are related, or neither has. The entries
stand in the same places, so both are found together. -/
theorem rel_get? (h : Related R m m') (name : String) :
    Option.Rel R (m.get? name) (m'.get? name) := by
  unfold Related at h
  unfold get?
  generalize m.entries = entries, m'.entries = entries' at h ⊢
  induction h with
  | nil => exact .none
  | @cons e e' _ _ hfirst _ ih =>
    obtain ⟨hname, hvalue⟩ := hfirst
    rw [List.find?_cons, List.find?_cons, ← hname]
    cases e.1 == name with
    | true => exact .some hvalue
    | false => exact ih

/-- The maps stay related when related values are inserted. The place of an entry is decided by the
names alone, which are the same in both maps. -/
theorem insert (h : Related R m m') (name : String) {value : α} {value' : β}
    (hvalue : R value value') : Related R (m.insert name value) (m'.insert name value') := by
  unfold Related at h ⊢
  show List.Forall₂ _ (put name value m.entries) (put name value' m'.entries)
  generalize m.entries = entries, m'.entries = entries' at h ⊢
  induction h with
  | nil => exact .cons ⟨rfl, hvalue⟩ .nil
  | cons hfirst hrest ih =>
    rw [put, put, ← hfirst.1]
    split
    · exact .cons ⟨rfl, hvalue⟩ (.cons hfirst hrest)
    · split
      · exact .cons ⟨rfl, hvalue⟩ hrest
      · exact .cons hfirst ih

/-- The values are related one by one. -/
theorem forall₂_values (h : Related R m m') : List.Forall₂ R m.values m'.values :=
  List.forall₂_map_left_iff.mpr (List.forall₂_map_right_iff.mpr (h.imp fun _ _ he => he.2))

end Related

/-! ### The order of names -/

open String (utf8EncodeChar)

/-- The bytes of a later character are larger, whatever follows either of them. -/
theorem utf8EncodeChar_lt {c d : Char} (h : c < d) (s t : List UInt8) :
    utf8EncodeChar c ++ s < utf8EncodeChar d ++ t := by
  have hlt : c.val.toNat < d.val.toNat := h
  have hd : d.val.toNat < 0x110000 := by
    rcases d.valid with hd | hd
    · exact Nat.lt_trans hd (by decide)
    · exact hd.2
  simp only [utf8EncodeChar]
  generalize c.val.toNat = m, d.val.toNat = n at *
  -- The digits of the two numbers to the base 64 are taken off one at a time.
  have hm₁ : m / 4096 = m / 64 / 64 := by omega
  have hm₂ : m / 262144 = m / 64 / 64 / 64 := by omega
  have hn₁ : n / 4096 = n / 64 / 64 := by omega
  have hn₂ : n / 262144 = n / 64 / 64 / 64 := by omega
  rw [hm₁, hm₂, hn₁, hn₂]
  clear hm₁ hm₂ hn₁ hn₂
  -- There are one to four bytes for each character, compared as numbers from the first one on.
  split_ifs <;>
    simp only [List.cons_append, List.nil_append, List.cons_lt_cons_iff, UInt8.lt_iff_toNat_lt,
      UInt8.toNat_ofNat', ← UInt8.toNat_inj] <;>
    simp (disch := omega) only [Nat.mod_eq_of_lt, Nat.reducePow] <;>
    omega

/-- Every character has a byte. -/
theorem exists_utf8EncodeChar_eq_cons (c : Char) :
    ∃ b rest, utf8EncodeChar c = b :: rest := by
  unfold utf8EncodeChar
  simp only
  split_ifs
  all_goals exact ⟨_, _, rfl⟩

/-- Characters that come before others have bytes that do. Where two texts go on alike so do their
bytes, and the first difference decides about both. -/
theorem flatMap_utf8EncodeChar_lt {s t : List Char} (h : s < t) :
    s.flatMap utf8EncodeChar < t.flatMap utf8EncodeChar := by
  induction h with
  | @nil c t =>
    obtain ⟨b, rest, hb⟩ := exists_utf8EncodeChar_eq_cons c
    rw [List.flatMap_cons, hb]
    exact .nil
  | @cons c s t _ ih =>
    rw [List.flatMap_cons, List.flatMap_cons]
    induction utf8EncodeChar c with
    | nil => exact ih
    | cons b bytes ihb => exact .cons ihb
  | rel h => exact utf8EncodeChar_lt h _ _

/-- The order of texts is that of their bytes. -/
theorem toUTF8_lt {s t : String} (h : s < t) :
    s.toUTF8.data.toList < t.toUTF8.data.toList := by
  rw [String.toUTF8, String.toUTF8, ← String.utf8Encode_toList,
    ← String.utf8Encode_toList (b := t), List.utf8Encode, List.utf8Encode, List.data_toByteArray,
    List.data_toByteArray]
  exact flatMap_utf8EncodeChar_lt (String.lt_iff.mp h)

end Fixtures.NameMap
