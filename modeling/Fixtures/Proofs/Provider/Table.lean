import Fixtures.Proofs.Failing
import Fixtures.Proofs.NameMap
import Fixtures.Provider.Table

/-!
# `Fixtures.Proofs.Provider.Table`: which directives a table keeps

A directive is a written key with the source of a provider. A table is compiled by going through
the directives in the order of their written keys, and a written key counts as its normal key only.
So what is found under a key is the provider of the last directive that is under it
(`get?_of_compile`).

Different written keys may have one normal key, and then the directives before the last one are
lost without an error. `keeps_iff_of_compile` tells which directives are kept, and that all are
exactly if those under one key have one source. `not_keeps_of_compile` is the case of a type that
is written once by its short name and once in full.
-/

set_option autoImplicit false

namespace Fixtures

/-- A compiled provider knows its source. So two sources that give the same provider are the same.
-/
theorem Provider.source_of_compile? {source : String} {p : Provider}
    (h : compile? source = .ok p) : p.source = source := by
  obtain ⟨ts, -, h⟩ := bind_eq_ok_iff.mp h
  obtain ⟨body, -, h⟩ := bind_eq_ok_iff.mp h
  cases h
  rfl

namespace ProviderTable

variable {c : Catalog} {package : String}

/-! ### Directives under a key -/

/-- The last of some directives under a key. Directives come in the order of their written keys,
and what is written differently may be one key. -/
def last? (c : Catalog) (package : String) (directives : List (String × String)) (key : String) :
    Option (String × String) :=
  directives.reverse.find? fun d => (normalKey c package d.1).toOption == some key

/-- The last directive under a key is one of those under it. -/
theorem mem_of_last? {directives : List (String × String)} {key : String} {d : String × String}
    (h : last? c package directives key = some d) :
    d ∈ directives ∧ normalKey c package d.1 = .ok key := by
  have hkey := List.find?_some h
  exact ⟨List.mem_reverse.mp (List.mem_of_find?_eq_some h),
    toOption_eq_some_iff.mp (beq_iff_eq.mp hkey)⟩

/-- A key that some directive is under has a last one, which need not be that directive. -/
theorem exists_last? {directives : List (String × String)} {key : String} {d : String × String}
    (hd : d ∈ directives) (hkey : normalKey c package d.1 = .ok key) :
    ∃ last, last? c package directives key = some last :=
  Option.isSome_iff_exists.mp (List.find?_isSome.mpr
    ⟨d, List.mem_reverse.mpr hd, beq_iff_eq.mpr (toOption_eq_some_iff.mpr hkey)⟩)

/-- Further directives come before the first one. What stands first is the last under a key only if
nothing behind it is. -/
theorem last?_cons (d : String × String) (rest : List (String × String)) (key : String) :
    last? c package (d :: rest) key = (last? c package rest key).or
      (if (normalKey c package d.1).toOption = some key then some d else none) := by
  rw [last?, List.reverse_cons, List.find?_append, ← last?, List.find?_singleton]
  simp only [beq_iff_eq]

/-! ### Compiling -/

/-- A directive is added under its normal key. What stood under that key is replaced, and nothing
says that it was there. -/
theorem addSource_eq_ok_iff {table after : ProviderTable} {d : String × String} :
    addSource c package table d = .ok after ↔ ∃ key provider, normalKey c package d.1 = .ok key ∧
      Provider.compile? d.2 = .ok provider ∧ after = table.insert key provider := by
  unfold addSource
  simp only [bind_eq_ok_iff, mapError_eq_ok_iff]
  constructor
  · rintro ⟨key, hkey, provider, hprovider, h⟩
    cases h
    exact ⟨key, provider, hkey, hprovider, rfl⟩
  · rintro ⟨key, provider, hkey, hprovider, rfl⟩
    exact ⟨key, hkey, provider, hprovider, rfl⟩

/-- A directive that can be followed has a normal key and a provider. A table is compiled only if
all of them can. -/
def IsSound (c : Catalog) (package : String) (d : String × String) : Prop :=
  ∃ key provider, normalKey c package d.1 = .ok key ∧ Provider.compile? d.2 = .ok provider

/-- Directives that were added are all sound, and under a key stands the provider of the last of
them, unless none is under it. The table that the adding started with is general here, because the
induction goes through tables that are not empty. -/
theorem get?_of_addSources {directives : List (String × String)} {table after : ProviderTable}
    (h : directives.foldlM (addSource c package) table = .ok after) :
    (∀ d ∈ directives, IsSound c package d) ∧ ∀ key, after.get? key =
      ((last? c package directives key).bind fun d => (Provider.compile? d.2).toOption).or
        (table.get? key) := by
  -- The table differs for the directives behind the first one, so the induction is for all tables.
  induction directives generalizing table with
  | nil =>
    cases h
    exact ⟨fun d hd => absurd hd List.not_mem_nil, fun key => (Option.none_or).symm⟩
  | cons d rest ih =>
    rw [List.foldlM_cons] at h
    obtain ⟨next, hnext, h⟩ := bind_eq_ok_iff.mp h
    obtain ⟨key, provider, hkey, hprovider, rfl⟩ := addSource_eq_ok_iff.mp hnext
    obtain ⟨hsound, hfound⟩ := ih h
    refine ⟨List.forall_mem_cons.mpr ⟨⟨key, provider, hkey, hprovider⟩, hsound⟩, fun key' => ?_⟩
    rw [hfound, last?_cons, NameMap.get?_insert, hkey, Except.toOption]
    cases hlast : last? c package rest key' with
    | some last =>
      -- The provider of a directive behind this one is there.
      obtain ⟨-, made, -, hmade⟩ := hsound last (mem_of_last? hlast).1
      rw [Option.some_or, Option.bind_some, hmade]
      rfl
    | none =>
      by_cases hsame : key = key'
      · rw [if_pos hsame, if_pos (congrArg some hsame), Option.none_or, Option.bind_some, hprovider]
        rfl
      · rw [if_neg hsame, if_neg fun heq => hsame (Option.some.inj heq)]
        rfl

variable {sources : NameMap String} {table : ProviderTable}

/-- All directives of a compiled table are sound. -/
theorem isSound_of_compile (h : compile c package sources = .ok table) {d : String × String}
    (hd : d ∈ sources.entries) : IsSound c package d :=
  (get?_of_addSources h).1 d hd

/-- Under a key of a compiled table stands the provider of the last directive under it. -/
theorem get?_of_compile (h : compile c package sources = .ok table) (key : String) :
    table.get? key =
      (last? c package sources.entries key).bind fun d => (Provider.compile? d.2).toOption := by
  rw [(get?_of_addSources h).2, NameMap.get?_empty, Option.or_none]

/-- A key that some directive is under has the provider of the last one. -/
theorem exists_last?_of_compile (h : compile c package sources = .ok table) {d : String × String}
    (hd : d ∈ sources.entries) {key : String} (hkey : normalKey c package d.1 = .ok key) :
    ∃ last provider, last? c package sources.entries key = some last ∧
      Provider.compile? last.2 = .ok provider ∧ table.get? key = some provider := by
  obtain ⟨last, hlast⟩ := exists_last? hd hkey
  obtain ⟨-, provider, -, hprovider⟩ := isSound_of_compile h (mem_of_last? hlast).1
  refine ⟨last, provider, hlast, hprovider, ?_⟩
  rw [get?_of_compile h, hlast, Option.bind_some, hprovider]
  rfl

/-! ### Directives that are kept -/

/-- Under the normal key of a directive stands the provider of its own source. It may have come
there through another directive with the same source. -/
def Keeps (c : Catalog) (package : String) (table : ProviderTable) (d : String × String) : Prop :=
  ∃ key provider, normalKey c package d.1 = .ok key ∧ Provider.compile? d.2 = .ok provider ∧
    table.get? key = some provider

/-- A directive is kept if the last one under its key has its source. Providers are told apart by
their sources. -/
theorem keeps_iff_of_last? (h : compile c package sources = .ok table) {d last : String × String}
    (hd : d ∈ sources.entries) {key : String} (hkey : normalKey c package d.1 = .ok key)
    (hlast : last? c package sources.entries key = some last) :
    Keeps c package table d ↔ last.2 = d.2 := by
  obtain ⟨last', kept, hlast', hkept, hget⟩ := exists_last?_of_compile h hd hkey
  obtain rfl : last' = last := Option.some.inj (hlast'.symm.trans hlast)
  constructor
  · rintro ⟨key', provider, hkey', hprovider, hget'⟩
    obtain rfl : key' = key := Except.ok.inj (hkey'.symm.trans hkey)
    obtain rfl : kept = provider := Option.some.inj (hget.symm.trans hget')
    rw [← Provider.source_of_compile? hkept, Provider.source_of_compile? hprovider]
  · intro hsource
    exact ⟨key, kept, hkey, hsource ▸ hkept, hget⟩

/-- A directive has a key, and under it stands the provider of the last directive under it. -/
theorem exists_keeps_iff (h : compile c package sources = .ok table) {d : String × String}
    (hd : d ∈ sources.entries) : ∃ key last provider, normalKey c package d.1 = .ok key ∧
      last? c package sources.entries key = some last ∧ Provider.compile? last.2 = .ok provider ∧
      table.get? key = some provider ∧ (Keeps c package table d ↔ last.2 = d.2) := by
  obtain ⟨key, -, hkey, -⟩ := isSound_of_compile h hd
  obtain ⟨last, provider, hlast, hprovider, hget⟩ := exists_last?_of_compile h hd hkey
  exact ⟨key, last, provider, hkey, hlast, hprovider, hget, keeps_iff_of_last? h hd hkey hlast⟩

/-- Of the directives under a key the last one stands in the table, and all are kept that have its
source. So no directive is lost exactly if those under one key have one source. Two directives are
under one key when their texts name one type, in full or by its short name. -/
theorem keeps_iff_of_compile (h : compile c package sources = .ok table) :
    (∀ d ∈ sources.entries, ∃ key last provider, normalKey c package d.1 = .ok key ∧
      last? c package sources.entries key = some last ∧
      Provider.compile? last.2 = .ok provider ∧ table.get? key = some provider ∧
      (Keeps c package table d ↔ last.2 = d.2)) ∧
    ((∀ d ∈ sources.entries, Keeps c package table d) ↔
      ∀ d ∈ sources.entries, ∀ d' ∈ sources.entries,
        normalKey c package d.1 = normalKey c package d'.1 → d.2 = d'.2) := by
  refine ⟨fun d => exists_keeps_iff h, fun hkeeps d hd d' hd' hsame => ?_,
    fun hsources d hd => ?_⟩
  · -- Both directives are under one key, so both have the source of the last one under it.
    obtain ⟨key, last, -, hkey, hlast, -, -, hiff⟩ := exists_keeps_iff h hd
    have hiff' := keeps_iff_of_last? h hd' (hsame ▸ hkey) hlast
    rw [← hiff.mp (hkeeps d hd), hiff'.mp (hkeeps d' hd')]
  · -- The last directive under the key is one of the directives.
    obtain ⟨key, last, -, hkey, hlast, -, -, hiff⟩ := exists_keeps_iff h hd
    obtain ⟨hmem, hkey'⟩ := mem_of_last? hlast
    exact hiff.mpr (hsources last hmem d hd (hkey'.trans hkey.symm))

/-- Directives for texts and for UUIDs. -/
def apart : NameMap String :=
  ⟨[("String", "'none'"), ("uuid", "quote(uuid())")], by decide⟩

/-- Directives for texts and for UUIDs are both kept. -/
theorem keeps_iff_of_compile_apart : ∃ table, compile .empty "shop" apart = .ok table ∧
    ∀ d ∈ apart.entries, Keeps .empty "shop" table d := by
  have hcompile : (compile .empty "shop" apart).toOption.isSome := by decide +kernel
  obtain ⟨table, htable⟩ := Option.isSome_iff_exists.mp hcompile
  have htable := toOption_eq_some_iff.mp htable
  refine ⟨table, htable, (keeps_iff_of_compile htable).2.mpr fun d hd d' hd' hsame => ?_⟩
  -- The keys are different, so there is one directive under each.
  have hkeys : ∀ d ∈ apart.entries, ∀ d' ∈ apart.entries,
      (normalKey .empty "shop" d.1).toOption = (normalKey .empty "shop" d'.1).toOption →
        d.2 = d'.2 := by
    decide +kernel
  exact hkeys d hd d' hd' (congrArg Except.toOption hsame)

/-- Two directives for texts, by the short name of the type and by the full one. -/
def twice : NameMap String :=
  ⟨[("String", "'short'"), ("java.lang.String", "'full'")], by decide⟩

/-- Not every directive is kept. Of two that name the text type in two ways the first is lost. -/
theorem not_keeps_of_compile :
    ¬ ∀ (c : Catalog) (package : String) (sources : NameMap String) (table : ProviderTable),
      compile c package sources = .ok table → ∀ d ∈ sources.entries, Keeps c package table d := by
  -- Both directives are about texts, and the second one takes the place of the first.
  intro hall
  have hfull : ((compile .empty "shop" twice).toOption.bind fun table =>
      (table.get? "java.lang.String").map (·.source)) = some "'full'" := by
    decide +kernel
  have hkey : (normalKey .empty "shop" "String").toOption = some "java.lang.String" := by
    decide +kernel
  obtain ⟨table, htable, hfull⟩ := Option.bind_eq_some_iff.mp hfull
  obtain ⟨kept, hkept, hfull⟩ := Option.map_eq_some_iff.mp hfull
  obtain ⟨key, provider, hkey', hprovider, hget⟩ := hall .empty "shop" twice table
    (toOption_eq_some_iff.mp htable) ("String", "'short'") List.mem_cons_self
  obtain rfl : key = "java.lang.String" := by
    rw [hkey', Except.toOption] at hkey
    exact Option.some.inj hkey
  obtain rfl : kept = provider := Option.some.inj (hkept.symm.trans hget)
  rw [Provider.source_of_compile? hprovider] at hfull
  exact absurd hfull (by decide)

end ProviderTable

end Fixtures
