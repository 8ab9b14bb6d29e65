import Fixtures.Proofs.Schedule.Components
import Fixtures.Proofs.Schedule.Dependency
import Fixtures.Proofs.Schedule.Settled
import Mathlib.Data.List.Sort

/-!
# `Fixtures.Proofs.Schedule.Levels`: a level is the length of the longest chain below

When all components are settled, the table of levels holds for each pass the length of the longest
dependency chain below it, if there is a longest one (`Settled`). What is left to do is reading
the table: `levelsOf` goes through it once and adds each pass to its level (`inLevel_levelsOf_iff`),
and the rejected passes are sorted by place.

Reading the table alone could leave a level empty. None is, because a chain of length `l + 1` goes
on with one of length `l`: a pass in one level depends on a pass in the level directly below
(`exists_inLevel_of_le`).

`IsLevelled` is the whole description of the levels. It holds for every search that keeps its laws,
so the levels do not depend on the search (`levels_arrange_eq`).
-/

set_option autoImplicit false

namespace Fixtures.Schedule

open Relation

/-! ### Sorting by numbers -/

section

variable {α : Type} (key : α → Nat)

/-- Sorting by numbers is insertion sort. An item is put before the first one whose number is not
less, so items of one number stay in their order. -/
theorem sortOn_eq (items : List α) :
    sortOn key items = items.insertionSort fun a b => key a ≤ key b := by
  have hinsert : ∀ a (rest : List α),
      insertOn key a rest = rest.orderedInsert (fun a b => key a ≤ key b) a := by
    intro a rest
    induction rest with
    | nil => rfl
    | cons b rest ih => rw [insertOn, List.orderedInsert_cons, ih]
  induction items with
  | nil => rfl
  | cons a rest ih => rw [List.insertionSort_cons, ← ih, ← hinsert, sortOn, List.foldr_cons, sortOn]

/-- Sorting keeps the items. -/
theorem perm_sortOn (items : List α) : (sortOn key items).Perm items := by
  rw [sortOn_eq]
  exact List.perm_insertionSort _ items

/-- After sorting the numbers do not descend. -/
theorem pairwise_sortOn (items : List α) :
    (sortOn key items).Pairwise fun a b => key a ≤ key b := by
  have : Std.Total fun a b : α => key a ≤ key b := ⟨fun a b => Nat.le_total (key a) (key b)⟩
  have : IsTrans α fun a b : α => key a ≤ key b := ⟨fun a b c => Nat.le_trans⟩
  rw [sortOn_eq]
  exact List.pairwise_insertionSort _ items

/-- Items of different numbers are sorted in ascending order. -/
theorem pairwise_lt_sortOn {items : List α} (h : (items.map key).Nodup) :
    ((sortOn key items).map key).Pairwise (· < ·) := by
  have hnodup : ((sortOn key items).map key).Nodup :=
    (((perm_sortOn key items).map key).nodup_iff).mpr h
  refine ((List.pairwise_map.mpr (pairwise_sortOn key items)).and hnodup).imp ?_
  rintro a b ⟨hle, hne⟩
  exact Nat.lt_of_le_of_ne hle hne

end

/-! ### Levels by number -/

/-- The pass `i` stands in level `l`. Levels are counted from 0, where the passes without
dependencies are. -/
def InLevel (levels : List (List Nat)) (l i : Nat) : Prop :=
  ∃ level, levels[l]? = some level ∧ i ∈ level

/-- The passes of the levels are those of their concatenation. -/
theorem exists_inLevel_iff {levels : List (List Nat)} {i : Nat} :
    (∃ l, InLevel levels l i) ↔ i ∈ levels.flatten := by
  simp only [InLevel, List.mem_flatten]
  constructor
  · rintro ⟨l, level, hl, hi⟩
    exact ⟨level, List.mem_of_getElem? hl, hi⟩
  · rintro ⟨level, hlevel, hi⟩
    obtain ⟨l, hl⟩ := List.getElem?_of_mem hlevel
    exact ⟨l, level, hl, hi⟩

/-! ### Reading the table -/

/-- With levels added as needed, a level is as it was or empty. Only the level that was asked for
gets one more pass, at its end. -/
theorem getElem?_addToLevel (levels : List (List Nat)) (level i l : Nat) :
    (addToLevel levels level i)[l]? =
      if l = level then some (levels[l]?.getD [] ++ [i])
      else if l < level then some (levels[l]?.getD []) else levels[l]? := by
  rw [addToLevel, List.getElem?_modify, List.getElem?_append, List.getElem?_replicate]
  by_cases hlt : l < levels.length
  · by_cases heq : level = l
    · simp [hlt, heq]
    · simp [hlt, heq, Ne.symm heq]
  · have hnone : levels[l]? = none := List.getElem?_eq_none (Nat.le_of_not_lt hlt)
    by_cases heq : level = l
    · have hpad : l - levels.length < level + 1 - levels.length := by omega
      simp [hlt, heq, heq ▸ hpad]
    · by_cases hle : l < level
      · have hpad : l - levels.length < level + 1 - levels.length := by omega
        simp [hlt, heq, Ne.symm heq, hle, hpad]
      · have hpad : ¬ l - levels.length < level + 1 - levels.length := by omega
        simp [hlt, heq, Ne.symm heq, hle, hpad]

/-- What the levels of a table are: they hold its numbers, each keeps the order of the table, and
no number is needed above the highest one. A level in between may be empty as far as this goes. -/
structure IsRead (entries : List (Option Nat)) (levels : List (List Nat)) : Prop where
  mem : ∀ l i, InLevel levels l i ↔ entries[i]? = some (some l)
  ascending : ∀ level ∈ levels, level.Pairwise (· < ·)
  reached : ∀ l < levels.length, ∃ l' ≥ l, ∃ i : Nat, entries[i]? = some (some l')

/-- One more entry with a level is read. Its place is greater than all places before it, so the
level stays in ascending order. -/
theorem IsRead.add {entries : List (Option Nat)} {levels : List (List Nat)}
    (h : IsRead entries levels) (level : Nat) :
    IsRead (entries ++ [some level]) (addToLevel levels level entries.length) := by
  have hlt {l i : Nat} (hi : InLevel levels l i) : i < entries.length :=
    (List.getElem?_eq_some_iff.mp ((h.mem l i).mp hi)).1
  have hlast {l i : Nat} : (entries ++ [some level])[i]? = some (some l) ↔
      entries[i]? = some (some l) ∨ i = entries.length ∧ l = level := by
    rcases Nat.lt_trichotomy i entries.length with hi | rfl | hi
    · simp [List.getElem?_append_left hi, Nat.ne_of_lt hi]
    · simp [eq_comm]
    · rw [List.getElem?_eq_none (by simp; omega), List.getElem?_eq_none (Nat.le_of_lt hi)]
      simp [Nat.ne_of_gt hi]
  constructor
  case mem =>
    intro l i
    rw [hlast, ← h.mem]
    unfold InLevel
    rw [getElem?_addToLevel]
    by_cases hl : l = level
    · cases hget : levels[l]? with
      | none => simp [hl]
      | some old => simp [hl]
    · by_cases hlow : l < level
      · cases hget : levels[l]? with
        | none => simp [hl, hlow]
        | some old => simp [hl, hlow]
      · simp [hl, hlow]
  case ascending =>
    intro new hnew
    obtain ⟨l, hl⟩ := List.getElem?_of_mem hnew
    have hold : (levels[l]?.getD []).Pairwise (· < ·) := by
      cases hget : levels[l]? with
      | none => exact .nil
      | some old => exact h.ascending old (List.mem_of_getElem? hget)
    rw [getElem?_addToLevel] at hl
    split at hl
    · cases hl
      refine List.pairwise_append.mpr ⟨hold, List.pairwise_singleton _ _, fun i hi j hj => ?_⟩
      obtain rfl := List.mem_singleton.mp hj
      cases hget : levels[l]? with
      | none =>
        rw [hget] at hi
        cases hi
      | some old =>
        rw [hget] at hi
        exact hlt ⟨old, hget, hi⟩
    · split at hl
      · cases hl
        exact hold
      · exact h.ascending new (List.mem_of_getElem? hl)
  case reached =>
    intro l hl
    have hsome : ((addToLevel levels level entries.length)[l]?).isSome := by
      rw [List.getElem?_eq_getElem hl, Option.isSome_some]
    rw [getElem?_addToLevel] at hsome
    by_cases hle : l ≤ level
    · exact ⟨level, hle, entries.length, hlast.mpr (.inr ⟨rfl, rfl⟩)⟩
    · rw [if_neg (by omega), if_neg (by omega)] at hsome
      obtain ⟨l', hge, i, hi⟩ := h.reached l (by simpa using hsome)
      exact ⟨l', hge, i, hlast.mpr (.inl hi)⟩

/-- One more entry without a level is passed over. -/
theorem IsRead.skip {entries : List (Option Nat)} {levels : List (List Nat)}
    (h : IsRead entries levels) : IsRead (entries ++ [none]) levels := by
  have hlast {l i : Nat} : (entries ++ [none])[i]? = some (some l) ↔
      entries[i]? = some (some l) := by
    rcases Nat.lt_trichotomy i entries.length with hi | rfl | hi
    · rw [List.getElem?_append_left hi]
    · simp
    · rw [List.getElem?_eq_none (by simp; omega), List.getElem?_eq_none (Nat.le_of_lt hi)]
  refine ⟨fun l i => by rw [h.mem, hlast], h.ascending, fun l hl => ?_⟩
  obtain ⟨l', hge, i, hi⟩ := h.reached l hl
  exact ⟨l', hge, i, hlast.mpr hi⟩

/-- The levels that are made of a table are its levels. The table is read from its front, so the
induction takes the last entry away. -/
theorem isRead_levelsOf (depth : Array (Option Nat)) : IsRead depth.toList (levelsOf depth) := by
  unfold levelsOf
  induction depth.toList using List.reverseRecOn with
  | nil => exact ⟨by simp [InLevel], by simp, by simp⟩
  | append_singleton entries entry ih =>
    rw [List.zipIdx_append, List.foldl_append]
    cases entry with
    | none => simpa using ih.skip
    | some level => simpa using ih.add level

/-- A pass is in the level that the table has for it. -/
theorem inLevel_levelsOf_iff {depth : Array (Option Nat)} {l i : Nat} :
    InLevel (levelsOf depth) l i ↔ depthAt depth i = some l := by
  rw [(isRead_levelsOf depth).mem, Array.getElem?_toList, depthAt]
  cases depth[i]? with
  | none => simp
  | some entry => simp

/-! ### The levels of a schedule -/

/-- What the levels of a schedule of some passes are. Every field is about the list of passes and
their dependencies, and none about graphs, tables or searches. -/
structure IsLevelled (nodes : List PassNode) (s : Schedule) : Prop where
  /-- Every pass stands in one place: once in one level, or once among the rejected ones. -/
  once : (s.levels.flatten ++ s.rejected.map (·.1)).Perm (List.range nodes.length)
  /-- The number of its level is the length of the longest dependency chain below a pass. -/
  depth : ∀ l i, InLevel s.levels l i → IsGreatest (chainLengths (DependsOn nodes) i) l
  /-- What a pass depends on stands in a lower level. -/
  lower : ∀ l i j, InLevel s.levels l i → DependsOn nodes i j → ∃ l' < l, InLevel s.levels l' j
  /-- No level is empty. -/
  nonempty : ∀ level ∈ s.levels, level ≠ []
  /-- The passes of a level stand in the order in which they come. -/
  ascending : ∀ level ∈ s.levels, level.Pairwise (· < ·)
  /-- The rejected passes stand in the order in which they come. -/
  rejectedAscending : (s.rejected.map (·.1)).Pairwise (· < ·)

section

variable {search : Search} (hs : search.IsLawful) {nodes : List PassNode}
  (h : (nodes.map (·.typeName)).Nodup)

include hs h

/-- In the end every component of the dependency graph is settled. Here the laws of the search come
in: its components are those of the graph, and stand in such an order. -/
theorem settled_settleAll :
    Settled search nodes (graph nodes) (search.components (graph nodes))
      (settleAll search nodes) :=
  settled_foldl (hs.components _ (isClosed_graph h)) (isClosed_graph h) (not_edge_graph_self h)
    (size_graph nodes)

/-- The components hold all passes. -/
theorem mem_flatten_components_iff {i : Nat} :
    i ∈ (search.components (graph nodes)).flatten ↔ i < nodes.length := by
  rw [(hs.components _ (isClosed_graph h)).perm.mem_iff, List.mem_range, size_graph]

/-- A pass is in the level of the length of its longest dependency chain. What the table says is
read off here for the last time. -/
theorem inLevel_arrange_iff {l i : Nat} :
    InLevel (arrange search nodes).levels l i ↔
      i < nodes.length ∧ IsGreatest (chainLengths (DependsOn nodes) i) l := by
  show InLevel (levelsOf (settleAll search nodes).depth) l i ↔ _
  rw [inLevel_levelsOf_iff, (settled_settleAll hs h).depth, mem_flatten_components_iff hs h,
    edge_graph h]

/-- A pass is rejected when no dependency chain below it is the longest, with its error. Sorting
has changed nothing but the order. -/
theorem mem_rejected_arrange_iff {i : Nat} {e : FixtureError} :
    (i, e) ∈ (arrange search nodes).rejected ↔
      i < nodes.length ∧ (¬ ∃ l, IsGreatest (chainLengths (DependsOn nodes) i) l) ∧
        IsVerdict search nodes (graph nodes) i e := by
  show (i, e) ∈ sortOn (·.1) (settleAll search nodes).rejected ↔ _
  rw [(perm_sortOn _ _).mem_iff, (settled_settleAll hs h).rejected,
    mem_flatten_components_iff hs h, edge_graph h]

/-- Each rejected pass has one place among them, and they stand in ascending order. -/
theorem pairwise_rejected_arrange :
    ((arrange search nodes).rejected.map (·.1)).Pairwise (· < ·) := by
  refine pairwise_lt_sortOn _ ((settled_settleAll hs h).once.nodup ?_)
  exact ((hs.components _ (isClosed_graph h)).perm.nodup_iff).mpr List.nodup_range

/-- What a pass depends on stands in a lower level: a longest chain of the dependency with one step
in front of it is a chain of the pass. -/
theorem InLevel.exists_lt {l i j : Nat} (hi : InLevel (arrange search nodes).levels l i)
    (hij : DependsOn nodes i j) : ∃ l' < l, InLevel (arrange search nodes).levels l' j := by
  obtain ⟨-, hl⟩ := (inLevel_arrange_iff hs h).mp hi
  obtain ⟨d, hd⟩ := exists_isGreatest_of_step hij ⟨l, hl⟩
  exact ⟨d, Nat.lt_of_succ_le (hl.2 (succ_mem_chainLengths hij hd.1)),
    (inLevel_arrange_iff hs h).mpr ⟨hij.right_lt, hd⟩⟩

/-- A pass stands in one level only, as its longest chain has one length. -/
theorem InLevel.unique {l l' i : Nat} (hi : InLevel (arrange search nodes).levels l i)
    (hi' : InLevel (arrange search nodes).levels l' i) : l = l' :=
  ((inLevel_arrange_iff hs h).mp hi).2.unique ((inLevel_arrange_iff hs h).mp hi').2

/-- Below a pass in a level each lower level has a pass, too. The steps of a longest chain lead
down one level at a time. -/
theorem exists_inLevel_of_le {l l' i : Nat} (hi : InLevel (arrange search nodes).levels l' i)
    (hle : l ≤ l') : ∃ j, InLevel (arrange search nodes).levels l j := by
  induction hle using Nat.decreasingInduction with
  | self => exact ⟨i, hi⟩
  | of_succ k _ ih =>
    -- A longest chain goes on with a longest chain, which is shorter by one.
    obtain ⟨j, hj⟩ := ih
    obtain ⟨-, hlength, hgreatest⟩ := (inLevel_arrange_iff hs h).mp hj
    obtain ⟨m, hjm, hm⟩ := exists_mem_chainLengths_of_succ hlength
    refine ⟨m, (inLevel_arrange_iff hs h).mpr ⟨hjm.right_lt, hm, fun n hn => ?_⟩⟩
    exact Nat.le_of_succ_le_succ (hgreatest (succ_mem_chainLengths hjm hn))

/-- No level is empty. There is a level because some pass stands in it or above it, and from that
one a chain leads down to it. -/
theorem ne_nil_of_mem_levels {level : List Nat} (hlevel : level ∈ (arrange search nodes).levels) :
    level ≠ [] := by
  obtain ⟨l, hl⟩ := List.getElem?_of_mem hlevel
  have hlt := (List.getElem?_eq_some_iff.mp hl).1
  -- A pass in this level or in one above it is why the level is there.
  obtain ⟨l', hge, i, hi⟩ := (isRead_levelsOf (settleAll search nodes).depth).reached l hlt
  obtain ⟨j, level', hl', hj⟩ :=
    exists_inLevel_of_le hs h (((isRead_levelsOf (settleAll search nodes).depth).mem l' i).mpr hi)
      hge
  rw [hl] at hl'
  cases hl'
  exact List.ne_nil_of_mem hj

/-- Every pass stands once in a level or once among the rejected ones. Whether it has a longest
chain decides where, and both halves have no pass twice. -/
theorem arrange_perm :
    ((arrange search nodes).levels.flatten ++ (arrange search nodes).rejected.map (·.1)).Perm
      (List.range nodes.length) := by
  have hlevel {i : Nat} : i ∈ (arrange search nodes).levels.flatten ↔
      i < nodes.length ∧ ∃ l, IsGreatest (chainLengths (DependsOn nodes) i) l := by
    simp only [← exists_inLevel_iff, inLevel_arrange_iff hs h, exists_and_left]
  have hrejected {i : Nat} : i ∈ (arrange search nodes).rejected.map (·.1) ↔
      i < nodes.length ∧ ¬ ∃ l, IsGreatest (chainLengths (DependsOn nodes) i) l := by
    simp only [List.mem_map, Prod.exists, exists_and_right, exists_eq_right,
      mem_rejected_arrange_iff hs h]
    constructor
    · rintro ⟨e, hi, hno, -⟩
      exact ⟨hi, hno⟩
    · rintro ⟨hi, hno⟩
      by_cases hcycle : TransGen (Edge (graph nodes)) i i
      · exact ⟨_, hi, hno, .inl ⟨hcycle, rfl⟩⟩
      · exact ⟨_, hi, hno, .inr ⟨hcycle, rfl⟩⟩
  have hascending := (isRead_levelsOf (settleAll search nodes).depth).ascending
  have hnodup : ((arrange search nodes).levels.flatten ++
      (arrange search nodes).rejected.map (·.1)).Nodup := by
    refine List.nodup_append.mpr ⟨List.nodup_flatten.mpr ⟨?_, ?_⟩, ?_, ?_⟩
    · exact fun level hmem => (hascending level hmem).imp Nat.ne_of_lt
    · -- A pass in two levels would have two longest chains.
      refine List.pairwise_iff_getElem.mpr fun l l' hl hl' hlt => List.disjoint_left.mpr ?_
      intro i hi hi'
      have heq := InLevel.unique hs h ⟨_, List.getElem?_eq_getElem hl, hi⟩
        ⟨_, List.getElem?_eq_getElem hl', hi'⟩
      exact absurd heq (Nat.ne_of_lt hlt)
    · exact (pairwise_rejected_arrange hs h).imp Nat.ne_of_lt
    · rintro i hi j hj rfl
      exact (hrejected.mp hj).2 (hlevel.mp hi).2
  refine (List.perm_ext_iff_of_nodup hnodup List.nodup_range).mpr fun i => ?_
  rw [List.mem_append, hlevel, hrejected, ← and_or_left, List.mem_range]
  exact and_iff_left (Classical.em _)

end

/-- A level of one search has the passes of the same level of any other search. -/
theorem getElem?_levels_arrange {search search' : Search} (hs : search.IsLawful)
    (hs' : search'.IsLawful) {nodes : List PassNode} (h : (nodes.map (·.typeName)).Nodup)
    {l : Nat} {level : List Nat} (hl : (arrange search nodes).levels[l]? = some level) :
    (arrange search' nodes).levels[l]? = some level := by
  have hsame (i : Nat) : InLevel (arrange search nodes).levels l i ↔
      InLevel (arrange search' nodes).levels l i := by
    rw [inLevel_arrange_iff hs h, inLevel_arrange_iff hs' h]
  obtain ⟨i, hi⟩ := List.exists_mem_of_ne_nil level
    (ne_nil_of_mem_levels hs h (List.mem_of_getElem? hl))
  obtain ⟨level', hl', -⟩ := (hsame i).mp ⟨level, hl, hi⟩
  -- Both are in ascending order, and what is in one is in the other.
  have hmem (j : Nat) : j ∈ level' ↔ j ∈ level := by
    simpa [InLevel, hl, hl'] using (hsame j).symm
  have hascending := (isRead_levelsOf (settleAll search nodes).depth).ascending level
    (List.mem_of_getElem? hl)
  have hascending' := (isRead_levelsOf (settleAll search' nodes).depth).ascending level'
    (List.mem_of_getElem? hl')
  rw [hl', List.Pairwise.eq_of_mem_iff hascending' hascending fun j => hmem j]

/-- Whatever search is used, passes of different names are put into the same levels. So a search
may only change which shortest cycle an error tells. -/
theorem levels_arrange_eq {search search' : Search} (hs : search.IsLawful)
    (hs' : search'.IsLawful) {nodes : List PassNode} (h : (nodes.map (·.typeName)).Nodup) :
    (arrange search nodes).levels = (arrange search' nodes).levels := by
  refine List.ext_getElem? fun l => Option.ext fun level => ?_
  exact ⟨getElem?_levels_arrange hs hs' h, getElem?_levels_arrange hs' hs h⟩

/-- The schedule of passes of different names puts each pass into one level or rejects it, and the
longest dependency chain below a pass is as long as the number of its level says. It does so with
every search that keeps the laws: which order the components come in is not told by them, but that
dependencies come first is, and the depths are made of nothing else. -/
theorem isLevelled_arrange (search : Search) (hs : search.IsLawful) (nodes : List PassNode)
    (h : (nodes.map (·.typeName)).Nodup) : IsLevelled nodes (arrange search nodes) := by
  constructor
  case once => exact arrange_perm hs h
  case depth => exact fun l i hi => ((inLevel_arrange_iff hs h).mp hi).2
  case lower => exact fun l i j hi hij => hi.exists_lt hs h hij
  case nonempty => exact fun level hlevel => ne_nil_of_mem_levels hs h hlevel
  case ascending => exact (isRead_levelsOf (settleAll search nodes).depth).ascending
  case rejectedAscending => exact pairwise_rejected_arrange hs h

/-- Two passes on one common base, a chain above them, a cycle, and a pass behind the cycle. -/
def diamondAndCycle : List PassNode := [
    ⟨"Top", ["Left", "Right"]⟩, ⟨"Left", ["Base"]⟩, ⟨"Right", ["Base", "Left"]⟩, ⟨"Base", []⟩,
    ⟨"X", ["Y"]⟩, ⟨"Y", ["X"]⟩, ⟨"Z", ["W"]⟩, ⟨"W", ["X", "W"]⟩]

/-- The levels where diamonds, chains and a cycle meet: three dependencies lie below the top. -/
theorem isLevelled_arrange_diamondAndCycle :
    Search.depthFirst.IsLawful ∧ (diamondAndCycle.map (·.typeName)).Nodup ∧
      Search.depthFirst.components (graph diamondAndCycle) =
        [[3], [1], [2], [0], [5, 4], [7], [6]] ∧
      IsLevelled diamondAndCycle (arrange .depthFirst diamondAndCycle) ∧
      IsGreatest (chainLengths (DependsOn diamondAndCycle) 0) 3 := by
  have h : (diamondAndCycle.map (·.typeName)).Nodup := by decide
  have hcomponents : Search.depthFirst.components (graph diamondAndCycle) =
      [[3], [1], [2], [0], [5, 4], [7], [6]] := by
    decide +kernel
  have hlevels : (arrange .depthFirst diamondAndCycle).levels = [[3], [1], [2], [0]] := by
    decide +kernel
  have htop : InLevel (arrange .depthFirst diamondAndCycle).levels 3 0 := by
    rw [hlevels]
    exact ⟨[0], rfl, List.mem_singleton.mpr rfl⟩
  have hlevelled := isLevelled_arrange .depthFirst Search.isLawful_depthFirst diamondAndCycle h
  exact ⟨Search.isLawful_depthFirst, h, hcomponents, hlevelled, hlevelled.depth 3 0 htop⟩

end Fixtures.Schedule
