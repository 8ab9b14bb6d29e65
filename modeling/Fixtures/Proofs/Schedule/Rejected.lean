import Fixtures.Proofs.Schedule.Levels

/-!
# `Fixtures.Proofs.Schedule.Rejected`: who is rejected, and with which cycle

A pass is rejected when the dependency chains below it have no greatest length. With finitely many
passes that happens exactly where a cycle can be reached: a chain with more members than there are
passes meets one of them twice, and on a cycle every chain can be made longer
(`not_exists_isGreatest_iff`).

The error names a cycle for a pass that is on one. The cycle is made of a step to a successor and a
shortest path back from there, for the successor whose path is shortest. That no cycle at all is
shorter needs both minima: any cycle begins with a step to some successor, and goes on with a walk
back, which the path back from this successor does not exceed
(`exists_isCycle_cycleThrough`). That it meets no pass twice follows from the path being shortest.
-/

set_option autoImplicit false

namespace Fixtures.Schedule

open Relation

/-- From the pass at `i` over `others` and back to it, each pass depends on the next one. A cycle
has at least two passes and meets each of them once. -/
structure IsCycle (nodes : List PassNode) (i : Nat) (others : List Nat) : Prop where
  nonempty : others ≠ []
  nodup : (i :: others).Nodup
  chain : (i :: (others ++ [i])).IsChain (DependsOn nodes)

/-- A cycle can be reached, in any number of steps. A member of a cycle is stuck by itself. -/
def IsStuck {α : Type} (R : α → α → Prop) (a : α) : Prop :=
  ∃ b, ReflTransGen R a b ∧ TransGen R b b

/-! ### Reaching a cycle -/

/-- The first member of a chain is related to the last one through those between them. -/
theorem transGen_of_isChain {α : Type} {R : α → α → Prop} {a b : α} {mid : List α}
    (h : (a :: (mid ++ [b])).IsChain R) : TransGen R a b := by
  induction mid generalizing a with
  | nil => exact .single (List.isChain_cons_cons.mp h).1
  | cons c mid ih =>
    obtain ⟨hac, hrest⟩ := List.isChain_cons_cons.mp h
    exact .head hac (ih hrest)

/-- A chain that meets a member twice leads to a cycle, namely from that member to where it is met
again. -/
theorem isStuck_of_isChain {α : Type} {R : α → α → Prop} {a : α} {below : List α}
    (h : (a :: below).IsChain R) (htwice : ¬ below.Nodup) : IsStuck R a := by
  obtain ⟨b, hb⟩ := List.exists_duplicate_iff_not_nodup.mpr htwice
  obtain ⟨first, second, rfl, hfirst, hsecond⟩ :=
    List.cons_sublist_iff.mp (List.duplicate_iff_sublist.mp hb)
  obtain ⟨before, round, rfl⟩ := List.append_of_mem hfirst
  obtain ⟨back, after, rfl⟩ := List.append_of_mem (List.singleton_sublist.mp hsecond)
  have hchain : ((a :: before) ++ b :: (round ++ back ++ b :: after)).IsChain R := by
    simpa using h
  obtain ⟨hbefore, hrest⟩ := List.isChain_split.mp hchain
  have hround : ((b :: (round ++ back)) ++ b :: after).IsChain R := hrest
  exact ⟨b, (transGen_of_isChain hbefore).to_reflTransGen,
    transGen_of_isChain (List.isChain_split.mp hround).1⟩

variable {nodes : List PassNode} {i j : Nat}

/-- The passes of a dependency chain below another pass are in the list. -/
theorem lt_of_mem_chain {below : List Nat} (h : (i :: below).IsChain (DependsOn nodes)) :
    ∀ k ∈ below, k < nodes.length := by
  induction below generalizing i with
  | nil => simp
  | cons j below ih =>
    obtain ⟨hij, hbelow⟩ := List.isChain_cons_cons.mp h
    intro k hk
    rcases List.mem_cons.mp hk with rfl | hk
    · exact hij.right_lt
    · exact ih hbelow k hk

/-- No dependency chain below a pass is the longest one when a cycle can be reached from it. There
are finitely many passes, so a chain without repetitions has a bounded length. -/
theorem not_exists_isGreatest_iff :
    (¬ ∃ l, IsGreatest (chainLengths (DependsOn nodes) i) l) ↔ IsStuck (DependsOn nodes) i := by
  constructor
  · intro hno
    -- Some chain has more members than there are passes.
    have hunbounded : ¬ BddAbove (chainLengths (DependsOn nodes) i) := fun hbounded =>
      hno (hbounded.exists_isGreatest_of_nonempty ⟨0, zero_mem_chainLengths _ i⟩)
    obtain ⟨n, ⟨below, hchain, rfl⟩, hlong⟩ := not_bddAbove_iff.mp hunbounded nodes.length
    refine isStuck_of_isChain hchain fun hnodup => ?_
    have hsub : below ⊆ List.range nodes.length := fun k hk =>
      List.mem_range.mpr (lt_of_mem_chain hchain k hk)
    have hle := hnodup.length_le_of_subset hsub
    rw [List.length_range] at hle
    exact absurd hlong (Nat.not_lt_of_le hle)
  · rintro ⟨j, hij, hj⟩ hl
    exact not_exists_isGreatest_of_transGen_self hj (exists_isGreatest_of_reflTransGen hij hl)

/-- A pass from which a cycle can be reached is in the list. -/
theorem lt_of_isStuck (h : IsStuck (DependsOn nodes) i) : i < nodes.length := by
  obtain ⟨j, hij, hj⟩ := h
  obtain ⟨k, hik, -⟩ := TransGen.head'_iff.mp (hj.trans_right hij)
  exact hik.left_lt

/-! ### The cycle through a pass -/

/-- A step to a successor and a shortest walk back make a cycle. The walk meets no pass twice, and
it ends where the step begins. -/
theorem isCycle_of_isShortestWalk (h : (nodes.map (·.typeName)).Nodup) {path : List Nat}
    (hij : DependsOn nodes i j) (hpath : IsShortestWalk (graph nodes) j i path) :
    ∃ others, path = others ++ [i] ∧ IsCycle nodes i others := by
  obtain ⟨others, rfl⟩ := List.getLast?_eq_some_iff.mp hpath.1.last
  have hnodup := hpath.nodup
  have hchain := hpath.1.chain
  rw [edge_graph h] at hchain
  refine ⟨others, rfl, ?_, ?_, ?_⟩
  · rintro rfl
    exact hij.1 (Option.some.inj hpath.1.head)
  · rw [List.nodup_append] at hnodup
    refine List.nodup_cons.mpr ⟨fun hi => ?_, hnodup.1⟩
    exact hnodup.2.2 i hi i (List.mem_singleton.mpr rfl) rfl
  · obtain ⟨rest, hrest⟩ := hpath.1.exists_eq_cons
    rw [hrest] at hchain ⊢
    exact List.isChain_cons_cons.mpr ⟨hij, hchain⟩

section

variable {search : Search} (hs : search.IsLawful) (h : (nodes.map (·.typeName)).Nodup)

include hs h

/-- A path back is found from every successor that leads back. It is one of the paths among which
the shortest is chosen. -/
theorem exists_path_of_dependsOn (hij : DependsOn nodes i j)
    (hji : ReflTransGen (DependsOn nodes) j i) :
    ∃ path, search.path? (graph nodes) j i = some path ∧
      path ∈ (sortOn id (next (graph nodes) i)).filterMap fun k =>
        search.path? (graph nodes) k i := by
  have hclosed := isClosed_graph h
  have hlt : j < (graph nodes).size ∧ i < (graph nodes).size := by
    rw [size_graph]
    exact ⟨hij.right_lt, hij.left_lt⟩
  rw [← edge_graph h] at hji
  obtain ⟨path, hpath⟩ :=
    Option.isSome_iff_exists.mp (hs.found _ hclosed j hlt.1 i hlt.2 hji)
  refine ⟨path, hpath, List.mem_filterMap.mpr ⟨j, ?_, hpath⟩⟩
  exact (perm_sortOn id _).mem_iff.mpr ((mem_next_graph_iff h).mpr hij)

/-- Through a pass that depends on itself through others a cycle is found, and a shortest one. Any
other cycle begins with a step to some successor, and from that one no longer path was found than
the rest of the cycle. -/
theorem exists_isCycle_cycleThrough (hi : TransGen (DependsOn nodes) i i) :
    ∃ others, cycleThrough search (graph nodes) i = i :: (others ++ [i]) ∧
      IsCycle nodes i others ∧ ∀ more, IsCycle nodes i more → others.length ≤ more.length := by
  have hclosed := isClosed_graph h
  obtain ⟨k, hik, hki⟩ := TransGen.head'_iff.mp hi
  obtain ⟨_, -, hmem⟩ := exists_path_of_dependsOn hs h hik hki
  unfold cycleThrough
  dsimp only
  -- Some path back is found, so a shortest one of these is.
  cases hmin : List.minOn? List.length ((sortOn id (next (graph nodes) i)).filterMap fun k =>
      search.path? (graph nodes) k i) with
  | none =>
    have hsome := List.isSome_minOn?_of_mem (f := List.length) hmem
    rw [hmin] at hsome
    cases hsome
  | some path =>
    obtain ⟨j, hj, hpath⟩ := List.mem_filterMap.mp (List.minOn?_mem hmin)
    have hij := (mem_next_graph_iff h).mp ((perm_sortOn id _).mem_iff.mp hj)
    obtain ⟨others, rfl, hcycle⟩ :=
      isCycle_of_isShortestWalk h hij (hs.shortest _ hclosed j i path hpath)
    refine ⟨others, rfl, hcycle, fun more hmore => ?_⟩
    -- Another cycle begins with a step, too, and the walk back is no shorter than its path.
    obtain ⟨first, rest, rfl⟩ := List.exists_cons_of_ne_nil hmore.nonempty
    obtain ⟨hfirst, hback⟩ := List.isChain_cons_cons.mp hmore.chain
    have hwalk : IsWalk (graph nodes) first i (first :: rest ++ [i]) :=
      ⟨rfl, List.getLast?_concat, edge_graph h ▸ hback⟩
    obtain ⟨path, hpath, hmem⟩ :=
      exists_path_of_dependsOn hs h hfirst (edge_graph h ▸ hwalk.reflTransGen)
    have hle := (hs.shortest _ hclosed first i path hpath).2 _ hwalk
    have hleast := List.apply_get_minOn?_le_of_mem (f := List.length) hmem
    simp only [hmin, Option.get_some] at hleast
    simp only [List.length_append, List.length_singleton] at hle hleast
    omega

end

/-- A pass is on a cycle when it depends on itself through others. -/
theorem exists_isCycle_iff (h : (nodes.map (·.typeName)).Nodup) :
    (∃ others, IsCycle nodes i others) ↔ TransGen (DependsOn nodes) i i := by
  constructor
  · rintro ⟨others, hcycle⟩
    exact transGen_of_isChain hcycle.chain
  · intro hi
    obtain ⟨others, -, hcycle, -⟩ := exists_isCycle_cycleThrough Search.isLawful_depthFirst h hi
    exact ⟨others, hcycle⟩

/-! ### Rejected passes -/

/-- Which passes a schedule of some passes rejects, and why. As for the levels, everything is said
by dependencies alone; what a cycle is, too. -/
structure RejectsCycles (nodes : List PassNode) (s : Schedule) : Prop where
  /-- The rejected passes are those from which a cycle can be reached. -/
  rejected : ∀ i, (∃ e, (i, e) ∈ s.rejected) ↔
    ∃ j others, ReflTransGen (DependsOn nodes) i j ∧ IsCycle nodes j others
  /-- Each is rejected for being on a cycle or for being behind one. -/
  reason : ∀ i e, (i, e) ∈ s.rejected → (∃ path, e = .cycle path) ∨ ∃ name, e = .behindCycle name
  /-- The first are those on a cycle. -/
  onCycle : ∀ i, (∃ path, (i, .cycle path) ∈ s.rejected) ↔ ∃ others, IsCycle nodes i others
  /-- The names they are rejected with are those along a cycle through them, a shortest one. -/
  shortest : ∀ i path, (i, .cycle path) ∈ s.rejected →
    ∃ others, path = (i :: (others ++ [i])).map (nameAt nodes) ∧ IsCycle nodes i others ∧
      ∀ more, IsCycle nodes i more → others.length ≤ more.length
  /-- The others are on no cycle, but depend on a pass on one, directly or through a chain. -/
  behind : ∀ i name, (i, .behindCycle name) ∈ s.rejected ↔
    name = nameAt nodes i ∧ (∀ others, ¬ IsCycle nodes i others) ∧
      ∃ j others, TransGen (DependsOn nodes) i j ∧ IsCycle nodes j others

section

variable {search : Search} (hs : search.IsLawful) (h : (nodes.map (·.typeName)).Nodup)

include hs h

/-- A pass is rejected when a cycle can be reached from it. What the walk over components sees is
that no level is known, and this is what it means. -/
theorem mem_rejected_iff {e : FixtureError} :
    (i, e) ∈ (arrange search nodes).rejected ↔
      IsStuck (DependsOn nodes) i ∧ IsVerdict search nodes (graph nodes) i e := by
  rw [mem_rejected_arrange_iff hs h, not_exists_isGreatest_iff]
  exact and_iff_right_of_imp fun hstuck => lt_of_isStuck hstuck.1

/-- A rejected pass is on a cycle or behind one. -/
theorem reason_of_mem_rejected {e : FixtureError} (he : (i, e) ∈ (arrange search nodes).rejected) :
    (∃ path, e = .cycle path) ∨ ∃ name, e = .behindCycle name := by
  obtain ⟨-, ⟨-, rfl⟩ | ⟨-, rfl⟩⟩ := (mem_rejected_iff hs h).mp he
  · exact .inl ⟨_, rfl⟩
  · exact .inr ⟨_, rfl⟩

/-- A pass on a cycle is rejected with the cycle that is found through it, whatever cycles there
are besides. -/
theorem mem_rejected_cycle_iff {names : List String} :
    (i, .cycle names) ∈ (arrange search nodes).rejected ↔
      TransGen (DependsOn nodes) i i ∧
        names = (cycleThrough search (graph nodes) i).map (nameAt nodes) := by
  rw [mem_rejected_iff hs h, IsVerdict, edge_graph h]
  constructor
  · rintro ⟨-, ⟨hi, heq⟩ | ⟨-, heq⟩⟩
    · exact ⟨hi, FixtureError.cycle.inj heq⟩
    · cases heq
  · rintro ⟨hi, rfl⟩
    exact ⟨⟨i, .refl, hi⟩, .inl ⟨hi, rfl⟩⟩

/-- A pass is rejected behind a cycle when it is on none and depends on a pass on one. The chain to
that pass may have any length, and may go over other passes behind cycles. -/
theorem mem_rejected_behindCycle_iff {name : String} :
    (i, .behindCycle name) ∈ (arrange search nodes).rejected ↔
      name = nameAt nodes i ∧ (∀ others, ¬ IsCycle nodes i others) ∧
        ∃ j others, TransGen (DependsOn nodes) i j ∧ IsCycle nodes j others := by
  rw [mem_rejected_iff hs h, IsVerdict, edge_graph h]
  constructor
  · rintro ⟨⟨j, hij, hj⟩, ⟨-, heq⟩ | ⟨hno, heq⟩⟩
    · cases heq
    · obtain ⟨others, hcycle⟩ := (exists_isCycle_iff h).mpr hj
      refine ⟨FixtureError.behindCycle.inj heq, fun more hmore => ?_, j, others, ?_, hcycle⟩
      · exact hno ((exists_isCycle_iff h).mp ⟨more, hmore⟩)
      · rcases reflTransGen_iff_eq_or_transGen.mp hij with rfl | hij
        · exact absurd hj hno
        · exact hij
  · rintro ⟨rfl, hno, j, others, hij, hcycle⟩
    have hnone : ¬ TransGen (DependsOn nodes) i i := fun hi => by
      obtain ⟨more, hmore⟩ := (exists_isCycle_iff h).mpr hi
      exact hno more hmore
    exact ⟨⟨j, hij.to_reflTransGen, (exists_isCycle_iff h).mp ⟨others, hcycle⟩⟩,
      .inr ⟨hnone, rfl⟩⟩

end

/-- The schedule of passes of different names rejects those from which a dependency cycle can be
reached, those on a cycle with a shortest one through them. It does so with every search that keeps
the laws. A component of more than one pass is one of passes on a cycle, and a pass alone has no
level exactly when it leads to such a component. -/
theorem rejectsCycles_arrange (search : Search) (hs : search.IsLawful) (nodes : List PassNode)
    (h : (nodes.map (·.typeName)).Nodup) : RejectsCycles nodes (arrange search nodes) := by
  constructor
  case rejected =>
    intro i
    constructor
    · rintro ⟨e, he⟩
      obtain ⟨⟨j, hij, hj⟩, -⟩ := (mem_rejected_iff hs h).mp he
      obtain ⟨others, hcycle⟩ := (exists_isCycle_iff h).mpr hj
      exact ⟨j, others, hij, hcycle⟩
    · rintro ⟨j, others, hij, hcycle⟩
      have hstuck : IsStuck (DependsOn nodes) i :=
        ⟨j, hij, (exists_isCycle_iff h).mp ⟨others, hcycle⟩⟩
      by_cases hi : TransGen (Edge (graph nodes)) i i
      · exact ⟨_, (mem_rejected_iff hs h).mpr ⟨hstuck, .inl ⟨hi, rfl⟩⟩⟩
      · exact ⟨_, (mem_rejected_iff hs h).mpr ⟨hstuck, .inr ⟨hi, rfl⟩⟩⟩
  case reason => exact fun i e he => reason_of_mem_rejected hs h he
  case onCycle =>
    intro i
    rw [exists_isCycle_iff h]
    constructor
    · rintro ⟨names, hnames⟩
      exact ((mem_rejected_cycle_iff hs h).mp hnames).1
    · exact fun hi => ⟨_, (mem_rejected_cycle_iff hs h).mpr ⟨hi, rfl⟩⟩
  case shortest =>
    intro i names hnames
    obtain ⟨hi, rfl⟩ := (mem_rejected_cycle_iff hs h).mp hnames
    obtain ⟨others, heq, hcycle, hmin⟩ := exists_isCycle_cycleThrough hs h hi
    exact ⟨others, by rw [heq], hcycle, hmin⟩
  case behind => exact fun i name => mem_rejected_behindCycle_iff hs h

/-- Two cycles of different lengths through one pass, and two passes behind them. -/
def twoCycles : List PassNode := [
    ⟨"A", ["C", "B"]⟩, ⟨"B", ["A"]⟩, ⟨"C", ["D"]⟩, ⟨"D", ["A", "D"]⟩, ⟨"E", ["D"]⟩, ⟨"F", ["E"]⟩]

/-- Where two cycles meet: the longer one is a shortest through its own passes, and a pass behind
them is on none. -/
theorem rejectsCycles_arrange_twoCycles :
    Search.depthFirst.IsLawful ∧ (twoCycles.map (·.typeName)).Nodup ∧
      RejectsCycles twoCycles (arrange .depthFirst twoCycles) ∧
      (∀ more, IsCycle twoCycles 2 more → 2 ≤ more.length) ∧
      ∀ others, ¬ IsCycle twoCycles 5 others := by
  have h : (twoCycles.map (·.typeName)).Nodup := by decide
  have hrejected : (arrange .depthFirst twoCycles).rejected = [
      (0, .cycle ["A", "B", "A"]), (1, .cycle ["B", "A", "B"]),
      (2, .cycle ["C", "D", "A", "C"]), (3, .cycle ["D", "A", "C", "D"]),
      (4, .behindCycle "E"), (5, .behindCycle "F")] := by
    decide +kernel
  have hrejects := rejectsCycles_arrange .depthFirst Search.isLawful_depthFirst twoCycles h
  obtain ⟨others, hnames, -, hmin⟩ :=
    hrejects.shortest 2 ["C", "D", "A", "C"] (by rw [hrejected]; simp)
  have hlen : others.length = 2 := by
    have hcount := congrArg List.length hnames
    simp only [List.length_map, List.length_cons, List.length_append, List.length_nil] at hcount
    omega
  refine ⟨Search.isLawful_depthFirst, h, hrejects, fun more hmore => hlen ▸ hmin more hmore, ?_⟩
  exact ((hrejects.behind 5 "F").mp (by rw [hrejected]; simp)).2.1

/-- Of two shortest cycles through `A` the one is taken that turns to the neighbour added last. -/
example : (arrange .depthFirst [⟨"A", ["B"]⟩, ⟨"B", ["C", "D"]⟩, ⟨"C", ["A"]⟩,
    ⟨"D", ["A"]⟩]).rejected.head? = some (0, .cycle ["A", "B", "D", "A"]) := by
  decide +kernel

end Fixtures.Schedule
