import Fixtures.Proofs.Schedule.Search
import Fixtures.Schedule
import Mathlib.Data.List.Nodup
import Mathlib.Data.Nat.SuccPred

/-!
# `Fixtures.Proofs.Schedule.Settled`: what the walk over the components knows

The walk settles components dependencies first and fills a table of levels. Two things have to be
shown equal that look different: what the table says, and what the graph says.

* The table has a level for a node when all its neighbours had one. In the graph the level is the
  length of the longest walk from the node, and it exists when the lengths are bounded
  (`chainLengths`). `isGreatest_of_levelAbove?_eq_some` and `exists_isGreatest_of_step` are the
  two directions of one step.
* The walk asks whether a component has more than one node. In the graph the question is whether
  a node is on a cycle (`one_lt_length_iff`).

`Settled` is the invariant: for the components behind it the table and the list of rejected nodes
say what the graph says, and for the others they say nothing. `settled_settle` is one step; the
neighbours of its node are settled already because no edge leads into a later component.
-/

set_option autoImplicit false

namespace Fixtures.Schedule

open Relation

/-! ### Chains -/

/-- The lengths of the chains that begin at `i`. In a chain each member is related to the next one;
the length counts the steps, so the shortest chain has length 0. A chain may meet a member twice,
and where it does there is no greatest length. -/
def chainLengths (R : Nat → Nat → Prop) (i : Nat) : Set Nat :=
  {n | ∃ below : List Nat, (i :: below).IsChain R ∧ below.length = n}

section

variable {R : Nat → Nat → Prop} {i j n : Nat}

/-- A member alone is a chain. -/
theorem zero_mem_chainLengths (R : Nat → Nat → Prop) (i : Nat) : 0 ∈ chainLengths R i :=
  ⟨[], .singleton i, rfl⟩

/-- A step in front of a chain makes it longer by one. -/
theorem succ_mem_chainLengths (hij : R i j) (h : n ∈ chainLengths R j) :
    n + 1 ∈ chainLengths R i := by
  obtain ⟨below, hchain, rfl⟩ := h
  exact ⟨j :: below, List.isChain_cons_cons.mpr ⟨hij, hchain⟩, List.length_cons⟩

/-- A chain of at least one step goes on from where the first step leads. -/
theorem exists_mem_chainLengths_of_succ (h : n + 1 ∈ chainLengths R i) :
    ∃ j, R i j ∧ n ∈ chainLengths R j := by
  obtain ⟨below, hchain, hlen⟩ := h
  match below, hlen with
  | j :: below, hlen =>
    obtain ⟨hij, hbelow⟩ := List.isChain_cons_cons.mp hchain
    exact ⟨j, hij, below, hbelow, Nat.succ.inj hlen⟩

/-- Where the chains from a member have a greatest length, those after one step have one too. Read
backwards: a member with a neighbour that has no longest chain has none either. -/
theorem exists_isGreatest_of_step (hij : R i j) (h : ∃ l, IsGreatest (chainLengths R i) l) :
    ∃ d, IsGreatest (chainLengths R j) d := by
  obtain ⟨l, -, hl⟩ := h
  have hbounded : BddAbove (chainLengths R j) :=
    ⟨l, fun n hn => Nat.le_of_succ_le (hl (succ_mem_chainLengths hij hn))⟩
  exact hbounded.exists_isGreatest_of_nonempty ⟨0, zero_mem_chainLengths R j⟩

/-- Where the chains have a greatest length, they have one wherever these lead. -/
theorem exists_isGreatest_of_reflTransGen (hij : ReflTransGen R i j)
    (h : ∃ l, IsGreatest (chainLengths R i) l) : ∃ d, IsGreatest (chainLengths R j) d := by
  induction hij with
  | refl => exact h
  | tail _ hstep ih => exact exists_isGreatest_of_step hstep ih

/-- In front of a chain fit longer ones, wherever it can be reached. Each step on the way makes the
chain longer by one. -/
theorem exists_gt_mem_chainLengths (hij : TransGen R i j) (h : n ∈ chainLengths R j) :
    ∃ m > n, m ∈ chainLengths R i := by
  induction hij using TransGen.head_induction_on with
  | single hstep => exact ⟨n + 1, Nat.lt_succ_self n, succ_mem_chainLengths hstep h⟩
  | head hstep _ ih =>
    obtain ⟨m, hm, hmem⟩ := ih
    exact ⟨m + 1, Nat.lt_succ_of_lt hm, succ_mem_chainLengths hstep hmem⟩

/-- On a cycle no chain is the longest one: it can be entered after one more round. -/
theorem not_exists_isGreatest_of_transGen_self (hi : TransGen R i i) :
    ¬ ∃ l, IsGreatest (chainLengths R i) l := by
  rintro ⟨l, hmem, hl⟩
  obtain ⟨m, hlt, hm⟩ := exists_gt_mem_chainLengths hi hmem
  exact absurd (hl hm) (Nat.not_le_of_lt hlt)

end

/-! ### The table of levels -/

/-- A new level is found at its node, the others where they were. The node has a place in the
table, so the level is not lost. -/
theorem depthAt_setIfInBounds {depth : Array (Option Nat)} {i : Nat} (hi : i < depth.size)
    (level : Option Nat) (j : Nat) :
    depthAt (depth.setIfInBounds i level) j = if i = j then level else depthAt depth j := by
  rw [depthAt, Array.getElem?_setIfInBounds]
  by_cases hij : i = j
  · rw [if_pos hij, if_pos hij, if_pos (hij ▸ hi), Option.getD_some]
  · rw [if_neg hij, if_neg hij, depthAt]

/-- A level above some nodes is known when theirs are. It is above each of them, and above one of
them by exactly one, unless it is the lowest. These two facts are all that is needed of the fold.
-/
theorem levelAbove?_eq_some {depth : Array (Option Nat)} {below : List Nat} {level : Nat}
    (h : levelAbove? depth below = some level) :
    (∀ j ∈ below, ∃ d < level, depthAt depth j = some d) ∧
      (level = 0 ∨ ∃ j ∈ below, ∃ d, depthAt depth j = some d ∧ level = d + 1) := by
  -- The fold may begin at any level.
  have hfold : ∀ start, below.foldlM
      (fun level j => (depthAt depth j).map fun d => max level (d + 1)) start = some level →
      start ≤ level ∧ (∀ j ∈ below, ∃ d < level, depthAt depth j = some d) ∧
        (level = start ∨ ∃ j ∈ below, ∃ d, depthAt depth j = some d ∧ level = d + 1) := by
    clear h
    induction below with
    | nil =>
      intro start h
      obtain rfl : start = level := by simpa using h
      simp
    | cons j rest ih =>
      intro start h
      rw [List.foldlM_cons, Option.bind_eq_bind, Option.bind_eq_some_iff] at h
      obtain ⟨next, hnext, hrest⟩ := h
      obtain ⟨d, hd, rfl⟩ := Option.map_eq_some_iff.mp hnext
      obtain ⟨hle, hall, heq⟩ := ih _ hrest
      refine ⟨by omega, ?_, ?_⟩
      · intro k hk
        rcases List.mem_cons.mp hk with rfl | hk
        · exact ⟨d, by omega, hd⟩
        · exact hall k hk
      · rcases heq with heq | ⟨k, hk, d', hd', heq⟩
        · rcases Nat.le_total start (d + 1) with hstart | hstart
          · exact .inr ⟨j, List.mem_cons_self, d, hd, by omega⟩
          · exact .inl (by omega)
        · exact .inr ⟨k, List.mem_cons_of_mem j hk, d', hd', heq⟩
  exact (hfold 0 h).2

/-- A level above some nodes is unknown when one of theirs is. -/
theorem levelAbove?_eq_none {depth : Array (Option Nat)} {below : List Nat}
    (h : levelAbove? depth below = none) : ∃ j ∈ below, depthAt depth j = none := by
  by_contra hall
  -- If no level were missing, the fold would come to an end whatever it begins with.
  have hfold : ∀ start, (below.foldlM
      (fun level j => (depthAt depth j).map fun d => max level (d + 1)) start).isSome := by
    clear h
    induction below with
    | nil => simp
    | cons j rest ih =>
      intro start
      cases hj : depthAt depth j with
      | none => exact absurd ⟨j, List.mem_cons_self, hj⟩ hall
      | some d =>
        rw [List.foldlM_cons, hj]
        refine ih (fun hrest => hall ?_) _
        obtain ⟨k, hk, hnone⟩ := hrest
        exact ⟨k, List.mem_cons_of_mem j hk, hnone⟩
  have hsome := hfold 0
  rw [levelAbove?] at h
  rw [h] at hsome
  cases hsome

/-! ### Cycles -/

variable {search : Search} {nodes : List PassNode} {g : Graph} {components : List (List Nat)}

/-- A component has more than one node when its nodes are on a cycle. It is used for graphs without
loops: with an edge from a node to itself, the node would be a component alone and on a cycle. -/
theorem one_lt_length_iff (hc : AreComponents g components) (hloop : ∀ i, ¬ Edge g i i)
    {c : List Nat} (hmem : c ∈ components) {i : Nat} (hi : i ∈ c) :
    1 < c.length ↔ TransGen (Edge g) i i := by
  have hnodup : c.Nodup :=
    (hc.perm.nodup_iff.mpr List.nodup_range).sublist (List.sublist_flatten_of_mem hmem)
  constructor
  · intro hlen
    -- Another node of the component leads there and back.
    obtain ⟨j, hj, hne⟩ : ∃ j ∈ c, j ≠ i := by
      by_contra hall
      have hsub : c ⊆ [i] := fun j hj => by
        by_contra hne
        exact hall ⟨j, hj, fun heq => hne (List.mem_singleton.mpr heq)⟩
      exact absurd (List.Nodup.length_le_of_subset hnodup hsub) (Nat.not_le_of_lt hlen)
    obtain ⟨hij, hji⟩ := (hc.connected c hmem i hi j).mp hj
    rcases reflTransGen_iff_eq_or_transGen.mp hij with heq | hij
    · exact absurd heq hne
    · exact hij.trans_left hji
  · intro hcycle
    obtain ⟨j, hij, hji⟩ := TransGen.head'_iff.mp hcycle
    have hj : j ∈ c := (hc.connected c hmem i hi j).mpr ⟨.single hij, hji⟩
    have hne : j ≠ i := fun heq => hloop i (heq ▸ hij)
    have hsub : [j, i] ⊆ c := by simp [hj, hi]
    have hpair : [j, i].Nodup := by simp [hne]
    exact List.Nodup.length_le_of_subset hpair hsub

/-! ### The invariant -/

/-- The error of a rejected node: the cycle that is found through it, if it is on one. Otherwise it
is only said that the node depends on one. -/
def IsVerdict (search : Search) (nodes : List PassNode) (g : Graph) (i : Nat)
    (e : FixtureError) : Prop :=
  TransGen (Edge g) i i ∧ e = .cycle ((cycleThrough search g i).map (nameAt nodes)) ∨
    ¬ TransGen (Edge g) i i ∧ e = .behindCycle (nameAt nodes i)

/-- What is known after some components are settled. The components behind are known completely,
and of the others the table and the list say nothing yet. -/
structure Settled (search : Search) (nodes : List PassNode) (g : Graph)
    (before : List (List Nat)) (p : Progress) : Prop where
  /-- The table has a place for each node. -/
  size : p.depth.size = g.size
  /-- It holds the greatest length of the chains from a node, where there is one. -/
  depth : ∀ i l, depthAt p.depth i = some l ↔
    i ∈ before.flatten ∧ IsGreatest (chainLengths (Edge g) i) l
  /-- The rejected nodes stand in the order of the components. -/
  once : (p.rejected.map (·.1)).Sublist before.flatten
  /-- The others are rejected, each with its error. -/
  rejected : ∀ i e, (i, e) ∈ p.rejected ↔
    i ∈ before.flatten ∧ (¬ ∃ l, IsGreatest (chainLengths (Edge g) i) l) ∧
      IsVerdict search nodes g i e

/-- Before any component is settled nothing is known. -/
theorem settled_nil (hsize : g.size = nodes.length) :
    Settled search nodes g []
      { depth := Array.replicate nodes.length none, rejected := [] } where
  size := by rw [Array.size_replicate, hsize]
  depth i l := by
    rw [depthAt, Array.getElem?_replicate]
    split <;> simp
  once := .slnil
  rejected i e := by simp

/-- A node whose neighbours have levels is one above the highest of them. A longest chain from it
is a step to that neighbour and a longest chain from there. -/
theorem isGreatest_of_levelAbove?_eq_some {depth : Array (Option Nat)} {i level : Nat}
    (hdepth : ∀ j, Edge g i j → ∀ d, depthAt depth j = some d →
      IsGreatest (chainLengths (Edge g) j) d)
    (h : levelAbove? depth (next g i) = some level) :
    IsGreatest (chainLengths (Edge g) i) level := by
  obtain ⟨hall, htop⟩ := levelAbove?_eq_some h
  constructor
  · rcases htop with rfl | ⟨j, hj, d, hd, rfl⟩
    · exact zero_mem_chainLengths (Edge g) i
    · exact succ_mem_chainLengths hj (hdepth j hj d hd).1
  · intro n hn
    cases n with
    | zero => exact Nat.zero_le level
    | succ n =>
      obtain ⟨j, hj, hn⟩ := exists_mem_chainLengths_of_succ hn
      obtain ⟨d, hlt, hd⟩ := hall j hj
      exact Nat.succ_le_of_lt (Nat.lt_of_le_of_lt ((hdepth j hj d hd).2 hn) hlt)

/-- A component of several nodes is settled: they are on a cycle and have no level. The table stays
as it is, and each of the nodes is rejected with a cycle of its own. -/
theorem Settled.settle_cycle {before : List (List Nat)} {p : Progress} {c : List Nat}
    (h : Settled search nodes g before p) (hcycle : ∀ i ∈ c, TransGen (Edge g) i i)
    (hlen : 1 < c.length) : Settled search nodes g (before ++ [c]) (settle search nodes g p c) := by
  unfold settle
  rw [if_pos hlen]
  have hflatten : (before ++ [c]).flatten = before.flatten ++ c := by simp
  refine ⟨h.size, fun i l => ?_, ?_, fun i e => ?_⟩
  · -- None of the new nodes has a longest chain, so the table is right without them.
    rw [h.depth, hflatten, List.mem_append]
    refine and_congr_left fun hl => (or_iff_left fun hi => ?_).symm
    exact not_exists_isGreatest_of_transGen_self (hcycle i hi) ⟨l, hl⟩
  · rw [hflatten, List.map_append, List.map_map]
    refine h.once.append ?_
    simp [Function.comp_def]
  · rw [hflatten, List.mem_append, h.rejected, List.mem_append, or_and_right]
    refine or_congr_right ?_
    simp only [List.mem_map, Prod.mk.injEq]
    constructor
    · rintro ⟨i, hi, rfl, rfl⟩
      exact ⟨hi, not_exists_isGreatest_of_transGen_self (hcycle i hi), .inl ⟨hcycle i hi, rfl⟩⟩
    · rintro ⟨hi, -, ⟨-, rfl⟩ | ⟨hno, -⟩⟩
      · exact ⟨i, hi, rfl, rfl⟩
      · exact absurd (hcycle i hi) hno

/-- A component of one node is settled: its neighbours are, and they decide about it. If all of
them have levels the node gets one, and otherwise it is rejected. -/
theorem Settled.settle_single {before : List (List Nat)} {p : Progress} {i : Nat}
    (h : Settled search nodes g before p) (hi : i < g.size) (hnot : i ∉ before.flatten)
    (hcycle : ¬ TransGen (Edge g) i i) (hnext : ∀ j, Edge g i j → j ∈ before.flatten) :
    Settled search nodes g (before ++ [[i]]) (settle search nodes g p [i]) := by
  have hflatten : (before ++ [[i]]).flatten = before.flatten ++ [i] := by simp
  have hlen : ¬ 1 < [i].length := by simp
  rw [settle, if_neg hlen]
  cases hlevel : levelAbove? p.depth (next g i) with
  | some level =>
    have hgreatest := isGreatest_of_levelAbove?_eq_some
      (fun j _ d hd => ((h.depth j d).mp hd).2) hlevel
    refine ⟨by rw [Array.size_setIfInBounds, h.size], fun j l => ?_, ?_, fun j e => ?_⟩
    · rw [depthAt_setIfInBounds (h.size ▸ hi), hflatten, List.mem_append, List.mem_singleton]
      split
      · rename_i heq
        subst heq
        rw [Option.some.injEq]
        constructor
        · rintro rfl
          exact ⟨.inr rfl, hgreatest⟩
        · rintro ⟨-, hl⟩
          exact hgreatest.unique hl
      · rename_i hne
        rw [h.depth, or_iff_left (Ne.symm hne)]
    · rw [hflatten]
      exact h.once.trans (List.sublist_append_left _ _)
    · -- The node has a longest chain, so it is none of those that are to be rejected.
      rw [h.rejected, hflatten, List.mem_append, List.mem_singleton]
      refine and_congr_left fun hj => (or_iff_left ?_).symm
      rintro rfl
      exact hj.1 ⟨level, hgreatest⟩
  | none =>
    -- A neighbour without a level has no longest chain, and so `i` has none.
    obtain ⟨j, hj, hnone⟩ := levelAbove?_eq_none hlevel
    have hno : ¬ ∃ l, IsGreatest (chainLengths (Edge g) i) l := by
      intro hl
      obtain ⟨d, hd⟩ := exists_isGreatest_of_step hj hl
      rw [(h.depth j d).mpr ⟨hnext j hj, hd⟩] at hnone
      cases hnone
    refine ⟨h.size, fun k l => ?_, ?_, fun k e => ?_⟩
    · rw [h.depth, hflatten, List.mem_append, List.mem_singleton]
      refine and_congr_left fun hl => (or_iff_left ?_).symm
      rintro rfl
      exact hno ⟨l, hl⟩
    · rw [hflatten, List.map_append]
      exact h.once.append (.refl [i])
    · rw [hflatten, List.mem_append, h.rejected, List.mem_append, List.mem_singleton,
        List.mem_singleton, or_and_right, Prod.mk.injEq]
      refine or_congr_right ?_
      constructor
      · rintro ⟨rfl, rfl⟩
        exact ⟨rfl, hno, .inr ⟨hcycle, rfl⟩⟩
      · rintro ⟨rfl, -, ⟨hyes, -⟩ | ⟨-, rfl⟩⟩
        · exact absurd hyes hcycle
        · exact ⟨rfl, rfl⟩

/-- One more component is settled. Which of the two cases it is, is the question whether it has
more than one node; and that the neighbours of a single node are settled is the order of the
components. -/
theorem settled_settle (hc : AreComponents g components) (hclosed : IsClosed g)
    (hloop : ∀ i, ¬ Edge g i i) {before after : List (List Nat)} {c : List Nat}
    (hsplit : components = before ++ c :: after) {p : Progress}
    (h : Settled search nodes g before p) :
    Settled search nodes g (before ++ [c]) (settle search nodes g p c) := by
  have hmem : c ∈ components := hsplit ▸ List.mem_append_cons_self
  by_cases hlen : 1 < c.length
  · exact h.settle_cycle (fun i hi => (one_lt_length_iff hc hloop hmem hi).mp hlen) hlen
  · have hpos := List.length_pos_iff.mpr (hc.nonempty c hmem)
    obtain ⟨i, rfl⟩ := List.length_eq_one_iff.mp (show c.length = 1 by omega)
    have hi : i ∈ [i] := List.mem_singleton.mpr rfl
    have hcycle := mt (one_lt_length_iff hc hloop hmem hi).mpr hlen
    have hnodup := hc.perm.nodup_iff.mpr List.nodup_range
    -- Every node is in a component that is behind, in this one, or in one that is to come.
    have hall : ∀ j < g.size, j ∈ before.flatten ∨ j = i ∨ j ∈ after.flatten := by
      intro j hj
      have hjmem := hc.perm.mem_iff.mpr (List.mem_range.mpr hj)
      rw [hsplit] at hjmem
      simpa using hjmem
    have hlt : i < g.size := by
      have himem := hc.perm.mem_iff.mp (List.mem_flatten.mpr ⟨[i], hmem, hi⟩)
      exact List.mem_range.mp himem
    refine h.settle_single hlt ?_ hcycle fun j hedge => ?_
    · rw [hsplit, List.flatten_append, List.flatten_cons] at hnodup
      exact fun hbefore => (List.nodup_append.mp hnodup).2.2 i hbefore i
        (List.mem_append_left _ hi) rfl
    · -- The edge leads neither back to `i` nor into a later component.
      rcases hall j (hclosed i j hedge) with hj | rfl | hj
      · exact hj
      · exact absurd hedge (hloop j)
      · obtain ⟨d, hd, hjd⟩ := List.mem_flatten.mp hj
        have horder := hc.order
        rw [hsplit] at horder
        have hlater := List.rel_of_pairwise_cons (List.pairwise_append.mp horder).2.1 hd
        exact absurd hedge (hlater i hi j hjd)

/-- All components of a list are settled one after another. The list is split into what is behind
and what is still to come, and the invariant speaks of the first part. -/
theorem settled_foldl (hc : AreComponents g components) (hclosed : IsClosed g)
    (hloop : ∀ i, ¬ Edge g i i) (hsize : g.size = nodes.length) :
    Settled search nodes g components (components.foldl (settle search nodes g)
      { depth := Array.replicate nodes.length none, rejected := [] }) := by
  have hrun : ∀ before after p, components = before ++ after →
      Settled search nodes g before p →
      Settled search nodes g components (after.foldl (settle search nodes g) p) := by
    intro before after
    induction after generalizing before with
    | nil =>
      intro p hsplit h
      rw [List.append_nil] at hsplit
      exact hsplit ▸ h
    | cons c after ih =>
      intro p hsplit h
      refine ih (before ++ [c]) _ (by simp [hsplit]) ?_
      exact settled_settle hc hclosed hloop hsplit h
  exact hrun [] components _ rfl (settled_nil hsize)

end Fixtures.Schedule
