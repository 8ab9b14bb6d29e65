import Fixtures.Proofs.Schedule.Search
import Mathlib.Data.Nat.Find

/-!
# `Fixtures.Proofs.Schedule.ShortestPath`: the path that is found is a shortest walk

The search for paths goes by distance. `layers` groups the nodes around the target, `pathThrough?`
looks for the layer of the node to begin with, and `descend` walks down from there, one layer with
each step. The distance is defined apart from all this, by the walks of the graph (`ReachesIn`,
`AtDistance`), and each function has one fact about it:

* `outward_layers`: the layers are the nodes at distance 1, 2, 3 and so on, up to the furthest;
* `isWalk_descend`: the way down is a walk of as many edges as there are layers;
* `exists_of_pathThrough?_eq_some`: the node to begin with stands in the layer that is found.

A walk of `k` edges is one of `k + 1` nodes (`reachesIn_of_isWalk`). So what is found is no longer
than any other walk, and where nothing is found there is none.
-/

set_option autoImplicit false

namespace Fixtures.Schedule

open Relation

variable {g : Graph} {target : Nat}

/-! ### Distance -/

/-- From `i` a walk of exactly `k` edges leads to `target`. It counts edges and keeps no nodes,
which is all that layers know of walks. -/
def ReachesIn (g : Graph) (target : Nat) : Nat → Nat → Prop
  | 0, i => i = target
  | k + 1, i => ∃ j ∈ next g i, ReachesIn g target k j

/-- The shortest walk from `i` to `target` has `k` edges. A node from which the target cannot be
reached has no distance. -/
def AtDistance (g : Graph) (target k i : Nat) : Prop :=
  ReachesIn g target k i ∧ ∀ k' < k, ¬ ReachesIn g target k' i

/-- A node from which the target can be reached has a distance. -/
theorem ReachesIn.exists_atDistance {k i : Nat} (h : ReachesIn g target k i) :
    ∃ k' ≤ k, AtDistance g target k' i := by
  classical
  have hex : ∃ k, ReachesIn g target k i := ⟨k, h⟩
  exact ⟨Nat.find hex, Nat.find_min' hex h, Nat.find_spec hex, fun k' hk' => Nat.find_min hex hk'⟩

/-- Only the target is at distance 0. -/
@[simp] theorem atDistance_zero {i : Nat} : AtDistance g target 0 i ↔ i = target := by
  simp [AtDistance, ReachesIn]

namespace AtDistance

variable {k i j : Nat}

/-- A node has one distance. -/
theorem unique {k' : Nat} (h : AtDistance g target k i) (h' : AtDistance g target k' i) :
    k = k' := by
  rcases Nat.lt_trichotomy k k' with hlt | heq | hgt
  · exact absurd h.1 (h'.2 k hlt)
  · exact heq
  · exact absurd h'.1 (h.2 k' hgt)

/-- One edge leads from a node to one that is nearer by one. Such a neighbour stands one layer
down. -/
theorem exists_next (h : AtDistance g target (k + 1) i) :
    ∃ j ∈ next g i, AtDistance g target k j := by
  obtain ⟨⟨j, hj, hreach⟩, hmin⟩ := h
  refine ⟨j, hj, hreach, fun k' hk' hreach' => ?_⟩
  exact hmin (k' + 1) (Nat.succ_lt_succ hk') ⟨j, hj, hreach'⟩

/-- A node that is not as near as `k` but has an edge to one at distance `k` is one further. -/
theorem of_next (hfar : ∀ k' ≤ k, ¬ ReachesIn g target k' i) (hj : j ∈ next g i)
    (h : AtDistance g target k j) : AtDistance g target (k + 1) i :=
  ⟨⟨j, hj, h.1⟩, fun k' hk' => hfar k' (Nat.le_of_lt_succ hk')⟩

/-- Where no node is at distance `k`, none is further away. So the search may stop at the first
layer that is empty. -/
theorem exists_of_add {d : Nat} (h : AtDistance g target (k + d) i) :
    ∃ j, AtDistance g target k j := by
  induction d generalizing i with
  | zero => exact ⟨i, h⟩
  | succ d ih =>
    obtain ⟨j, -, hj⟩ := h.exists_next
    exact ih hj

end AtDistance

/-! ### Layers -/

/-- The nodes of the next layer: those from which an edge leads into the layer before it. -/
def nextLayer (g : Graph) (inner unseen : List Nat) : List Nat :=
  unseen.filter fun i => (next g i).any inner.contains

/-- The nodes beyond the next layer, which are left for the layers after it. -/
def beyondLayer (g : Graph) (inner unseen : List Nat) : List Nat :=
  unseen.filter fun i => !(next g i).any inner.contains

/-- Without a next layer there are no more layers. -/
theorem layers_of_nextLayer_eq_nil {inner unseen : List Nat}
    (h : nextLayer g inner unseen = []) : layers g inner unseen = [] := by
  have hpart : unseen.partition (fun i => (next g i).any inner.contains)
      = ([], beyondLayer g inner unseen) := by
    rw [List.partition_eq_filter_filter]
    exact congrArg (·, beyondLayer g inner unseen) h
  rw [layers]
  split
  · rfl
  · rename_i heq
    rw [hpart] at heq
    cases heq

/-- Otherwise the next layer is the first one of them, and the others are made of what is beyond
it. -/
theorem layers_of_nextLayer_ne_nil {inner unseen : List Nat}
    (h : nextLayer g inner unseen ≠ []) :
    layers g inner unseen = nextLayer g inner unseen
      :: layers g (nextLayer g inner unseen) (beyondLayer g inner unseen) := by
  have hpart : unseen.partition (fun i => (next g i).any inner.contains)
      = (nextLayer g inner unseen, beyondLayer g inner unseen) := by
    rw [List.partition_eq_filter_filter]
    rfl
  rw [layers]
  split
  · rename_i heq
    rw [hpart, Prod.mk.injEq] at heq
    exact absurd heq.1 h
  · rename_i i layer rest heq
    rw [hpart, Prod.mk.injEq] at heq
    rw [heq.1, heq.2]

/-- The layers of a list hold the nodes at distance `k`, `k + 1` and so on, and none is further
away than the last layer. The nearest stand first. -/
def Outward (g : Graph) (target : Nat) : Nat → List (List Nat) → Prop
  | k, [] => ∀ i, ¬ AtDistance g target k i
  | k, layer :: outer => (∀ i, i ∈ layer ↔ AtDistance g target k i) ∧ Outward g target (k + 1) outer

/-- The layers of a list hold the nodes at each distance down to 0, the furthest first. This is the
order in which the way down needs them. -/
def Inward (g : Graph) (target : Nat) : List (List Nat) → Prop
  | [] => True
  | layer :: inner => (∀ i, i ∈ layer ↔ AtDistance g target inner.length i) ∧ Inward g target inner

/-- Below the target there are no layers. -/
theorem inward_nil (g : Graph) (target : Nat) : Inward g target [] := trivial

/-- Around the layer at distance `k`, the next layer is the one at distance `k + 1`. -/
theorem mem_nextLayer_iff {inner unseen : List Nat} {k : Nat}
    (hinner : ∀ i, i ∈ inner ↔ AtDistance g target k i)
    (hunseen : ∀ i, i ∈ unseen ↔ i < g.size ∧ ∀ k' ≤ k, ¬ ReachesIn g target k' i) (i : Nat) :
    i ∈ nextLayer g inner unseen ↔ AtDistance g target (k + 1) i := by
  simp only [nextLayer, List.mem_filter, List.any_eq_true, List.contains_iff_mem, hinner, hunseen]
  constructor
  · rintro ⟨⟨-, hfar⟩, j, hj, hdist⟩
    exact .of_next hfar hj hdist
  · intro hi
    obtain ⟨j, hj, hdist⟩ := hi.exists_next
    exact ⟨⟨Edge.left_lt hj, fun k' hk' => hi.2 k' (Nat.lt_succ_of_le hk')⟩, j, hj, hdist⟩

/-- What is beyond the next layer is further away than `k + 1`. -/
theorem mem_beyondLayer_iff {inner unseen : List Nat} {k : Nat}
    (hinner : ∀ i, i ∈ inner ↔ AtDistance g target k i)
    (hunseen : ∀ i, i ∈ unseen ↔ i < g.size ∧ ∀ k' ≤ k, ¬ ReachesIn g target k' i) (i : Nat) :
    i ∈ beyondLayer g inner unseen ↔
      i < g.size ∧ ∀ k' ≤ k + 1, ¬ ReachesIn g target k' i := by
  have hsplit : i ∈ beyondLayer g inner unseen ↔ i ∈ unseen ∧ i ∉ nextLayer g inner unseen := by
    simp +contextual [beyondLayer, nextLayer]
  rw [hsplit, mem_nextLayer_iff hinner hunseen, hunseen]
  constructor
  · rintro ⟨⟨hlt, hfar⟩, hnot⟩
    refine ⟨hlt, fun k' hk' hreach => ?_⟩
    rcases Nat.lt_or_eq_of_le hk' with hk' | rfl
    · exact hfar k' (Nat.le_of_lt_succ hk') hreach
    · exact hnot ⟨hreach, fun k' hk' => hfar k' (Nat.le_of_lt_succ hk')⟩
  · rintro ⟨hlt, hfar⟩
    exact ⟨⟨hlt, fun k' hk' => hfar k' (Nat.le_succ_of_le hk')⟩,
      fun hdist => hfar (k + 1) (Nat.le_refl _) hdist.1⟩

/-- The layers around the one at distance `k` go outward one step at a time. What is unseen at each
step is known by its distance, too, so that no node is met in a later layer again. -/
theorem outward_layers {inner unseen : List Nat} {k : Nat}
    (hinner : ∀ i, i ∈ inner ↔ AtDistance g target k i)
    (hunseen : ∀ i, i ∈ unseen ↔ i < g.size ∧ ∀ k' ≤ k, ¬ ReachesIn g target k' i) :
    Outward g target (k + 1) (layers g inner unseen) := by
  have hnext := mem_nextLayer_iff hinner hunseen
  by_cases h : nextLayer g inner unseen = []
  · rw [layers_of_nextLayer_eq_nil h]
    intro i hi
    have hmem := (hnext i).mpr hi
    rw [h] at hmem
    cases hmem
  · rw [layers_of_nextLayer_ne_nil h]
    exact ⟨hnext, outward_layers hnext (mem_beyondLayer_iff hinner hunseen)⟩
termination_by unseen.length
decreasing_by
  have hlen := (List.filter_append_perm (fun i => (next g i).any inner.contains) unseen).length_eq
  have hpos := List.length_pos_iff.mpr h
  rw [List.length_append] at hlen
  unfold nextLayer at hpos
  unfold beyondLayer
  omega

/-! ### Paths -/

/-- A walk of one node more than `k` has `k` edges. -/
theorem reachesIn_of_isWalk {i k : Nat} {path : List Nat} (h : IsWalk g i target path)
    (hlen : path.length = k + 1) : ReachesIn g target k i := by
  induction k generalizing i path with
  | zero =>
    obtain ⟨a, rfl⟩ := List.length_eq_one_iff.mp hlen
    obtain rfl : a = i := Option.some.inj h.head
    exact Option.some.inj h.last
  | succ k ih =>
    match path, hlen with
    | a :: b :: rest, hlen =>
      obtain ⟨hedge, hrest⟩ := h.of_cons_cons
      exact ⟨b, hedge, ih hrest (Nat.succ.inj hlen)⟩

/-- The way down through the layers is a walk to the target, with one edge for each layer. In each
layer a neighbour is found, because the node stands at the distance that its layer says. -/
theorem isWalk_descend {inner : List (List Nat)} {i : Nat} (hinner : Inward g target inner)
    (hi : AtDistance g target inner.length i) :
    IsWalk g i target (descend g inner i) ∧ (descend g inner i).length = inner.length + 1 := by
  induction inner generalizing i with
  | nil =>
    rw [List.length_nil, atDistance_zero] at hi
    subst hi
    exact ⟨.singleton g i, rfl⟩
  | cons layer inner ih =>
    obtain ⟨hlayer, hinner⟩ := hinner
    -- A neighbour in the layer below is found, since the distance is not 0.
    obtain ⟨k, hk, hkdist⟩ := hi.exists_next
    have hsome : ((next g i).find? layer.contains).isSome := by
      rw [List.find?_isSome]
      exact ⟨k, hk, List.contains_iff_mem.mpr ((hlayer k).mpr hkdist)⟩
    obtain ⟨j, hfind⟩ := Option.isSome_iff_exists.mp hsome
    have hj : AtDistance g target inner.length j :=
      (hlayer j).mp (List.contains_iff_mem.mp (List.find?_some hfind))
    obtain ⟨hwalk, hlen⟩ := ih hinner hj
    rw [descend, hfind]
    exact ⟨hwalk.cons (List.mem_of_find?_eq_some hfind), by rw [List.length_cons, hlen]; rfl⟩

/-- A path that is found goes down from the layer in which its first node stands. The layers that
were passed have been turned around by then. -/
theorem exists_of_pathThrough?_eq_some {inner outer : List (List Nat)} {start : Nat}
    {path : List Nat} (hinner : Inward g target inner)
    (houter : Outward g target inner.length outer)
    (h : pathThrough? g start inner outer = some path) :
    ∃ passed, path = descend g passed start ∧ Inward g target passed ∧
      AtDistance g target passed.length start := by
  induction outer generalizing inner with
  | nil => cases h
  | cons layer outer ih =>
    obtain ⟨hlayer, houter⟩ := houter
    rw [pathThrough?] at h
    split at h
    · rename_i hmem
      cases h
      exact ⟨inner, rfl, hinner, (hlayer start).mp (List.contains_iff_mem.mp hmem)⟩
    · have hmore : Inward g target (layer :: inner) := ⟨hlayer, hinner⟩
      exact ih hmore houter h

/-- Where no path is found, the node to begin with is in no layer, at whatever distance. -/
theorem not_atDistance_of_pathThrough?_eq_none {inner outer : List (List Nat)} {start : Nat}
    (houter : Outward g target inner.length outer)
    (hnear : ∀ k < inner.length, ¬ AtDistance g target k start)
    (h : pathThrough? g start inner outer = none) (k : Nat) : ¬ AtDistance g target k start := by
  induction outer generalizing inner with
  | nil =>
    intro hdist
    rcases Nat.lt_or_ge k inner.length with hk | hk
    · exact hnear k hk hdist
    · obtain ⟨d, rfl⟩ := Nat.exists_eq_add_of_le hk
      obtain ⟨i, hi⟩ := hdist.exists_of_add
      exact houter i hi
  | cons layer outer ih =>
    obtain ⟨hlayer, houter⟩ := houter
    rw [pathThrough?] at h
    split at h
    · cases h
    · rename_i hmem
      refine @ih (layer :: inner) houter (fun k' hk' hdist => ?_) h
      rcases Nat.lt_or_eq_of_le (Nat.le_of_lt_succ hk') with hlt | rfl
      · exact hnear k' hlt hdist
      · exact hmem (List.contains_iff_mem.mpr ((hlayer start).mpr hdist))

/-- The layers around a node, from the node alone outwards. -/
theorem outward_singleton_layers (g : Graph) (target : Nat) :
    Outward g target 0
      ([target] :: layers g [target] ((List.range g.size).filter fun i => i != target)) := by
  refine ⟨fun i => by simp, outward_layers (k := 0) (fun i => by simp) fun i => ?_⟩
  simp [ReachesIn]

/-- The path that is found is a shortest walk. It has as many edges as the distance of its first
node says, and a walk of fewer would make that distance less. -/
theorem isShortestWalk_of_shortestPath?_eq_some {start : Nat} {path : List Nat}
    (h : shortestPath? g start target = some path) : IsShortestWalk g start target path := by
  obtain ⟨passed, rfl, hpassed, hdist⟩ :=
    exists_of_pathThrough?_eq_some (inward_nil g target) (outward_singleton_layers g target) h
  obtain ⟨hwalk, hlen⟩ := isWalk_descend hpassed hdist
  refine ⟨hwalk, fun other hother => ?_⟩
  rw [hlen]
  obtain ⟨rest, rfl⟩ := hother.exists_eq_cons
  -- A shorter walk would reach the target in fewer steps than the distance.
  by_contra hlt
  rw [List.length_cons] at hlt
  exact hdist.2 rest.length (by omega) (reachesIn_of_isWalk hother List.length_cons)

/-- A path is found wherever the target can be reached. This is also how it is known which nodes
lead to each other. -/
theorem isSome_shortestPath?_iff {start : Nat} :
    (shortestPath? g start target).isSome ↔ ReflTransGen (Edge g) start target := by
  constructor
  · intro hsome
    obtain ⟨path, hpath⟩ := Option.isSome_iff_exists.mp hsome
    exact (isShortestWalk_of_shortestPath?_eq_some hpath).1.reflTransGen
  · intro hreach
    obtain ⟨path, hpath⟩ := exists_isWalk_iff.mpr hreach
    obtain ⟨rest, rfl⟩ := hpath.exists_eq_cons
    obtain ⟨k, -, hk⟩ := (reachesIn_of_isWalk hpath List.length_cons).exists_atDistance
    by_contra hnone
    rw [Option.not_isSome_iff_eq_none] at hnone
    exact not_atDistance_of_pathThrough?_eq_none
      (outward_singleton_layers g target) (fun _ h => absurd h (Nat.not_lt_zero _)) hnone k hk

end Fixtures.Schedule
