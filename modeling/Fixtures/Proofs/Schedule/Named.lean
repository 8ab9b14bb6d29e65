import Fixtures.Proofs.Schedule.Rejected

/-!
# `Fixtures.Proofs.Schedule.Named`: a schedule told by the names of its passes

`Levels` and `Rejected` speak of the places of passes in a list. A place means nothing outside of
its list, so nothing that is said of places can be compared between two lists. This module says
the same of names.

`Waits` is the dependency of passes by name. It is made of memberships only: lists with the same
passes have the same relation, in whatever order the passes come. Between places and names,
`nameAt` and `placeOf` go back and forth, and a chain or a cycle of one relation becomes one of
the other relation (`dependsOn_of_waits`, `waits_of_dependsOn`). The two facts that follow say
which passes run and why the others do not:

* `mem_levels_iff_not_isStuck`: a pass is in a level when no cycle can be reached from its name;
* `isReason_of_mem_rejected`: the error of another one is a shortest cycle of names through it, or
  it is on no cycle.

The last section compares two relations. Where they have the same steps from the members of a
closed set, they have the same walks and the same cycles from there (`SameFrom`).
-/

set_option autoImplicit false

namespace Fixtures.Schedule

open Relation

/-! ### Cycles of a relation -/

/-- From `a` over `others` and back to it, each is related to the next one. A cycle has at least
two members and meets each of them once. -/
structure IsCycleOf {α : Type} (R : α → α → Prop) (a : α) (others : List α) : Prop where
  nonempty : others ≠ []
  nodup : (a :: others).Nodup
  chain : (a :: (others ++ [a])).IsChain R

/-- The path goes along a cycle, from `a` and back to it, and no cycle through `a` is shorter.
There may be several such paths. -/
def IsShortestCycle {α : Type} (R : α → α → Prop) (a : α) (path : List α) : Prop :=
  ∃ others, path = a :: (others ++ [a]) ∧ IsCycleOf R a others ∧
    ∀ more, IsCycleOf R a more → others.length ≤ more.length

/-- Why the pass of a name that is stuck does not run: for a shortest cycle through it, or for a
cycle elsewhere when there is none. -/
inductive IsReason (R : String → String → Prop) (name : String) : FixtureError → Prop
  | cycle (path : List String) (h : IsShortestCycle R name path) : IsReason R name (.cycle path)
  | behindCycle (h : ∀ others, ¬ IsCycleOf R name others) : IsReason R name (.behindCycle name)

/-- In a chain every member but the last one is related to another one. On a cycle that is every
member. -/
theorem exists_step_of_isChain {α : Type} {R : α → α → Prop} {before : List α} {last : α}
    (h : (before ++ [last]).IsChain R) : ∀ a ∈ before, ∃ b, R a b := by
  induction before with
  | nil => simp
  | cons first rest ih =>
    intro a ha
    rcases List.mem_cons.mp ha with rfl | ha
    · cases rest with
      | nil => exact ⟨last, (List.isChain_cons_cons.mp h).1⟩
      | cons second rest => exact ⟨second, (List.isChain_cons_cons.mp h).1⟩
    · exact ih h.tail a ha

/-- A map that takes steps to steps takes cycles to cycles, if it can be undone on all members that
a step begins with. Undoing it is what keeps the members apart. -/
theorem IsCycleOf.map {α β : Type} {R : α → α → Prop} {S : β → β → Prop} {f : α → β} {g : β → α}
    (hstep : ∀ a b, R a b → S (f a) (f b)) (hback : ∀ a b, R a b → g (f a) = a) {a : α}
    {others : List α} (h : IsCycleOf R a others) : IsCycleOf S (f a) (others.map f) where
  nonempty := by simpa using h.nonempty
  nodup := by
    refine List.Nodup.of_map g ?_
    have hchain : ((a :: others) ++ [a]).IsChain R := h.chain
    have hundone : ((a :: others).map f).map g = a :: others := by
      rw [List.map_map]
      refine (List.map_congr_left fun b hb => ?_).trans (List.map_id _)
      obtain ⟨b', hb'⟩ := exists_step_of_isChain hchain b hb
      exact hback b b' hb'
    rw [← List.map_cons, hundone]
    exact h.nodup
  chain := by
    have hmapped : ((a :: (others ++ [a])).map f).IsChain S := by
      rw [List.isChain_map]
      exact h.chain.imp fun b b' hb => hstep b b' hb
    simpa using hmapped

/-! ### Passes by name -/

variable {nodes : List PassNode} {i j : Nat} {a b : String}

/-- The pass for one type names the other type among its dependencies, and there is a pass for that
one too. Only memberships are in this, so the order of the passes has no part in it. -/
def Waits (nodes : List PassNode) (a b : String) : Prop :=
  a ≠ b ∧ ∃ x ∈ nodes, ∃ y ∈ nodes, x.typeName = a ∧ y.typeName = b ∧ b ∈ x.dependsOn

/-- The place of the pass of a name. A name without a pass is given a place all the same, but it
waits for nothing and nothing waits for it. -/
def placeOf (nodes : List PassNode) (name : String) : Nat :=
  ((places nodes).get? name).getD 0

/-- The name at the place of a pass is its name. -/
theorem nameAt_eq {x : PassNode} (h : nodes[i]? = some x) : nameAt nodes i = x.typeName := by
  simp [nameAt, h]

section

variable (h : (nodes.map (·.typeName)).Nodup)

include h

/-- Every pass is at the place of its name. -/
theorem placeOf_eq {x : PassNode} (hi : nodes[i]? = some x) : placeOf nodes x.typeName = i := by
  rw [placeOf, (get?_places_eq_some_iff h).mpr ⟨x, hi, rfl⟩, Option.getD_some]

/-- A dependency between places is one between their names. -/
theorem waits_of_dependsOn (hij : DependsOn nodes i j) :
    Waits nodes (nameAt nodes i) (nameAt nodes j) := by
  obtain ⟨hne, x, y, hi, hj, hdep⟩ := hij
  rw [nameAt_eq hi, nameAt_eq hj]
  refine ⟨fun heq => hne (eq_of_typeName_eq h hi hj heq), x, List.mem_of_getElem? hi, y,
    List.mem_of_getElem? hj, rfl, rfl, hdep⟩

/-- A dependency between names is one between their places. -/
theorem dependsOn_of_waits (hab : Waits nodes a b) :
    DependsOn nodes (placeOf nodes a) (placeOf nodes b) := by
  obtain ⟨hne, x, hx, y, hy, rfl, rfl, hdep⟩ := hab
  obtain ⟨i, hi⟩ := List.getElem?_of_mem hx
  obtain ⟨j, hj⟩ := List.getElem?_of_mem hy
  rw [placeOf_eq h hi, placeOf_eq h hj]
  refine ⟨?_, x, y, hi, hj, hdep⟩
  rintro rfl
  exact hne (by rw [Option.some.inj (hi.symm.trans hj)])

/-- What a name waits for is the name at its own place. -/
theorem nameAt_placeOf_of_waits (hab : Waits nodes a b) : nameAt nodes (placeOf nodes a) = a := by
  obtain ⟨-, x, hx, -, -, rfl, -⟩ := hab
  obtain ⟨i, hi⟩ := List.getElem?_of_mem hx
  rw [placeOf_eq h hi, nameAt_eq hi]

/-- The place of a pass with dependencies is the place of its name. -/
theorem placeOf_nameAt_of_dependsOn (hij : DependsOn nodes i j) :
    placeOf nodes (nameAt nodes i) = i := by
  obtain ⟨-, x, -, hi, -, -⟩ := hij
  rw [nameAt_eq hi, placeOf_eq h hi]

/-- A cycle of places is a cycle of their names. -/
theorem isCycleOf_of_isCycle {others : List Nat} (hcycle : IsCycle nodes i others) :
    IsCycleOf (Waits nodes) (nameAt nodes i) (others.map (nameAt nodes)) :=
  IsCycleOf.map (R := DependsOn nodes) (fun _ _ hij => waits_of_dependsOn h hij)
    (fun _ _ hij => placeOf_nameAt_of_dependsOn h hij)
    ⟨hcycle.nonempty, hcycle.nodup, hcycle.chain⟩

/-- A cycle of names is a cycle of their places. -/
theorem isCycle_of_isCycleOf {others : List String} (hcycle : IsCycleOf (Waits nodes) a others) :
    IsCycle nodes (placeOf nodes a) (others.map (placeOf nodes)) := by
  obtain ⟨hne, hnodup, hchain⟩ := hcycle.map (S := DependsOn nodes)
    (fun _ _ hab => dependsOn_of_waits h hab) (fun _ _ hab => nameAt_placeOf_of_waits h hab)
  exact ⟨hne, hnodup, hchain⟩

/-- A pass is stuck when its name is. Walks and cycles are carried over in both directions. -/
theorem isStuck_dependsOn_iff {x : PassNode} (hi : nodes[i]? = some x) :
    IsStuck (DependsOn nodes) i ↔ IsStuck (Waits nodes) x.typeName := by
  constructor
  · rintro ⟨j, hij, hj⟩
    refine ⟨nameAt nodes j, ?_, ?_⟩
    · rw [← nameAt_eq hi]
      exact hij.lift (nameAt nodes) fun _ _ hstep => waits_of_dependsOn h hstep
    · exact hj.lift (nameAt nodes) fun _ _ hstep => waits_of_dependsOn h hstep
  · rintro ⟨b, hab, hb⟩
    refine ⟨placeOf nodes b, ?_, ?_⟩
    · rw [← placeOf_eq h hi]
      exact hab.lift (placeOf nodes) fun _ _ hstep => dependsOn_of_waits h hstep
    · exact hb.lift (placeOf nodes) fun _ _ hstep => dependsOn_of_waits h hstep

end

section

variable {search : Search} (hs : search.IsLawful) (h : (nodes.map (·.typeName)).Nodup)

include hs h

/-- A pass is in a level when its name is not stuck. This says who runs without a place in it. -/
theorem mem_levels_iff_not_isStuck {x : PassNode} (hi : nodes[i]? = some x) :
    i ∈ (arrange search nodes).levels.flatten ↔ ¬ IsStuck (Waits nodes) x.typeName := by
  rw [← isStuck_dependsOn_iff h hi, ← not_exists_isGreatest_iff, not_not, ← exists_inLevel_iff]
  simp only [inLevel_arrange_iff hs h, exists_and_left]
  exact and_iff_right (List.getElem?_eq_some_iff.mp hi).1

/-- A pass is rejected when its name is stuck. -/
theorem isStuck_of_mem_rejected {x : PassNode} (hi : nodes[i]? = some x) {err : FixtureError}
    (herr : (i, err) ∈ (arrange search nodes).rejected) : IsStuck (Waits nodes) x.typeName :=
  (isStuck_dependsOn_iff h hi).mp ((mem_rejected_iff hs h).mp herr).1

/-- The shortest cycle of places that is found through a pass is a shortest cycle of names. -/
theorem isShortestCycle_cycleThrough {x : PassNode} (hi : nodes[i]? = some x)
    (hcycle : TransGen (DependsOn nodes) i i) :
    IsShortestCycle (Waits nodes) x.typeName
      ((cycleThrough search (graph nodes) i).map (nameAt nodes)) := by
  obtain ⟨others, heq, hcycle, hmin⟩ := exists_isCycle_cycleThrough hs h hcycle
  have hnames := isCycleOf_of_isCycle h hcycle
  rw [nameAt_eq hi] at hnames
  refine ⟨others.map (nameAt nodes), by simp [heq, nameAt_eq hi], hnames, fun more hmore => ?_⟩
  -- A shorter cycle of names would be one of places, through the same pass.
  have hplaces := isCycle_of_isCycleOf h hmore
  rw [placeOf_eq h hi] at hplaces
  simpa using hmin _ hplaces

/-- A pass is rejected for a shortest cycle of names through it, or it is on no cycle. -/
theorem isReason_of_mem_rejected {x : PassNode} (hi : nodes[i]? = some x) {err : FixtureError}
    (herr : (i, err) ∈ (arrange search nodes).rejected) :
    IsReason (Waits nodes) x.typeName err := by
  obtain ⟨-, hverdict⟩ := (mem_rejected_iff hs h).mp herr
  rw [IsVerdict, edge_graph h] at hverdict
  rcases hverdict with ⟨hcycle, rfl⟩ | ⟨hno, rfl⟩
  · exact .cycle _ (isShortestCycle_cycleThrough hs h hi hcycle)
  · rw [nameAt_eq hi]
    refine .behindCycle fun others hnames => hno ?_
    have hplaces := isCycle_of_isCycleOf h hnames
    rw [placeOf_eq h hi] at hplaces
    exact (exists_isCycle_iff h).mp ⟨_, hplaces⟩

end

/-! ### Two relations with the same steps -/

section

variable {α : Type} {R S : α → α → Prop} {P : α → Prop} {a b : α}

/-- From the members of a set, which no step leaves, both relations have the same steps. What lies
outside of the set may differ in any way. -/
structure SameFrom (P : α → Prop) (R S : α → α → Prop) : Prop where
  step : ∀ a, P a → ∀ b, R a b ↔ S a b
  closed : ∀ a, P a → ∀ b, R a b → P b

/-- It does not matter which relation comes first. -/
theorem SameFrom.symm (h : SameFrom P R S) : SameFrom P S R where
  step a ha b := (h.step a ha b).symm
  closed a ha b hab := h.closed a ha b ((h.step a ha b).mpr hab)

/-- A walk from the set is one of both relations, and ends in the set. -/
theorem SameFrom.reflTransGen (h : SameFrom P R S) (ha : P a) (hab : ReflTransGen R a b) :
    ReflTransGen S a b ∧ P b := by
  induction hab with
  | refl => exact ⟨.refl, ha⟩
  | tail _ hstep ih =>
    obtain ⟨hwalk, hb⟩ := ih
    exact ⟨hwalk.tail ((h.step _ hb _).mp hstep), h.closed _ hb _ hstep⟩

/-- A chain from the set is one of both relations. -/
theorem SameFrom.isChain (h : SameFrom P R S) {rest : List α} (ha : P a)
    (hchain : (a :: rest).IsChain R) : (a :: rest).IsChain S := by
  induction rest generalizing a with
  | nil => exact .singleton a
  | cons b rest ih =>
    obtain ⟨hab, hrest⟩ := List.isChain_cons_cons.mp hchain
    exact List.isChain_cons_cons.mpr ⟨(h.step a ha b).mp hab, ih (h.closed a ha b hab) hrest⟩

/-- A cycle through a member of the set is one of both relations. -/
theorem SameFrom.isCycleOf_iff (h : SameFrom P R S) (ha : P a) {others : List α} :
    IsCycleOf R a others ↔ IsCycleOf S a others :=
  ⟨fun hcycle => ⟨hcycle.nonempty, hcycle.nodup, h.isChain ha hcycle.chain⟩,
    fun hcycle => ⟨hcycle.nonempty, hcycle.nodup, h.symm.isChain ha hcycle.chain⟩⟩

/-- A shortest cycle through a member of the set is one of both relations. -/
theorem SameFrom.isShortestCycle (h : SameFrom P R S) (ha : P a) {path : List α}
    (hpath : IsShortestCycle R a path) : IsShortestCycle S a path := by
  obtain ⟨others, rfl, hcycle, hmin⟩ := hpath
  refine ⟨others, rfl, (h.isCycleOf_iff ha).mp hcycle, fun more hmore => ?_⟩
  exact hmin more ((h.isCycleOf_iff ha).mpr hmore)

/-- A member of the set from which a cycle can be reached is stuck in both relations. -/
theorem SameFrom.isStuck (h : SameFrom P R S) (ha : P a) (hstuck : IsStuck R a) :
    IsStuck S a := by
  obtain ⟨b, hab, hb⟩ := hstuck
  obtain ⟨hab', hb'⟩ := h.reflTransGen ha hab
  obtain ⟨c, hbc, hcb⟩ := TransGen.head'_iff.mp hb
  refine ⟨b, hab', TransGen.head' ((h.step b hb' c).mp hbc) ?_⟩
  exact (h.reflTransGen (h.closed b hb' c hbc) hcb).1

end

/-- The reason for which a member of the set does not run is one in both relations. The cycle that
it tells stays within the set. -/
theorem SameFrom.isReason {R S : String → String → Prop} {P : String → Prop}
    (h : SameFrom P R S) {name : String} (hname : P name) {err : FixtureError}
    (herr : IsReason R name err) : IsReason S name err := by
  cases herr with
  | cycle path hpath => exact .cycle path (h.isShortestCycle hname hpath)
  | behindCycle hnone =>
    exact .behindCycle fun others hcycle => hnone others ((h.isCycleOf_iff hname).mpr hcycle)

end Fixtures.Schedule
