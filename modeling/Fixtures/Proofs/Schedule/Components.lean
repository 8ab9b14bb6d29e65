import Fixtures.Proofs.Schedule.ShortestPath
import Mathlib.Data.Finset.Card
import Mathlib.Data.Finset.Range

/-!
# `Fixtures.Proofs.Schedule.Components`: the search in use keeps the laws

`visit` goes through everything that a node leads to before it adds the component of the node. So
at any time the components found are complete: what their nodes lead to is among them
(`AreComplete`). One visit keeps this, finds its node, and finds nothing that the node does not
lead to (`Completes`). The last part is what the induction needs: the visits to the neighbours of
a component cannot add the component itself, since nothing leads back into it.

A visit is told how deep it may go. Each neighbour outside of a component reaches fewer nodes than
the component does (`card_reachable_lt`), so the number of nodes of the graph is deep enough.
-/

set_option autoImplicit false

namespace Fixtures.Schedule

open Relation

variable {g : Graph} {i j : Nat}

/-! ### The component of a node -/

/-- One node leads to another when that one can be reached. -/
theorem leadsTo_iff : leadsTo g i j = true ↔ ReflTransGen (Edge g) i j :=
  isSome_shortestPath?_iff

/-- The component of a node has the nodes that are connected with it. The node itself is put there
by hand, as the last one. -/
theorem mem_component_iff (hclosed : IsClosed g) (hi : i < g.size) :
    j ∈ component g i ↔ Connected g i j := by
  simp only [component, List.mem_append, List.mem_filter, List.mem_range, Bool.and_eq_true,
    bne_iff_ne, leadsTo_iff, List.mem_singleton]
  constructor
  · rintro (⟨-, ⟨-, hij⟩, hji⟩ | rfl)
    · exact ⟨hij, hji⟩
    · exact .refl g j
  · intro h
    by_cases hne : j = i
    · exact .inr hne
    · exact .inl ⟨hclosed.lt_of_reflTransGen hi h.1, ⟨hne, h.1⟩, h.2⟩

/-- No node is in its component twice. -/
theorem nodup_component (g : Graph) (i : Nat) : (component g i).Nodup := by
  refine List.nodup_append.mpr ⟨List.nodup_range.filter _, List.nodup_singleton i, ?_⟩
  rintro j hj k hk rfl
  obtain rfl := List.mem_singleton.mp hk
  simp at hj

/-- Onward from a component lies what an edge leads to and does not lead back. So a visit to what
lies onward never comes back to the component it started from. -/
theorem mem_onward_component_iff (hclosed : IsClosed g) (hi : i < g.size) {k : Nat} :
    k ∈ onward g (component g i) ↔ (∃ j, Connected g i j ∧ Edge g j k) ∧ ¬ Connected g i k := by
  simp only [onward, List.mem_filter, List.mem_flatMap, Bool.not_eq_true', ← Bool.not_eq_true,
    List.contains_iff_mem, mem_component_iff hclosed hi, Edge]

/-! ### How deep a visit goes -/

/-- The nodes that can be reached from a node. Their number is the measure of a visit. -/
def reachable (g : Graph) (i : Nat) : Finset Nat :=
  (Finset.range g.size).filter fun j => leadsTo g i j = true

/-- A node that does not lead back reaches fewer nodes: all that it reaches, but not the node
before it. -/
theorem card_reachable_lt (hi : i < g.size) (hij : ReflTransGen (Edge g) i j)
    (hji : ¬ ReflTransGen (Edge g) j i) : (reachable g j).card < (reachable g i).card := by
  refine Finset.card_lt_card ⟨fun k hk => ?_, fun hsub => hji ?_⟩
  · simp only [reachable, Finset.mem_filter, leadsTo_iff] at hk ⊢
    exact ⟨hk.1, hij.trans hk.2⟩
  · have hmem : i ∈ reachable g i := by
      simp only [reachable, Finset.mem_filter, Finset.mem_range, leadsTo_iff]
      exact ⟨hi, .refl⟩
    have hback := hsub hmem
    simp only [reachable, Finset.mem_filter, leadsTo_iff] at hback
    exact hback.2

/-- No node reaches more nodes than there are. -/
theorem card_reachable_le (g : Graph) (i : Nat) : (reachable g i).card ≤ g.size := by
  have hle := Finset.card_filter_le (Finset.range g.size) fun j => leadsTo g i j = true
  rwa [Finset.card_range] at hle

/-! ### Complete components -/

/-- The components found so far: some of those of the graph, and with a node all that it leads
to. -/
structure AreComplete (g : Graph) (found : List (List Nat)) : Prop where
  lt : ∀ i ∈ found.flatten, i < g.size
  nodup : found.flatten.Nodup
  nonempty : ∀ c ∈ found, c ≠ []
  connected : ∀ c ∈ found, ∀ i ∈ c, ∀ j, j ∈ c ↔ Connected g i j
  order : found.Pairwise fun c d => ∀ i ∈ c, ∀ j ∈ d, ¬ Edge g i j
  closed : ∀ i ∈ found.flatten, ∀ j, Edge g i j → j ∈ found.flatten

namespace AreComplete

variable {found : List (List Nat)}

/-- Before anything is found nothing is missing. -/
theorem nil (g : Graph) : AreComplete g [] := by
  constructor <;> simp

/-- What can be reached from a node that is found is found. -/
theorem mem_of_reflTransGen (h : AreComplete g found) (hi : i ∈ found.flatten)
    (hij : ReflTransGen (Edge g) i j) : j ∈ found.flatten := by
  induction hij with
  | refl => exact hi
  | tail _ hedge ih => exact h.closed _ ih _ hedge

/-- The component of a node can be added when everything else that it leads to is found. Each part
of being complete is a part of this, and each one needs that the component is a new one. -/
theorem append (hclosed : IsClosed g) (h : AreComplete g found) (hi : i < g.size)
    (hnot : i ∉ found.flatten)
    (honward : ∀ j, Connected g i j → ∀ k, Edge g j k → Connected g i k ∨ k ∈ found.flatten) :
    AreComplete g (found ++ [component g i]) := by
  have hmem {j : Nat} : j ∈ component g i ↔ Connected g i j := mem_component_iff hclosed hi
  -- No node of it is found, since `i` would be found with that node.
  have hnew {j : Nat} (hj : j ∈ component g i) : j ∉ found.flatten := fun hfound =>
    hnot (h.mem_of_reflTransGen hfound (hmem.mp hj).2)
  have hflatten : (found ++ [component g i]).flatten = found.flatten ++ component g i := by
    simp
  constructor
  case lt =>
    intro j hj
    rw [hflatten, List.mem_append] at hj
    rcases hj with hj | hj
    · exact h.lt j hj
    · exact hclosed.lt_of_reflTransGen hi (hmem.mp hj).1
  case nodup =>
    rw [hflatten, List.nodup_append]
    refine ⟨h.nodup, nodup_component g i, ?_⟩
    rintro j hj k hk rfl
    exact hnew hk hj
  case nonempty =>
    intro c hc
    rcases List.mem_append.mp hc with hc | hc
    · exact h.nonempty c hc
    · obtain rfl := List.mem_singleton.mp hc
      exact List.ne_nil_of_mem (hmem.mpr (.refl g i))
  case connected =>
    intro c hc j hj k
    rcases List.mem_append.mp hc with hc | hc
    · exact h.connected c hc j hj k
    · obtain rfl := List.mem_singleton.mp hc
      have hij := hmem.mp hj
      rw [hmem]
      exact ⟨hij.symm.trans, hij.trans⟩
  case order =>
    refine List.pairwise_append.mpr ⟨h.order, List.pairwise_singleton _ _, ?_⟩
    intro c hc d hd j hj k hk hedge
    obtain rfl := List.mem_singleton.mp hd
    exact hnew hk (h.closed j (List.mem_flatten.mpr ⟨c, hc, hj⟩) k hedge)
  case closed =>
    intro j hj k hedge
    rw [hflatten, List.mem_append] at hj ⊢
    rcases hj with hj | hj
    · exact .inl (h.closed j hj k hedge)
    · exact (honward j (hmem.mp hj) k hedge).symm.imp_right hmem.mpr

end AreComplete

/-! ### Visits -/

/-- From the components found, visits to some nodes have led to others. -/
structure Completes (g : Graph) (found : List (List Nat)) (items : List Nat)
    (after : List (List Nat)) : Prop where
  /-- The components are complete again. -/
  complete : AreComplete g after
  /-- What was found stays found. -/
  kept : ∀ i ∈ found.flatten, i ∈ after.flatten
  /-- The nodes that were visited are found. -/
  visited : ∀ i ∈ items, i ∈ after.flatten
  /-- Nothing else is found but what these lead to. -/
  only : ∀ j ∈ after.flatten, j ∈ found.flatten ∨ ∃ i ∈ items, ReflTransGen (Edge g) i j

/-- Visits one after another do what each of them does. Each one may find the nodes of later ones,
and then these change nothing. -/
theorem completes_foldl {visitOne : List (List Nat) → Nat → List (List Nat)} {items : List Nat}
    (hvisit : ∀ found, AreComplete g found → ∀ i ∈ items,
      Completes g found [i] (visitOne found i))
    {found : List (List Nat)} (h : AreComplete g found) :
    Completes g found items (items.foldl visitOne found) := by
  induction items generalizing found with
  | nil => exact ⟨h, fun i hi => hi, by simp, fun i hi => .inl hi⟩
  | cons i rest ih =>
    have hfirst := hvisit found h i List.mem_cons_self
    have hrest := ih (fun found h j hj => hvisit found h j (List.mem_cons_of_mem i hj))
      hfirst.complete
    refine ⟨hrest.complete, fun j hj => hrest.kept j (hfirst.kept j hj), ?_, ?_⟩
    · intro j hj
      rcases List.mem_cons.mp hj with rfl | hj
      · exact hrest.kept j (hfirst.visited j (List.mem_singleton.mpr rfl))
      · exact hrest.visited j hj
    · intro k hk
      rcases hrest.only k hk with hk | ⟨j, hj, hjk⟩
      · rcases hfirst.only k hk with hk | ⟨j, hj, hjk⟩
        · exact .inl hk
        · obtain rfl := List.mem_singleton.mp hj
          exact .inr ⟨j, List.mem_cons_self, hjk⟩
      · exact .inr ⟨j, List.mem_cons_of_mem i hj, hjk⟩

/-- A visit that may go deep enough completes the component of its node. The induction is on the
depth; what lies onward reaches fewer nodes, so one step less is deep enough there. -/
theorem completes_visit (hclosed : IsClosed g) (depth : Nat) {found : List (List Nat)}
    (h : AreComplete g found) (hi : i < g.size) (hdepth : (reachable g i).card ≤ depth) :
    Completes g found [i] (visit g depth found i) := by
  induction depth generalizing found i with
  | zero =>
    -- Every node reaches itself at least.
    have hmem : i ∈ reachable g i := by
      simp only [reachable, Finset.mem_filter, Finset.mem_range, leadsTo_iff]
      exact ⟨hi, .refl⟩
    exact absurd hdepth (Nat.not_le_of_lt (Finset.card_pos.mpr ⟨i, hmem⟩))
  | succ depth ih =>
    rw [visit]
    split
    · rename_i hfound
      refine ⟨h, fun j hj => hj, fun j hj => ?_, fun j hj => .inl hj⟩
      obtain rfl := List.mem_singleton.mp hj
      exact List.contains_iff_mem.mp hfound
    · rename_i hnot
      rw [List.contains_iff_mem] at hnot
      -- What lies onward is reached from `i` and does not lead back.
      have honward : ∀ k ∈ onward g (component g i),
          ReflTransGen (Edge g) i k ∧ ¬ ReflTransGen (Edge g) k i := by
        intro k hk
        obtain ⟨⟨j, hj, hedge⟩, hnotmem⟩ := (mem_onward_component_iff hclosed hi).mp hk
        have hik : ReflTransGen (Edge g) i k := hj.1.tail hedge
        exact ⟨hik, fun hki => hnotmem ⟨hik, hki⟩⟩
      have hrec : Completes g found (onward g (component g i))
          ((onward g (component g i)).foldl (visit g depth) found) := by
        refine completes_foldl (fun found hfound k hk => ?_) h
        obtain ⟨hik, hki⟩ := honward k hk
        have hlt := Nat.lt_of_lt_of_le (card_reachable_lt hi hik hki) hdepth
        exact ih hfound (hclosed.lt_of_reflTransGen hi hik) (Nat.le_of_lt_succ hlt)
      -- When all that lies onward is found, the component itself is the only one that is missing.
      have hlater := hrec.complete.append hclosed hi ?notFound ?neighbours
      case notFound =>
        intro hfound
        rcases hrec.only i hfound with hfound | ⟨k, hk, hki⟩
        · exact hnot hfound
        · exact (honward k hk).2 hki
      case neighbours =>
        intro j hj k hedge
        by_cases hk : Connected g i k
        · exact .inl hk
        · exact .inr (hrec.visited k
            ((mem_onward_component_iff hclosed hi).mpr ⟨⟨j, hj, hedge⟩, hk⟩))
      refine ⟨hlater, fun j hj => ?_, fun j hj => ?_, fun j hj => ?_⟩
      · rw [List.flatten_append, List.mem_append]
        exact .inl (hrec.kept j hj)
      · obtain rfl := List.mem_singleton.mp hj
        rw [List.flatten_append, List.mem_append, List.flatten_singleton]
        exact .inr ((mem_component_iff hclosed hi).mpr (.refl g j))
      · rw [List.flatten_append, List.mem_append, List.flatten_singleton,
          mem_component_iff hclosed hi] at hj
        rcases hj with hj | hj
        · rcases hrec.only j hj with hj | ⟨k, hk, hkj⟩
          · exact .inl hj
          · exact .inr ⟨i, List.mem_singleton.mpr rfl, (honward k hk).1.trans hkj⟩
        · exact .inr ⟨i, List.mem_singleton.mpr rfl, hj.1⟩

/-! ### The search in use -/

/-- The components that depth-first visits to all nodes find are those of the graph. In the end
every node is found, and that is all there is. -/
theorem areComponents_depthFirstComponents (hclosed : IsClosed g) :
    AreComponents g (depthFirstComponents g) := by
  have hall : Completes g [] (List.range g.size) (depthFirstComponents g) :=
    completes_foldl (fun found hfound i hi =>
      completes_visit hclosed g.size hfound (List.mem_range.mp hi) (card_reachable_le g i)) (.nil g)
  refine ⟨?_, hall.complete.nonempty, hall.complete.connected, hall.complete.order⟩
  refine (List.perm_ext_iff_of_nodup hall.complete.nodup List.nodup_range).mpr fun i => ?_
  exact ⟨fun hi => List.mem_range.mpr (hall.complete.lt i hi), hall.visited i⟩

/-- The search in use keeps the laws that a schedule relies on. -/
theorem Search.isLawful_depthFirst : Search.depthFirst.IsLawful where
  components _ hclosed := areComponents_depthFirstComponents hclosed
  shortest _ _ _ _ _ hpath := isShortestWalk_of_shortestPath?_eq_some hpath
  found _ _ _ _ _ _ hreach := isSome_shortestPath?_iff.mpr hreach

end Fixtures.Schedule
