import Fixtures.Proofs.NameMap
import Fixtures.Proofs.Schedule.Search
import Fixtures.Schedule
import Mathlib.Data.List.Nodup

/-!
# `Fixtures.Proofs.Schedule.Dependency`: the graph says who waits for whom

`DependsOn` is the dependency of passes as their lists name it: a pass depends on another one
whose name is among its dependencies. It knows nothing of places looked up by name, of edges added
one after another or of arrays. `graph` is computed from all of these, and
`mem_next_graph_iff` says that it holds exactly the dependencies, whenever no two passes have one
name. A dependency on the pass itself, or on a name without a pass, is in neither.

The graph is made by two nested loops. What a loop adds to a graph is said once (`Adds.foldl`):
if each round adds certain edges, the loop adds those of all its rounds.

The other modules on schedules reason about `DependsOn` and about lists of neighbours; only this
one opens `places` and `connect`.
-/

set_option autoImplicit false

namespace Fixtures.Schedule

/-- The pass at `i` depends on the other pass at `j`: it names it among its dependencies. Passes
are told by their places, as in the graph. -/
def DependsOn (nodes : List PassNode) (i j : Nat) : Prop :=
  i ≠ j ∧ ∃ a b, nodes[i]? = some a ∧ nodes[j]? = some b ∧ b.typeName ∈ a.dependsOn

namespace DependsOn

variable {nodes : List PassNode} {i j : Nat}

/-- No pass depends on itself. -/
theorem irrefl (i : Nat) : ¬ DependsOn nodes i i := fun h => h.1 rfl

/-- A pass that depends on another one is in the list. -/
theorem left_lt (h : DependsOn nodes i j) : i < nodes.length := by
  obtain ⟨-, a, b, hi, -, -⟩ := h
  exact (List.getElem?_eq_some_iff.mp hi).1

/-- A pass that another one depends on is in the list. -/
theorem right_lt (h : DependsOn nodes i j) : j < nodes.length := by
  obtain ⟨-, a, b, -, hj, -⟩ := h
  exact (List.getElem?_eq_some_iff.mp hj).1

end DependsOn

/-! ### Places -/

/-- Among passes of different names the place decides the pass and the name decides the place.
Everything below that goes from a name to a place rests on this. -/
theorem eq_of_typeName_eq {nodes : List PassNode} (h : (nodes.map (·.typeName)).Nodup)
    {i j : Nat} {a b : PassNode} (hi : nodes[i]? = some a) (hj : nodes[j]? = some b)
    (hab : a.typeName = b.typeName) : i = j := by
  have hlt : i < (nodes.map (·.typeName)).length := by
    simpa using (List.getElem?_eq_some_iff.mp hi).1
  have hget : (nodes.map (·.typeName))[i]? = (nodes.map (·.typeName))[j]? := by
    rw [List.getElem?_map, List.getElem?_map, hi, hj]
    exact congrArg some hab
  exact (List.getElem?_inj hlt h).mp hget

/-- Every pass is found under its name, unless another one has it too. With two passes of one name
only the last one would be found. -/
theorem get?_places_eq_some_iff {nodes : List PassNode} (h : (nodes.map (·.typeName)).Nodup)
    {name : String} {i : Nat} :
    (places nodes).get? name = some i ↔ ∃ a, nodes[i]? = some a ∧ a.typeName = name := by
  have hnames : ((nodes.zipIdx.map fun node => (node.1.typeName, node.2)).map (·.1)).Nodup := by
    rw [List.map_map]
    have hfst : nodes.zipIdx.map ((·.typeName) ∘ (·.1)) = nodes.map (·.typeName) := by
      rw [← List.map_map, List.zipIdx_map_fst]
    exact hfst ▸ h
  rw [places, NameMap.get?_ofList_eq_some_iff hnames, List.mem_map]
  constructor
  · rintro ⟨⟨a, k⟩, hmem, heq⟩
    obtain ⟨hname, rfl⟩ := Prod.mk.inj heq
    exact ⟨a, List.mk_mem_zipIdx_iff_getElem?.mp hmem, hname⟩
  · rintro ⟨a, hi, rfl⟩
    exact ⟨(a, i), List.mk_mem_zipIdx_iff_getElem?.mpr hi, rfl⟩

/-- The dependencies of a pass in ascending order are those that it has. -/
theorem mem_dependencyNames_iff {node : PassNode} {name : String} :
    name ∈ dependencyNames node ↔ name ∈ node.dependsOn := by
  rw [dependencyNames, NameMap.mem_names_ofList_iff, List.map_map]
  simp

/-! ### Edges -/

/-- One graph has the edges of another one on the same nodes, and those of a relation. An edge that
begins at no node is not added, since there is no place for it. -/
structure Adds (E : Nat → Nat → Prop) (g g' : Graph) : Prop where
  size : g'.size = g.size
  mem : ∀ i j, j ∈ next g' i ↔ j ∈ next g i ∨ i < g.size ∧ E i j

/-- Nothing is added by leaving a graph as it is. -/
theorem Adds.refl {E : Nat → Nat → Prop} {g : Graph} (h : ∀ i j, ¬ E i j) : Adds E g g where
  size := rfl
  mem i j := by simp [h i j]

/-- A loop adds what its rounds add. The relation of a round may depend on the item of the round,
but not on the graph that it finds. -/
theorem Adds.foldl {α : Type} {E : α → Nat → Nat → Prop} {f : Graph → α → Graph}
    {items : List α} (h : ∀ g, ∀ a ∈ items, Adds (E a) g (f g a)) (g : Graph) :
    Adds (fun i j => ∃ a ∈ items, E a i j) g (items.foldl f g) := by
  induction items generalizing g with
  | nil => exact .refl fun i j => by simp
  | cons a rest ih =>
    have hfirst := h g a List.mem_cons_self
    have hrest := ih (fun g a ha => h g a (List.mem_cons_of_mem _ ha)) (f g a)
    refine ⟨hrest.size.trans hfirst.size, fun i j => ?_⟩
    rw [List.foldl_cons, hrest.mem, hfirst.mem, hfirst.size, List.exists_mem_cons_iff]
    tauto

/-- An edge is added at the node where it begins. -/
theorem adds_addEdge (g : Graph) (i j : Nat) :
    Adds (fun k l => k = i ∧ l = j) g (addEdge g i j) := by
  unfold addEdge
  split
  · rename_i hmem
    refine ⟨rfl, fun k l => ?_⟩
    constructor
    · exact .inl
    · rintro (hl | ⟨-, rfl, rfl⟩)
      · exact hl
      · exact List.contains_iff_mem.mp hmem
  · refine ⟨Array.size_modify, fun k l => ?_⟩
    unfold next
    rw [Array.getElem?_modify]
    by_cases hk : i = k
    · subst hk
      by_cases hlt : i < g.size
      · simp [hlt, or_comm]
      · simp [hlt]
    · simp [hk, Ne.symm hk]

/-- An edge between the places of two names is added, if both have places and not the same.
Otherwise the graph stays as it is. -/
theorem adds_connect (index : NameMap Nat) (g : Graph) (source target : String) :
    Adds (fun i j => index.get? source = some i ∧ index.get? target = some j ∧ j ≠ i) g
      (connect index g source target) := by
  unfold connect
  split
  · rename_i k l hk hl
    split
    · rename_i hne
      rw [bne_iff_ne] at hne
      obtain ⟨hsize, hmem⟩ := adds_addEdge g k l
      refine ⟨hsize, fun i j => ?_⟩
      rw [hmem, hk, hl]
      simp only [Option.some.injEq]
      refine or_congr_right (and_congr_right fun _ => ?_)
      constructor
      · rintro ⟨rfl, rfl⟩
        exact ⟨rfl, rfl, hne⟩
      · rintro ⟨rfl, rfl, -⟩
        exact ⟨rfl, rfl⟩
    · rename_i heq
      refine .refl fun i j => ?_
      rintro ⟨hi, hj, hne⟩
      rw [hk] at hi
      rw [hl] at hj
      cases hi
      cases hj
      exact heq (bne_iff_ne.mpr hne)
  · rename_i hnone
    exact .refl fun i j hij => hnone i j hij.1 hij.2.1

/-! ### The graph -/

/-- The two loops add an edge for each dependency that a pass names. The outer loop goes over the
passes, and the inner one over the names that a pass depends on. -/
theorem adds_graph (nodes : List PassNode) :
    Adds (fun i j => ∃ node ∈ nodes, ∃ name ∈ dependencyNames node,
        (places nodes).get? node.typeName = some i ∧ (places nodes).get? name = some j ∧ j ≠ i)
      (Array.replicate nodes.length []) (graph nodes) :=
  Adds.foldl (fun g node _ =>
    Adds.foldl (fun g name _ => adds_connect (places nodes) g node.typeName name) g) _

/-- The graph has a node for each pass. -/
@[simp] theorem size_graph (nodes : List PassNode) : (graph nodes).size = nodes.length := by
  rw [(adds_graph nodes).size, Array.size_replicate]

/-- The graph holds exactly the dependencies of the passes on each other. This is the last
statement that speaks of places by name. -/
theorem mem_next_graph_iff {nodes : List PassNode} (h : (nodes.map (·.typeName)).Nodup)
    {i j : Nat} : j ∈ next (graph nodes) i ↔ DependsOn nodes i j := by
  have hstart : j ∉ next (Array.replicate nodes.length []) i := by
    rw [next, Array.getElem?_replicate]
    split
    · exact List.not_mem_nil
    · exact List.not_mem_nil
  rw [(adds_graph nodes).mem, or_iff_right hstart, Array.size_replicate]
  simp only [get?_places_eq_some_iff h, mem_dependencyNames_iff]
  constructor
  · rintro ⟨-, node, hmem, name, hname, ⟨a, hi, ha⟩, ⟨b, hj, rfl⟩, hne⟩
    -- The only pass of its name is the one at its place.
    obtain ⟨k, hk⟩ := List.getElem?_of_mem hmem
    obtain rfl := eq_of_typeName_eq h hk hi ha.symm
    exact ⟨Ne.symm hne, node, b, hk, hj, hname⟩
  · rintro ⟨hne, a, b, hi, hj, hdep⟩
    exact ⟨(List.getElem?_eq_some_iff.mp hi).1, a, List.mem_of_getElem? hi, b.typeName, hdep,
      ⟨a, hi, rfl⟩, ⟨b, hj, rfl⟩, Ne.symm hne⟩

section

variable {nodes : List PassNode} (h : (nodes.map (·.typeName)).Nodup)

include h

/-- The edges of the graph are the dependencies. As an equation of relations it carries walks,
chains and reachability over at once. -/
theorem edge_graph : Edge (graph nodes) = DependsOn nodes := by
  funext i j
  exact propext (mem_next_graph_iff h)

/-- The edges of the graph lead to passes. -/
theorem isClosed_graph : IsClosed (graph nodes) := by
  intro i j hij
  rw [edge_graph h] at hij
  rw [size_graph]
  exact hij.right_lt

/-- No edge leads from a pass to itself. -/
theorem not_edge_graph_self (i : Nat) : ¬ Edge (graph nodes) i i := by
  rw [edge_graph h]
  exact DependsOn.irrefl i

end

end Fixtures.Schedule
