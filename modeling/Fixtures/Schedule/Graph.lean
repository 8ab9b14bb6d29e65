/-!
# `Fixtures.Schedule.Graph`: dependency graphs and the two searches on them

A schedule asks two questions of its dependency graph: which nodes lead to each other, and how to
get from one node to another by as few edges as possible. The answers come from a `Search`, and a
schedule can be made with any. A graph library provides them by an algorithm of its own; what is
known of its answers is stated apart from any algorithm (`Search.IsLawful`).

`Search.depthFirst` is the one in use. Its components come in the order in which a depth-first walk
is done with them: a component is complete when everything that it leads to is. Its paths go down
the layers of nodes around the target, by the first edge that leads one layer down.
-/

set_option autoImplicit false

namespace Fixtures.Schedule

/-! ### Graphs -/

/-- A graph on the numbers below its size. For each node it lists those that an edge leads to, the
edge that was added last first. -/
abbrev Graph := Array (List Nat)

/-- The nodes that an edge from the node leads to. -/
def next (g : Graph) (i : Nat) : List Nat := g[i]?.getD []

/-- The graph with one more edge. An edge that is there already keeps its place. -/
def addEdge (g : Graph) (i j : Nat) : Graph :=
  if (next g i).contains j then g else g.modify i (j :: ·)

/-! ### Searches -/

/-- The searches of a graph that a schedule rests on. -/
structure Search where
  /-- The strongly connected components, each as the list of its nodes. A component comes after
  those that it leads to. -/
  components : Graph → List (List Nat)
  /-- A path of fewest edges from one node to another, with both ends on it. -/
  path? : Graph → Nat → Nat → Option (List Nat)

/-! ### Shortest paths -/

theorem length_lt_of_partition {p : Nat → Bool} {left yes no : List Nat} {i : Nat}
    (h : left.partition p = (i :: yes, no)) : no.length < left.length := by
  rw [List.partition_eq_filter_filter, Prod.mk.injEq] at h
  have hlen := List.length_eq_countP_add_countP p (l := left)
  have hyes := congrArg List.length h.1
  rw [← List.countP_eq_length_filter, List.length_cons] at hyes
  have hno := congrArg List.length h.2
  rw [← List.countP_eq_length_filter] at hno
  simp only [Function.comp_def] at hno
  simp only [decide_not, Bool.decide_eq_true] at hlen
  omega

/-- The unseen nodes in layers around `inner`: from each node of a layer an edge leads into the
layer before it. -/
def layers (g : Graph) (inner unseen : List Nat) : List (List Nat) :=
  match h : unseen.partition fun i => (next g i).any inner.contains with
  | ([], _) => []
  | (i :: layer, rest) =>
    have := length_lt_of_partition h
    (i :: layer) :: layers g (i :: layer) rest
termination_by unseen.length

/-- The path from a node inwards through layers, by the first edge that leads into each. -/
def descend (g : Graph) : List (List Nat) → Nat → List Nat
  | [], i => [i]
  | layer :: inner, i =>
    match (next g i).find? layer.contains with
    | none => [i]
    | some j => i :: descend g inner j

/-- The path inwards from the layer in which a node stands. The layers passed already are in
`inner`, the last one first. -/
def pathThrough? (g : Graph) (start : Nat) (inner : List (List Nat)) :
    List (List Nat) → Option (List Nat)
  | [] => none
  | layer :: outer =>
    if layer.contains start then some (descend g inner start)
    else pathThrough? g start (layer :: inner) outer

/-- A shortest path from one node to another. Of several the one is taken that turns to the
earliest neighbour first. -/
def shortestPath? (g : Graph) (start target : Nat) : Option (List Nat) :=
  let others := (List.range g.size).filter (· != target)
  pathThrough? g start [] ([target] :: layers g [target] others)

/-! ### Components -/

/-- Whether some path leads from one node to another. -/
def leadsTo (g : Graph) (i j : Nat) : Bool := (shortestPath? g i j).isSome

/-- The nodes that lead to a node and that it leads to, the node itself last. -/
def component (g : Graph) (i : Nat) : List Nat :=
  ((List.range g.size).filter fun j => j != i && leadsTo g i j && leadsTo g j i) ++ [i]

/-- The nodes that an edge leads to out of a component. -/
def onward (g : Graph) (members : List Nat) : List Nat :=
  (members.flatMap (next g)).filter fun j => !members.contains j

/-- Goes through everything that a node leads to and then adds its component, unless it is found
already. No walk out of components is longer than the first argument says. -/
def visit (g : Graph) : Nat → List (List Nat) → Nat → List (List Nat)
  | 0, found, _ => found
  | depth + 1, found, i =>
    if found.flatten.contains i then found
    else
      let members := component g i
      (onward g members).foldl (visit g depth) found ++ [members]

/-- The components of a graph as the walks from its nodes complete them. -/
def depthFirstComponents (g : Graph) : List (List Nat) :=
  (List.range g.size).foldl (visit g g.size) []

/-- The search that goes depth first through components and by layers along paths. -/
def Search.depthFirst : Search where
  components := depthFirstComponents
  path? := shortestPath?

end Fixtures.Schedule
