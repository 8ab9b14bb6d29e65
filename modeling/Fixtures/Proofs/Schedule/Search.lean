import Fixtures.Schedule.Graph
import Mathlib.Data.List.Chain
import Mathlib.Data.List.Duplicate
import Mathlib.Logic.Relation

/-!
# `Fixtures.Proofs.Schedule.Search`: what a schedule may rely on in a search

A `Search` answers by an algorithm that nobody sees. `Search.IsLawful` is what its documentation
promises, said by edges and walks alone:

* the components divide the nodes; two nodes are in one component when each can be reached from
  the other; and no edge leads from a component into a later one;
* a path that is found is a walk of fewest nodes, and one is found wherever there is a walk.

Neither the order of components that do not lead to each other, nor the order of the nodes in a
component, nor the choice among walks of one length is promised. What is proved of schedules from
these laws holds whatever they are. `Components` shows that the search in use is lawful.

A promise holds for graphs whose edges lead to nodes (`IsClosed`). Any array of lists is a `Graph`
here, and with an edge to nowhere the components could not be closed.
-/

set_option autoImplicit false

namespace Fixtures.Schedule

open Relation

/-! ### Edges and walks -/

/-- An edge leads from one node to another. The order of the edges of a node, which a search may go
by, is not visible here. -/
def Edge (g : Graph) (i j : Nat) : Prop := j ∈ next g i

/-- The edges of a graph lead to its nodes. A number beyond them is a node of no component, so a
search cannot be asked anything of a graph that is not closed. -/
def IsClosed (g : Graph) : Prop := ∀ i j, Edge g i j → j < g.size

/-- Two nodes can be reached from each other. This is an equivalence, and its classes are the
strongly connected components. -/
def Connected (g : Graph) (i j : Nat) : Prop :=
  ReflTransGen (Edge g) i j ∧ ReflTransGen (Edge g) j i

/-- The nodes of a walk from one node to another, both included. A single node is a walk to itself.
A walk may meet a node more than once; a shortest one does not. -/
structure IsWalk (g : Graph) (i j : Nat) (path : List Nat) : Prop where
  head : path.head? = some i
  last : path.getLast? = some j
  chain : path.IsChain (Edge g)

variable {g : Graph} {i j k : Nat} {path : List Nat}

/-- A node with an edge from it is in the graph. -/
theorem Edge.left_lt (h : Edge g i j) : i < g.size := by
  by_contra hge
  rw [Edge, next, Array.getElem?_eq_none (Nat.le_of_not_lt hge)] at h
  cases h

/-- What can be reached from a node of a closed graph is a node. -/
theorem IsClosed.lt_of_reflTransGen (h : IsClosed g) (hi : i < g.size)
    (hij : ReflTransGen (Edge g) i j) : j < g.size := by
  rcases hij.cases_tail with rfl | ⟨k, -, hkj⟩
  · exact hi
  · exact h k j hkj

namespace Connected

/-- Every node is connected with itself. -/
theorem refl (g : Graph) (i : Nat) : Connected g i i := ⟨.refl, .refl⟩

/-- It does not matter which of two connected nodes comes first. -/
theorem symm (h : Connected g i j) : Connected g j i := ⟨h.2, h.1⟩

/-- Nodes connected with one node are connected with each other. -/
theorem trans (hij : Connected g i j) (hjk : Connected g j k) : Connected g i k :=
  ⟨hij.1.trans hjk.1, hjk.2.trans hij.2⟩

end Connected

namespace IsWalk

/-- A node is a walk of no edges. -/
theorem singleton (g : Graph) (i : Nat) : IsWalk g i i [i] where
  head := rfl
  last := rfl
  chain := .singleton i

/-- A walk begins with its first node. -/
theorem exists_eq_cons (h : IsWalk g i j path) : ∃ rest, path = i :: rest :=
  List.head?_eq_some_iff.mp h.head

/-- An edge in front of a walk makes it longer by one. -/
theorem cons (hij : Edge g i j) (h : IsWalk g j k path) : IsWalk g i k (i :: path) := by
  obtain ⟨rest, rfl⟩ := h.exists_eq_cons
  exact ⟨rfl, by rw [List.getLast?_cons_cons]; exact h.last,
    List.isChain_cons_cons.mpr ⟨hij, h.chain⟩⟩

/-- A walk of more than one node begins with an edge. -/
theorem of_cons_cons {b : Nat} {rest : List Nat} (h : IsWalk g i k (j :: b :: rest)) :
    Edge g i b ∧ IsWalk g b k (b :: rest) := by
  obtain rfl : j = i := Option.some.inj h.head
  obtain ⟨hedge, hrest⟩ := List.isChain_cons_cons.mp h.chain
  exact ⟨hedge, rfl, by rw [← h.last, List.getLast?_cons_cons], hrest⟩

/-- Where a walk leads, its end can be reached. -/
theorem reflTransGen (h : IsWalk g i j path) : ReflTransGen (Edge g) i j := by
  induction path generalizing i with
  | nil => cases h.head
  | cons a rest ih =>
    cases rest with
    | nil =>
      obtain rfl : a = i := Option.some.inj h.head
      obtain rfl : a = j := Option.some.inj h.last
      exact .refl
    | cons b rest =>
      obtain ⟨hedge, hrest⟩ := h.of_cons_cons
      exact .head hedge (ih hrest)

/-- A walk that meets a node twice goes around in between, and is not a shortest one. What lies
between the two is left out. -/
theorem exists_shorter (h : IsWalk g i j path) (htwice : ¬ path.Nodup) :
    ∃ other, IsWalk g i j other ∧ other.length < path.length := by
  obtain ⟨a, ha⟩ := List.exists_duplicate_iff_not_nodup.mpr htwice
  obtain ⟨first, second, rfl, hfirst, hsecond⟩ :=
    List.cons_sublist_iff.mp (List.duplicate_iff_sublist.mp ha)
  obtain ⟨before, round, rfl⟩ := List.append_of_mem hfirst
  obtain ⟨back, after, rfl⟩ := List.append_of_mem (List.singleton_sublist.mp hsecond)
  -- Without the round from `a` back to `a` it is still a walk.
  have hchain : (before ++ a :: (round ++ back ++ a :: after)).IsChain (Edge g) := by
    simpa using h.chain
  obtain ⟨hbefore, hrest⟩ := List.isChain_split.mp hchain
  have hafter := (List.isChain_split.mp (show ((a :: (round ++ back)) ++ a :: after).IsChain
    (Edge g) from hrest)).2
  refine ⟨before ++ a :: after, ⟨?_, ?_, List.isChain_split.mpr ⟨hbefore, hafter⟩⟩, ?_⟩
  · rw [← h.head]
    cases before with
    | nil => rfl
    | cons b before => rfl
  · rw [← h.last, List.getLast?_append_cons, List.getLast?_append_of_ne_nil _ (by simp),
      List.getLast?_append_cons]
  · simp only [List.length_append, List.length_cons]
    omega

end IsWalk

/-- A node can be reached from another one when a walk leads there. So the laws can speak of walks
where a length matters, and of the closure of the edges where it does not. -/
theorem exists_isWalk_iff : (∃ path, IsWalk g i j path) ↔ ReflTransGen (Edge g) i j := by
  constructor
  · rintro ⟨path, h⟩
    exact h.reflTransGen
  · intro h
    induction h using ReflTransGen.head_induction_on with
    | refl => exact ⟨[j], .singleton g j⟩
    | head hedge _ ih =>
      obtain ⟨path, hpath⟩ := ih
      exact ⟨_, hpath.cons hedge⟩

/-- The path is a walk from one node to another, and no other walk there has fewer nodes. There may
be several of them. -/
def IsShortestWalk (g : Graph) (i j : Nat) (path : List Nat) : Prop :=
  IsWalk g i j path ∧ ∀ other, IsWalk g i j other → path.length ≤ other.length

/-- A shortest walk meets no node twice. The cycles that are made of such walks therefore meet each
pass once. -/
theorem IsShortestWalk.nodup (h : IsShortestWalk g i j path) : path.Nodup := by
  by_contra htwice
  obtain ⟨other, hother, hlt⟩ := h.1.exists_shorter htwice
  exact absurd (h.2 other hother) (Nat.not_le_of_lt hlt)

/-! ### Laws -/

/-- What a search promises of the components that it finds in a graph. Among the components, and
within each of them, any order is allowed in which no edge leads to a later component. -/
structure AreComponents (g : Graph) (components : List (List Nat)) : Prop where
  /-- Each node is in one component, once. -/
  perm : components.flatten.Perm (List.range g.size)
  /-- No component is empty. -/
  nonempty : ∀ c ∈ components, c ≠ []
  /-- With a node, its component has the nodes that are connected with it. -/
  connected : ∀ c ∈ components, ∀ i ∈ c, ∀ j, j ∈ c ↔ Connected g i j
  /-- No edge leads from a component into a later one. -/
  order : components.Pairwise fun c d => ∀ i ∈ c, ∀ j ∈ d, ¬ Edge g i j

/-- What a schedule may rely on in a search. Nothing is asked on graphs that are not closed, nor of
paths from or to what is no node. -/
structure Search.IsLawful (search : Search) : Prop where
  /-- The components of a graph are found, dependencies first. -/
  components : ∀ g, IsClosed g → AreComponents g (search.components g)
  /-- A path that is found is a walk of fewest nodes. -/
  shortest : ∀ g, IsClosed g → ∀ i j path,
    search.path? g i j = some path → IsShortestWalk g i j path
  /-- Between nodes of the graph a path is found if there is a walk. -/
  found : ∀ g, IsClosed g → ∀ i < g.size, ∀ j < g.size,
    ReflTransGen (Edge g) i j → (search.path? g i j).isSome

end Fixtures.Schedule
