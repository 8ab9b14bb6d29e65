import Fixtures.Error
import Fixtures.NameMap
import Fixtures.Schedule.Graph

/-!
# `Fixtures.Schedule`: the order of the passes

Passes depend on each other by name. A `Schedule` groups them into levels: a pass stands one
level above the deepest pass that it depends on, so the passes of one level do not depend on each
other and can run in any order. A pass on a dependency cycle, or behind one, is rejected.

    Order ← Item ← Cart    levels [Order] [Item] [Cart]
    A ⇄ B ← C              A and B on a cycle, C behind it

Passes are told by their place in the list. The strongly connected components of their graph are
settled one by one, dependencies first. A component of several passes is a cycle, and each of them
is rejected with a shortest cycle through it. A pass alone takes its level from a table that holds
the levels of all passes settled before it; where one of its dependencies has none there, it is
rejected too.
-/

set_option autoImplicit false

namespace Fixtures

/-- A pass as the schedule sees it. -/
structure PassNode where
  typeName : String
  /-- What the pass depends on, as a set: neither order nor repetitions matter. -/
  dependsOn : List String
deriving DecidableEq

/-- The order of some passes. -/
structure Schedule where
  /-- The places of the passes that run, level by level. -/
  levels : List (List Nat)
  /-- The places of the passes that do not run, and why. -/
  rejected : List (Nat × FixtureError)

namespace Schedule

/-! ### The dependency graph -/

/-- The places of the passes by name; of several passes of one name the last one counts. -/
def places (nodes : List PassNode) : NameMap Nat :=
  .ofList (nodes.zipIdx.map fun node => (node.1.typeName, node.2))

/-- The names that a pass depends on in ascending order, each once. -/
def dependencyNames (node : PassNode) : List String :=
  (NameMap.ofList (node.dependsOn.map fun name => (name, ()))).names

/-- The graph with the edge from one name to another, if both have places and not the same. -/
def connect (index : NameMap Nat) (g : Graph) (source target : String) : Graph :=
  match index.get? source, index.get? target with
  | some i, some j => if j != i then addEdge g i j else g
  | _, _ => g

/-- The dependency graph. Dependencies on other names and on the pass itself are left out. -/
def graph (nodes : List PassNode) : Graph :=
  nodes.foldl
    (fun g node => (dependencyNames node).foldl (connect (places nodes) · node.typeName) g)
    (Array.replicate nodes.length [])

/-- The name of the pass at a place. -/
def nameAt (nodes : List PassNode) (i : Nat) : String :=
  (nodes[i]?.map (·.typeName)).getD ""

/-! ### Cycles -/

/-- Puts an item before the first one whose number is not less. -/
def insertOn {α : Type} (key : α → Nat) (a : α) : List α → List α
  | [] => [a]
  | b :: rest => if key a ≤ key b then a :: b :: rest else b :: insertOn key a rest

/-- The items in ascending order of their numbers; those of one number stay in their order. -/
def sortOn {α : Type} (key : α → Nat) (items : List α) : List α :=
  items.foldr (insertOn key) []

/-- A shortest cycle through a pass, from it and back to it: a path back from each successor is
looked for, and the first of the shortest ones is taken. -/
def cycleThrough (search : Search) (g : Graph) (start : Nat) : List Nat :=
  let paths := (sortOn id (next g start)).filterMap fun i => search.path? g i start
  match List.minOn? List.length paths with
  | some path => start :: path
  | none => [start, start]

/-! ### Levels -/

/-- What is known of the passes that are settled: their levels, and which are rejected. -/
structure Progress where
  depth : Array (Option Nat)
  rejected : List (Nat × FixtureError)

/-- The level of a pass, if it is known. -/
def depthAt (depth : Array (Option Nat)) (i : Nat) : Option Nat := depth[i]?.getD none

/-- One more than the highest level of some passes, if the levels of all of them are known. -/
def levelAbove? (depth : Array (Option Nat)) (below : List Nat) : Option Nat :=
  below.foldlM (fun level j => (depthAt depth j).map fun d => max level (d + 1)) 0

/-- Settles the passes of one component. -/
def settle (search : Search) (nodes : List PassNode) (g : Graph) (p : Progress)
    (component : List Nat) : Progress :=
  if component.length > 1 then
    let cycles := component.map fun i =>
      (i, FixtureError.cycle ((cycleThrough search g i).map (nameAt nodes)))
    { p with rejected := p.rejected ++ cycles }
  else
    match component with
    | [] => p
    | i :: _ =>
      match levelAbove? p.depth (next g i) with
      | some level => { p with depth := p.depth.setIfInBounds i (some level) }
      | none => { p with rejected := p.rejected ++ [(i, .behindCycle (nameAt nodes i))] }

/-- Adds a pass to a level; levels up to this one are added as needed. -/
def addToLevel (levels : List (List Nat)) (level i : Nat) : List (List Nat) :=
  (levels ++ List.replicate (level + 1 - levels.length) []).modify level (· ++ [i])

/-- The passes by level. -/
def levelsOf (depth : Array (Option Nat)) : List (List Nat) :=
  depth.toList.zipIdx.foldl
    (fun levels entry =>
      match entry.1 with
      | some level => addToLevel levels level entry.2
      | none => levels) []

/-! ### Schedules -/

/-- What is known of all passes in the end, when the components are settled in their order. -/
def settleAll (search : Search) (nodes : List PassNode) : Progress :=
  let g := graph nodes
  (search.components g).foldl (settle search nodes g)
    { depth := Array.replicate nodes.length none, rejected := [] }

/-- The schedule of some passes by a search. -/
def arrange (search : Search) (nodes : List PassNode) : Schedule :=
  let known := settleAll search nodes
  { levels := levelsOf known.depth, rejected := sortOn (·.1) known.rejected }

/-- The schedule of some passes. -/
def ofNodes (nodes : List PassNode) : Schedule := arrange .depthFirst nodes

end Schedule

end Fixtures
