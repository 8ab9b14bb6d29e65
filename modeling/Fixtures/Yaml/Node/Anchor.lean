import Fixtures.Yaml.Node

/-!
# `Fixtures.Yaml.Node.Anchor`: what aliases refer to

Anchors are told apart by numbers. An anchor has as its number how many names have been seen
before it, and its name means that number from then on, so a name that is used again gets a new
number and the next name the same one. A number means the last node that has it.
-/

set_option autoImplicit false

namespace Fixtures.Yaml.Node

/-- The numbers that names mean at some place. -/
abbrev Names := List (String × Nat)

/-- Gives a number to a name. -/
def Names.insert (name : String) (names : Names) : Names :=
  (name, names.length) :: names.filter fun e => e.1 != name

/-- Numbers the anchor of a node. -/
def numberProperties (p : Properties String) (names : Names) : Properties Nat × Names :=
  match p.anchor with
  | none => (⟨none, p.tag⟩, names)
  | some name => (⟨some names.length, p.tag⟩, names.insert name)

mutual

/-- Numbers the anchors of a node and of what is in it. An alias has to have a meaning. -/
def number? (names : Names) : Node String → Option (Node Nat × Names)
  | reference name => (names.lookup name).map (reference ·, names)
  | scalar p style text =>
    let (p, names) := numberProperties p names
    some (scalar p style text, names)
  | list p items =>
    let (p, names) := numberProperties p names
    (numberAll? names items).map fun r => (list p r.1, r.2)
  | map p entries =>
    let (p, names) := numberProperties p names
    (numberEntries? names entries).map fun r => (map p r.1, r.2)

/-- Numbers the anchors of nodes one after another. -/
def numberAll? (names : Names) : List (Node String) → Option (List (Node Nat) × Names)
  | [] => some ([], names)
  | n :: rest => do
    let (n, names) ← number? names n
    let (rest, names) ← numberAll? names rest
    return (n :: rest, names)

/-- Numbers the anchors of keys and values one after another. -/
def numberEntries? (names : Names) :
    List (Node String × Node String) → Option (List (Node Nat × Node Nat) × Names)
  | [] => some ([], names)
  | (key, value) :: rest => do
    let (key, names) ← number? names key
    let (value, names) ← number? names value
    let (rest, names) ← numberEntries? names rest
    return ((key, value) :: rest, names)

end

/-- A node by the number of its anchor. -/
def own (p : Properties Nat) (n : Node Nat) : List (Nat × Node Nat) :=
  match p.anchor with
  | none => []
  | some i => [(i, n)]

mutual

/-- The nodes with an anchor in the order of their starts, each with its number. -/
def anchored : Node Nat → List (Nat × Node Nat)
  | reference _ => []
  | scalar p style text => own p (scalar p style text)
  | list p items => own p (list p items) ++ anchoredAll items
  | map p entries => own p (map p entries) ++ anchoredEntries entries

/-- The nodes with an anchor in nodes. -/
def anchoredAll : List (Node Nat) → List (Nat × Node Nat)
  | [] => []
  | n :: rest => anchored n ++ anchoredAll rest

/-- The nodes with an anchor in keys and values. -/
def anchoredEntries : List (Node Nat × Node Nat) → List (Nat × Node Nat)
  | [] => []
  | (key, value) :: rest => anchored key ++ anchored value ++ anchoredEntries rest

end

end Fixtures.Yaml.Node
