import Fixtures.Yaml.Token

/-!
# `Fixtures.Yaml.Node`: the tree of a document

A document as it is written: scalars with their style, lists and maps, each with a tag or an
anchor if it has one, and aliases. What an alias refers to an anchor by is the parameter `ρ`: the
name, as it is written, or what is known to tell anchors apart.
-/

set_option autoImplicit false

namespace Fixtures.Yaml

/-- What stands before a node. -/
structure Properties (ρ : Type) where
  anchor : Option ρ := none
  tag : Option String := none

/-- A node of a document. -/
inductive Node (ρ : Type) where
  | reference (anchor : ρ)
  | scalar (properties : Properties ρ) (style : Style) (text : String)
  | list (properties : Properties ρ) (items : List (Node ρ))
  | map (properties : Properties ρ) (entries : List (Node ρ × Node ρ))

namespace Node

variable {ρ : Type}

/-- The node where none is written. -/
def absent : Node ρ := scalar {} .plain ""

instance : Inhabited (Node ρ) := ⟨absent⟩

mutual

/-- The number of parts of a node in the order of reading: a scalar and an alias are one each,
and a collection has a start and an end. -/
def size : Node ρ → Nat
  | reference _ => 1
  | scalar .. => 1
  | list _ items => sizeAll items + 2
  | map _ entries => sizeEntries entries + 2

/-- The number of parts of all nodes. -/
def sizeAll : List (Node ρ) → Nat
  | [] => 0
  | n :: rest => n.size + sizeAll rest

/-- The number of parts of all keys and values. -/
def sizeEntries : List (Node ρ × Node ρ) → Nat
  | [] => 0
  | (key, value) :: rest => key.size + value.size + sizeEntries rest

end

end Node

end Fixtures.Yaml
