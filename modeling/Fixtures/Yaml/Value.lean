import Fixtures.Document
import Fixtures.Yaml.Node.Anchor
import Fixtures.Yaml.Node.Grammar
import Fixtures.Yaml.Scalar.Word
import Fixtures.Yaml.Token.Lexer

/-!
# `Fixtures.Yaml.Value`: YAML as a document

A value is a node together with what it takes to follow the aliases in it. A reader that knows
what it wants takes any scalar for a text, whatever its style and its tag; a plain scalar for a
truth value or for nothing; and the empty plain scalar for a list or a record without parts. A
list is no record. A word for a choice may also stand as the tag of nothing.

A value that is settled before it is asked for may not have a tag of its own kind, may not be
nested too deep, and may not follow too many aliases.
-/

set_option autoImplicit false

namespace Fixtures.Yaml

/-- A node and what the aliases in it refer to. -/
structure Value where
  node : Node Nat
  /-- The anchored nodes of the document, the last first. -/
  anchored : List (Nat × Node Nat)
  /-- How many aliases may be followed when a value is settled. -/
  jumps : Nat
  /-- How deep collections may still be nested. -/
  depth : Nat

/-- How deep collections may be nested. -/
def maxDepth : Nat := 128

/-- How many aliases may be followed for each part of a document. -/
def jumpsPerPart : Nat := 100

namespace Value

/-! ### Parts -/

/-- Another node of the same document, inside as many collections. -/
def beside (v : Value) (n : Node Nat) : Value := { v with node := n }

/-- A node that is one collection deeper. -/
def inside (v : Value) (n : Node Nat) : Value := { v with node := n, depth := v.depth - 1 }

/-- The node itself, or the one that it refers to. -/
def target (v : Value) : Node Nat :=
  match v.node with
  | .reference i => (v.anchored.lookup i).getD .absent
  | node => node

/-- A tag that is not of the format. -/
def localTag? (p : Properties Nat) : Option String :=
  p.tag.bind fun tag =>
    match tag.toList with
    | ['!'] => some tag
    | '!' :: name => some (String.ofList name)
    | _ => none

/-! ### Asking for a kind -/

def text? (v : Value) : Option String :=
  match v.target with
  | .scalar _ _ text => some text
  | _ => none

/-- A truth value is plain, or a literal block with the tag for truth values. -/
def truth? (v : Value) : Option Bool :=
  match v.target with
  | .scalar _ .plain text => Word.truth? text
  | .scalar p .literal text =>
    if p.tag = some (Word.standardTag "bool") then Word.truth? text else none
  | _ => none

def items? (v : Value) : Option (List Value) :=
  match v.target with
  | .list _ items => if v.depth = 0 then none else some (items.map v.inside)
  | .scalar _ .plain "" => some []
  | _ => none

/-- Nothing for a plain scalar that stands for it, and any other value as it is. -/
def nullable? (v : Value) : Option (Option Value) :=
  match v.target with
  | .scalar p .plain text =>
    match p.tag with
    | none => some (if Word.isNothing text then none else some v)
    | some tag =>
      if tag = Word.standardTag "null" then if Word.isNull text then some none else none
      else some (some v)
  | _ => some (some v)

/-- The entries of a map with scalars as keys. -/
def entries? (v : Value) : Option (List (String × Value)) :=
  match v.target with
  | .map _ entries =>
    if v.depth = 0 then none
    else entries.mapM fun e => (v.inside e.1).text?.map (·, v.inside e.2)
  | .scalar _ .plain "" => some []
  | _ => none

def record? (keys : List String) (v : Value) : Option (Record Value) :=
  v.entries?.bind (Record.ofMembers? keys)

/-- The word for a choice: a text, or the tag of nothing. -/
def word? (v : Value) : Option String :=
  match v.target with
  | .scalar p style text =>
    match localTag? p with
    | none => some text
    | some tag => if style = .plain ∧ Word.isNothing text then some tag else none
  | _ => none

/-! ### Settling -/

/-- What a scalar stands for. -/
def scalarContent? (p : Properties Nat) (style : Style) (text : String) : Option Content :=
  match p.tag with
  | some tag => if (localTag? p).isSome then none else Word.settleAs? tag text
  | none => if style = .plain then Word.settle? text else some (.text text)

/-- Follows an alias, as long as that is allowed. -/
def follow (v : Value) (n : Node Nat) : StateT Nat Option (Node Nat) := do
  match n with
  | .reference _ =>
    let jumps ← get
    if jumps = 0 then failure
    set (jumps - 1)
    return (v.beside n).target
  | n => return n

/-- Settles a node that may hold collections nested `depth` deep. -/
def settle (v : Value) : Nat → Node Nat → StateT Nat Option Content
  | depth, n => do
    match ← v.follow n with
    | .reference _ => failure
    | .scalar p style text => scalarContent? p style text
    | .list p items =>
      if (localTag? p).isSome then failure
      match depth with
      | 0 => failure
      | depth + 1 => return .list (← items.mapM (settle v depth))
    | .map p entries =>
      if (localTag? p).isSome then failure
      match depth with
      | 0 => failure
      | depth + 1 =>
        return .table (← entries.mapM fun e => return (← settle v depth e.1, ← settle v depth e.2))

/-- A value with all its parts settled. -/
def content? (v : Value) : Option Content := (v.settle v.depth v.node).run' v.jumps

/-- The text under a key and the other entries of a map, or the head and the tail of a list. -/
def tagged? (key : String) (v : Value) : Option (String × Content) :=
  match v.target with
  | .list p (tag :: rest) =>
    if (localTag? p).isSome || v.depth = 0 then none
    else do
      let tag ← (v.inside tag).text?
      let rest ← rest.mapM fun n => (v.inside n).content?
      return (tag, .list rest)
  | .map p entries =>
    if (localTag? p).isSome || v.depth = 0 then none
    else do
      let keyed ← entries.mapM fun e => (v.inside e.1).content?.map (·, v.inside e.2)
      match keyed.partition fun e => e.1.text? == some key with
      | ([(_, tag)], rest) =>
        let rest ← rest.mapM fun e => e.2.content?.map (e.1, ·)
        return (← tag.text?, .table rest)
      | _ => none
  | _ => none

end Value

instance : Document Value where
  text? := Value.text?
  truth? := Value.truth?
  items? := Value.items?
  nullable? := Value.nullable?
  record? := Value.record?
  entries? := Value.entries?
  word? := Value.word?
  tagged? := Value.tagged?

/-- Reads a text as one document. -/
def Value.ofText? (text : String) : Option Value := do
  let node ← Node.ofTokens? (← Token.ofText? text)
  let (node, _) ← node.number? []
  return { node, anchored := node.anchored.reverse, jumps := jumpsPerPart * node.size,
           depth := maxDepth }

end Fixtures.Yaml
