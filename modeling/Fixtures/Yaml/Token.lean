/-!
# `Fixtures.Yaml.Token`: the words of YAML

A document as a sequence of tokens. Brackets and indicators are tokens as they are written; what
is only told by layout, the start and the end of block collections and the start of a key, has
tokens of its own. Scalars keep the style in which they are written.
-/

set_option autoImplicit false

namespace Fixtures.Yaml

/-- How a scalar is written. -/
inductive Style where
  | plain
  | quoted
  /-- A block whose line breaks stand. -/
  | literal
  /-- A block whose lines are joined. -/
  | folded
deriving DecidableEq

/-- A token. -/
inductive Token where
  /-- The directive that gives the version of the format. -/
  | version (major minor : Nat)
  /-- The directive that abbreviates tags. -/
  | tagStart (handle start : String)
  | documentStart
  | documentEnd
  | blockListStart
  | blockMapStart
  | blockEnd
  | flowListStart
  | flowListEnd
  | flowMapStart
  | flowMapEnd
  /-- The dash before an item. -/
  | item
  /-- The comma between items in flow style. -/
  | comma
  /-- The start of a key. -/
  | key
  /-- The colon before a value. -/
  | value
  | reference (name : String)
  | anchor (name : String)
  | tag (handle suffix : String)
  | scalar (style : Style) (text : String)
  | streamEnd
deriving DecidableEq

end Fixtures.Yaml
