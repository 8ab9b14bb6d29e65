/-!
# `Fixtures.Document.Content`: values read before they are asked for

A reader that has to look at a whole value before it knows what it is wanted for settles every
part of it at once. What it settles on is `Content`. Of numbers only those are told apart that
can stand for the place of a field.
-/

set_option autoImplicit false

namespace Fixtures

/-- A value of which every part is settled. -/
inductive Content where
  | null
  | bool (value : Bool)
  /-- An integer from 0 up to 2⁶⁴ − 1. -/
  | index (n : Nat)
  /-- Any other number. -/
  | number
  | text (value : String)
  | list (items : List Content)
  | table (entries : List (Content × Content))

namespace Content

instance : Inhabited Content := ⟨null⟩

def text? : Content → Option String
  | text s => some s
  | _ => none

def truth? : Content → Option Bool
  | bool b => some b
  | _ => none

def items? : Content → Option (List Content)
  | list items => some items
  | _ => none

/-- Nothing for `null`, and any other value as it is. -/
def nullable? : Content → Option (Option Content)
  | null => some none
  | c => some (some c)

/-- The key that a content means among those of a record: a text names a key, and an index counts
from the first. A key that the record does not have is passed over; other contents are no
keys. -/
def keyIn? (keys : List String) : Content → Option (Option String)
  | text name => some (if keys.contains name then some name else none)
  | index n => some keys[n]?
  | _ => none

/-- The members that the entries of a table give to a record. -/
def members? (keys : List String) (entries : List (Content × Content)) :
    Option (List (String × Content)) := do
  let members ← entries.mapM fun e => (keyIn? keys e.1).map fun key => key.map (·, e.2)
  return members.filterMap id

end Content

end Fixtures
