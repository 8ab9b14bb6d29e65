import Fixtures.Document
import Fixtures.Json.Basic

/-!
# `Fixtures.Json.Record`: records in JSON

A record is an object with known keys, or an array that gives the values of the keys in their
order. A choice is written as its word or as an object with the word as its only key and `null`
under it. What is settled before it is asked for has to be readable in all its parts.
-/

set_option autoImplicit false

namespace Fixtures.Json

/-! ### Reading -/

/-- Reads a value as a record with the given keys. -/
def record? (keys : List String) : Json → Option (Record Json)
  | obj members => Record.ofMembers? keys members
  | arr items => Record.ofItems? keys items
  | _ => none

/-- Nothing for `null`, and any other value as it is. -/
def nullable? : Json → Option (Option Json)
  | null => some none
  | j => some (some j)

def items? : Json → Option (List Json)
  | arr items => some items
  | _ => none

def members? : Json → Option (List (String × Json))
  | obj members => some members
  | _ => none

/-- The word for one of a few choices. -/
def choiceWord? : Json → Option String
  | str s => some s
  | obj [(word, null)] => some word
  | _ => none

mutual

/-- A value with all its parts settled. -/
def content? : Json → Option Content
  | null => some .null
  | bool b => some (.bool b)
  | int n => some (if 0 ≤ n then .index n.toNat else .number)
  | decimal _ => some .number
  | str s => some (.text s)
  | arr items => (contents? items).map .list
  | obj members => (memberContents? members).map .table
  | unreadable => none

/-- Settles each value. -/
def contents? : List Json → Option (List Content)
  | [] => some []
  | j :: rest => do return (← j.content?) :: (← contents? rest)

/-- Settles the values of members. -/
def memberContents? : List (String × Json) → Option (List (Content × Content))
  | [] => some []
  | (key, j) :: rest => do return (.text key, ← j.content?) :: (← memberContents? rest)

end

instance : Document Json where
  text? := str?
  truth? := bool?
  items? := items?
  nullable? := nullable?
  record? := record?
  entries? := members?
  word? := choiceWord?
  tagged? key j := j.content?.bind fun c => c.tagged? key

/-- An object of texts; of two equal keys the later one stays. -/
def texts? : Json → Option (NameMap String) := Document.texts?

/-! ### Writing -/

/-- An object of texts. -/
def ofTexts (m : NameMap String) : Json :=
  obj (m.entries.map fun e => (e.1, str e.2))

/-- An array of texts. -/
def ofStrings (ss : List String) : Json :=
  arr (ss.map str)

/-- A member of an object, left out when there is no value. -/
def optionalMember (key : String) : Option Json → List (String × Json)
  | none => []
  | some j => [(key, j)]

/-- An array as a member of an object, left out when it is empty. -/
def listMember {α : Type} (key : String) (write : α → Json) : List α → List (String × Json)
  | [] => []
  | items => [(key, arr (items.map write))]

end Fixtures.Json
