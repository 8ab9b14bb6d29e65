import Fixtures.Document.Content
import Fixtures.NameMap

/-!
# `Fixtures.Document`: what readers ask of a value

Descriptions come in more than one format. What their readers ask of a value is the same for all:
is it a text, a list, a record with these keys? A format answers by an instance of `Document`.

A record is a value with known keys. Unknown keys are passed over, and a known key that occurs
twice is an error. A `Record` is then a partial function from keys to values, from which the
fields are read one by one.
-/

set_option autoImplicit false

namespace Fixtures

/-- The values that a record gives to its keys. -/
abbrev Record (ν : Type) := String → Option ν

namespace Record

variable {ν : Type}

/-- The record of some members, unless one of its keys occurs twice among them. -/
def ofMembers? (keys : List String) (members : List (String × ν)) : Option (Record ν) :=
  if keys.any fun key => 1 < members.countP fun m => m.1 == key then none
  else some fun key => members.lookup key

/-- The record that gives some items to its keys in their order, unless there are more items than
keys. -/
def ofItems? (keys : List String) (items : List ν) : Option (Record ν) :=
  if keys.length < items.length then none
  else some fun key => (keys.zip items).lookup key

/-- The record that gives nothing to any key. -/
def empty : Record ν := fun _ => none

/-- A field that has to be there. -/
def required {α : Type} (r : Record ν) (key : String) (read : ν → Option α) : Option α :=
  (r key).bind read

/-- A field that may be missing. -/
def withDefault {α : Type} (r : Record ν) (key : String) (read : ν → Option α) (default : α) :
    Option α :=
  match r key with
  | none => some default
  | some v => read v

end Record

/-- A kind of values that records are read from. -/
class Document (ν : Type) where
  text? : ν → Option String
  truth? : ν → Option Bool
  items? : ν → Option (List ν)
  /-- Nothing for a value that stands for nothing, and any other value as it is. -/
  nullable? : ν → Option (Option ν)
  /-- The record of some keys. -/
  record? : List String → ν → Option (Record ν)
  /-- The entries of a table of texts. -/
  entries? : ν → Option (List (String × ν))
  /-- The word for one of a few choices. -/
  word? : ν → Option String
  /-- The text under a key of a table or at the front of a list, and the rest, which is settled
  at once because that text tells what is read from it. -/
  tagged? : String → ν → Option (String × Content)

namespace Document

variable {ν : Type} [Document ν]

/-- The items of a list, each read by `read`. -/
def list? {α : Type} (read : ν → Option α) (v : ν) : Option (List α) :=
  (items? v).bind fun items => items.mapM read

/-- A field that may be missing or stand for nothing. -/
def optional {α : Type} (r : Record ν) (key : String) (read : ν → Option α) :
    Option (Option α) :=
  r.withDefault key (fun v => (nullable? v).bind fun
    | none => some none
    | some v => (read v).map some) none

/-- A table of texts; of two equal keys the later one stays. -/
def texts? (v : ν) : Option (NameMap String) := do
  let entries ← (← entries? v).mapM fun e => do return (e.1, ← text? e.2)
  return NameMap.ofList entries

/-- One of a few choices. -/
def choice? {α : Type} (read : String → Option α) (v : ν) : Option α := (word? v).bind read

end Document

/-! ### Settled values -/

namespace Content

/-- A settled value as a record: a table by names or places, or a list in the order of the
keys. -/
def record? (keys : List String) : Content → Option (Record Content)
  | table entries => (members? keys entries).bind fun members => Record.ofMembers? keys members
  | list items => Record.ofItems? keys items
  | _ => none

/-- The entries of a table with texts as keys. -/
def entries? : Content → Option (List (String × Content))
  | table entries => entries.mapM fun e => e.1.text?.map (·, e.2)
  | _ => none

/-- The text under a key and the other entries of a table, or the head and the tail of a list. -/
def tagged? (key : String) : Content → Option (String × Content)
  | table entries =>
    match entries.partition fun e => e.1.text? == some key with
    | ([(_, tag)], rest) => tag.text?.map (·, table rest)
    | _ => none
  | list (tag :: rest) => tag.text?.map (·, list rest)
  | _ => none

end Content

instance : Document Content where
  text? := Content.text?
  truth? := Content.truth?
  items? := Content.items?
  nullable? := Content.nullable?
  record? := Content.record?
  entries? := Content.entries?
  word? := Content.text?
  tagged? := Content.tagged?

end Fixtures
