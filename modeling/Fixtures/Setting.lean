import Fixtures.Double
import Fixtures.NameMap
import Fixtures.Text.LetterCase

/-!
# `Fixtures.Setting`: settings before their types are known

A settings file and the environment give values without knowing what they are wanted for. A
`Setting` is such a value, and it converts as far as that makes sense: a text or a number can
stand for a truth value, a truth value for a number, and every value but a list or a table for a
text.

Settings come in layers, and a later one is put over what is there. Keys do not tell upper from
lower case. A table joins the table under its key; any other value takes the place of what is
there.
-/

set_option autoImplicit false

namespace Fixtures

/-- A value of a settings file or of the environment. -/
inductive Setting where
  /-- A place without a value. -/
  | nothing
  | bool (value : Bool)
  | int (value : Int)
  | real (value : Double)
  | text (value : String)
  | list (items : List Setting)
  | table (entries : List (String × Setting))

namespace Setting

instance : Inhabited Setting := ⟨nothing⟩

/-! ### Conversions -/

/-- The truth value of a word. -/
def boolOfText? (s : String) : Option Bool :=
  let lower := Text.LetterCase.lowerText s
  if ["1", "true", "on", "yes"].contains lower then some true
  else if ["0", "false", "off", "no"].contains lower then some false
  else none

/-- A setting as a truth value. -/
def toBool? : Setting → Option Bool
  | bool b => some b
  | int n => some (n != 0)
  | real x => some !x.isZero
  | text s => boolOfText? s
  | _ => none

/-- A text as an integer from 0 up to 2⁶⁴ − 1: a numeral, or a word for a truth value. -/
def wordOfText? (s : String) : Option Nat :=
  match Integer.wordOfText? s with
  | some n => some n
  | none => (boolOfText? s).map Bool.toNat

/-- A setting as an integer from 0 up to 2⁶⁴ − 1. -/
def toWord? : Setting → Option Nat
  | bool b => some b.toNat
  | int n => if 0 ≤ n then some n.toNat else none
  | real x => some x.toWord
  | text s => wordOfText? s
  | _ => none

/-- A setting as a text. -/
def toText? : Setting → Option String
  | bool b => some (toString b)
  | int n => some (toString n)
  | real x => some x.toText
  | text s => some s
  | _ => none

/-- A setting that may have no value. -/
def optional? {α : Type} (read : Setting → Option α) : Setting → Option (Option α)
  | nothing => some none
  | s => (read s).map some

/-- A table of texts. -/
def toTexts? : Setting → Option (NameMap String)
  | table entries => do
    let texts ← entries.mapM fun e => do return (e.1, ← e.2.toText?)
    return NameMap.ofList texts
  | _ => none

/-- The values that a table gives to keys by name, or a list by their places. -/
def fields? (keys : List String) : Setting → Option (String → Option Setting)
  | table entries => some fun key => entries.lookup key
  | list items => some fun key => (keys.zip items).lookup key
  | _ => none

/-! ### Tables and lists -/

/-- The entries of a table; a value of another kind has none. -/
def entries : Setting → List (String × Setting)
  | table entries => entries
  | _ => []

/-- The items of a list; a value of another kind has none. -/
def items : Setting → List Setting
  | list items => items
  | _ => []

/-- A table with the value under a key changed, or with the change of a default at the end. What is
no table gives way to one. -/
def update (s : Setting) (key : String) (default : Setting) (change : Setting → Setting) :
    Setting :=
  let key := Text.LetterCase.lowerText key
  if s.entries.any fun e => e.1 == key then
    table (s.entries.map fun e => if e.1 = key then (key, change e.2) else e)
  else table (s.entries ++ [(key, change default)])

/-- The place that an index means among some items. A negative one counts from the end. -/
def placeOf (index : Int) (length : Nat) : Nat :=
  (if 0 ≤ index then index else length + index).toNat

/-- A list with the value at a place changed. Before a place behind the end there are places
without a value. What is no list gives way to one. -/
def updateAt (s : Setting) (index : Int) (change : Setting → Setting) : Setting :=
  let place := placeOf index s.items.length
  let items := s.items ++ List.replicate (place + 1 - s.items.length) nothing
  list (items.modify place change)

mutual

/-- Puts a value under a key. -/
def put (key : String) : Setting → Setting → Setting
  | table entries, s => s.update key (table []) fun inner => putAll entries inner
  | value, s => s.update key nothing fun _ => value

/-- Puts entries into a table one after another. -/
def putAll : List (String × Setting) → Setting → Setting
  | [], s => s
  | (key, value) :: rest, s => putAll rest (put key value s)

end

end Setting

end Fixtures
