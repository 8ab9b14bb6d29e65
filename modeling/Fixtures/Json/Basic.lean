/-!
# `Fixtures.Json.Basic`: JSON values

A JSON value as it was written: the members of an object keep their order and a key may occur
more than once, so each reader of a record decides what a repeated key means. Integers are the
numbers written without fraction and exponent that fit 64 bits, signed or unsigned; every other
number is a `decimal`, of which only the text is kept.

A text can have the form of JSON and no value: a number beyond the range of a 64-bit float, a
string with half a surrogate pair, brackets nested too deep. Such a part is `unreadable`. It does
no harm where nobody asks for it.
-/

set_option autoImplicit false

namespace Fixtures

/-- A JSON value. -/
inductive Json where
  | null
  | bool (value : Bool)
  | int (value : Int)
  /-- A number with a fraction or an exponent, or an integer out of range. -/
  | decimal (text : String)
  | str (value : String)
  | arr (items : List Json)
  | obj (members : List (String × Json))
  /-- A part that has the form of a value and none. -/
  | unreadable

namespace Json

instance : Inhabited Json := ⟨null⟩

/-! ### Reading a value of one kind -/

def str? : Json → Option String
  | str s => some s
  | _ => none

def bool? : Json → Option Bool
  | bool b => some b
  | _ => none

/-- An integer from 0 up to 2⁶⁴ − 1. -/
def word? : Json → Option Nat
  | int n => if 0 ≤ n ∧ n < UInt64.size then some n.toNat else none
  | _ => none

/-! ### Members of an object -/

/-- The value under a key of an object. -/
def get? (key : String) : Json → Option Json
  | obj members => members.lookup key
  | _ => none

mutual

/-- Whether every part of a value has a value. -/
def isReadable : Json → Bool
  | unreadable => false
  | arr items => allReadable items
  | obj members => membersReadable members
  | _ => true

/-- Whether every part of each value has a value. -/
def allReadable : List Json → Bool
  | [] => true
  | j :: rest => j.isReadable && allReadable rest

/-- Whether every part of the values of members has a value. -/
def membersReadable : List (String × Json) → Bool
  | [] => true
  | (_, j) :: rest => j.isReadable && membersReadable rest

end

mutual

/-- The same value with every repeated key reduced to its last occurrence. -/
def keepLast : Json → Json
  | arr items => arr (keepLastAll items)
  | obj members => obj (keepLastMembers members)
  | other => other

/-- Reduces repeated keys in each value. -/
def keepLastAll : List Json → List Json
  | [] => []
  | j :: rest => j.keepLast :: keepLastAll rest

/-- Reduces repeated keys among members and in their values. -/
def keepLastMembers : List (String × Json) → List (String × Json)
  | [] => []
  | (key, j) :: rest =>
    if rest.any fun m => m.1 == key then keepLastMembers rest
    else (key, j.keepLast) :: keepLastMembers rest

end

end Json

end Fixtures
