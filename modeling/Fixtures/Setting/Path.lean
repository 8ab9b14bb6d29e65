import Fixtures.Setting

/-!
# `Fixtures.Setting.Path`: paths to settings

The keys of a layer of settings are paths: a name, then names behind dots and indices in brackets.

    generation.uuid_seed
    generation.rows[0].name

A key that has another form is a name as a whole.
-/

set_option autoImplicit false

namespace Fixtures.Setting

/-- A step of a path. -/
inductive Step where
  | name (key : String)
  | index (place : Int)

/-- Puts a value at a path. What is in the way of a name gives way to a table, and of an index to
a list. -/
def assign (value : Setting) : List Step → Setting → Setting
  | [], _ => value
  | [.name key], s => put key value s
  | .name key :: path, s => s.update key nothing (assign value path)
  | .index place :: path, s => s.updateAt place (assign value path)

/-! ### Reading a path -/

/-- The characters of names on a path. -/
def isNameChar (c : Char) : Bool := c.isAlphanum || c == '_' || c == '-' || c == ' '

/-- A name at the front, and the rest. -/
def nameAt? (s : List Char) : Option (String × List Char) :=
  let name := s.takeWhile isNameChar
  if name.isEmpty then none else some (String.ofList name, s.dropWhile isNameChar)

/-- Spaces and tabs, which may stand around an index. -/
def isSpace (c : Char) : Bool := c == ' ' || c == '\t'

/-- An index with the bracket behind it, and the rest. -/
def indexAt? (s : List Char) : Option (Int × List Char) := do
  let s := s.dropWhile isSpace
  let isNegative := s.head? == some '-'
  let unsigned := if isNegative then s.drop 1 else s
  let n ← Integer.ofDigits? (unsigned.takeWhile Char.isDigit)
  let value : Int := if isNegative then -n else n
  match (unsigned.dropWhile Char.isDigit).dropWhile isSpace with
  | ']' :: rest =>
    if Integer.least ≤ value ∧ value ≤ Integer.greatest then some (value, rest) else none
  | _ => none

/-- The steps of a path behind its first name; `fuel` bounds their number. -/
def stepsOf? : Nat → List Char → Option (List Step)
  | _, [] => some []
  | 0, _ => none
  | fuel + 1, '.' :: rest => do
    let (name, rest) ← nameAt? rest
    return .name name :: (← stepsOf? fuel rest)
  | fuel + 1, '[' :: rest => do
    let (place, rest) ← indexAt? rest
    return .index place :: (← stepsOf? fuel rest)
  | _, _ => none

/-- A key as a path, if it has the form of one. -/
def path? (key : String) : Option (List Step) := do
  let (name, rest) ← nameAt? key.toList
  return .name name :: (← stepsOf? rest.length rest)

/-- The path that a key means. -/
def pathOf (key : String) : List Step := (path? key).getD [.name key]

/-- Puts the entries of a layer over settings. -/
def overlay (s : Setting) (layer : List (String × Setting)) : Setting :=
  layer.foldl (fun s e => assign e.2 (pathOf e.1) s) s

end Fixtures.Setting
