import Fixtures.Naming

/-!
# `Fixtures.Provider.EvalFault`: why an evaluation has no value

The kinds of values that messages speak of, and the causes of a failed evaluation.
-/

set_option autoImplicit false

namespace Fixtures.Provider

/-- The kinds of values. -/
inductive ValueKind where
  | null | bool | int | text | list | field | type
deriving DecidableEq

/-- The name of a kind in messages. -/
def ValueKind.label : ValueKind → String
  | null => "null"
  | bool => "boolean"
  | int => "integer"
  | text => "string"
  | list => "list"
  | field => "field"
  | type => "type"

/-- Why an evaluation has no value. -/
inductive EvalFault where
  /-- An operand or argument of the wrong kind. -/
  | mismatch (operation : String) (expected found : ValueKind)
  /-- A sum beyond 64 bits. -/
  | overflow
  /-- A sum of values of which none is a text. -/
  | noSum (left right : ValueKind)
  | noProperty (kind : ValueKind) (word : String)
  | noMethod (kind : ValueKind) (word : String)
  | negativeIndex (operation : String) (index : Int)
  | indexRange (index : Int) (size : Nat)
  | substringRange (first last : Int) (length : Nat)
  /-- A name that has no constant name. -/
  | identifier (fault : IdentifierFault)
  /-- A built-in without its argument. -/
  | missingArgument (function : String)
  /-- A method without one of its arguments. -/
  | missingMethodArgument (method : String)
  /-- A method without the position it needs. -/
  | missingIndex (operation : String)
deriving DecidableEq

namespace EvalFault

/-- The fault in words. -/
def detail : EvalFault → String
  | mismatch operation expected found =>
    operation ++ ": expected " ++ expected.label ++ ", found " ++ found.label
  | overflow => "integer overflow in '+'"
  | noSum left right => "'+' cannot combine " ++ left.label ++ " and " ++ right.label
  | noProperty kind word => kind.label ++ " has no property '" ++ word ++ "'"
  | noMethod kind word => kind.label ++ " has no method '" ++ word ++ "'"
  | negativeIndex operation index => operation ++ ": negative index " ++ toString index
  | indexRange index size =>
    "index " ++ toString index ++ " out of range for size " ++ toString size
  | substringRange first last length =>
    "substring(" ++ toString first ++ ", " ++ toString last ++ ") out of range for length "
      ++ toString length
  | identifier fault => fault.message
  | missingArgument function => function ++ "() is missing its argument"
  | missingMethodArgument method => method ++ "() is missing an argument"
  | missingIndex operation => operation ++ ": missing index"

/-- The message of the fault. -/
def message (fault : EvalFault) : String :=
  "Provider evaluation failed: " ++ fault.detail

end EvalFault

end Fixtures.Provider
