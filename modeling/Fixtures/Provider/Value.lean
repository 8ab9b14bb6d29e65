import Fixtures.Model
import Fixtures.Provider.EvalFault
import Fixtures.Provider.Expr
import Fixtures.Text.Blank
import Fixtures.Text.LetterCase
import Fixtures.Text.Literal
import Fixtures.Text.Search

/-!
# `Fixtures.Provider.Value`: the values of provider expressions

Values, their text, their equality, and what properties and methods make of them. Lengths and
positions count code points. Equality of fields is that of owner and name, equality of types is
that of the types with their arguments.
-/

set_option autoImplicit false

namespace Fixtures.Provider

open Text

/-- A value of a provider expression. Fields and types come from the inputs, and lists from
properties of types; there is no way to write one of them down. -/
inductive Value where
  | null
  | bool (value : Bool)
  | int (value : Int)
  | text (value : String)
  | list (items : List Value)
  | field (field : ModelField)
  | type (type : TypeMetadata)

namespace Value

instance : Inhabited Value := ⟨null⟩

/-- The kind of a value. -/
def kind : Value → ValueKind
  | null => .null
  | bool _ => .bool
  | int _ => .int
  | text _ => .text
  | list _ => .list
  | field _ => .field
  | type _ => .type

mutual

/-- The text of a value: the name of a field, the written form of a type, and the items of a
list in brackets. -/
def toText : Value → String
  | null => "null"
  | bool true => "true"
  | bool false => "false"
  | int n => toString n
  | text s => s
  | list items => "[" ++ ", ".intercalate (allToText items) ++ "]"
  | field f => f.name
  | type t => t.typeRef.toText

/-- The texts of values. -/
def allToText : List Value → List String
  | [] => []
  | v :: vs => v.toText :: allToText vs

end

mutual

/-- Equality of values; values of different kinds differ. Two fields are the same by owner and
name, and two types by what they are with their arguments. -/
def same : Value → Value → Bool
  | null, null => true
  | bool a, bool b => a = b
  | int a, int b => a = b
  | text a, text b => a = b
  | list as, list bs => allSame as bs
  | field a, field b => a.owner = b.owner && a.name = b.name
  | type a, type b => a.typeRef = b.typeRef
  | _, _ => false

/-- Equality of lists of values, item by item. -/
def allSame : List Value → List Value → Bool
  | [], [] => true
  | a :: as, b :: bs => same a b && allSame as bs
  | _, _ => false

end

/-! ### Operands -/

/-- The truth value that an operation needs. -/
def toBool? (operation : String) : Value → Except EvalFault Bool
  | bool b => .ok b
  | v => .error (.mismatch operation .bool v.kind)

/-- The position that an operation needs. A negative one is an error of its own. -/
def toIndex? (operation : String) : Value → Except EvalFault Nat
  | int n => if n < 0 then .error (.negativeIndex operation n) else .ok n.toNat
  | v => .error (.mismatch operation .int v.kind)

/-- The text that a method needs as an argument. -/
def toText? (method : Method) : Value → Except EvalFault String
  | text s => .ok s
  | v => .error (.mismatch method.word .text v.kind)

/-! ### Operators -/

/-- The least integer. -/
def minInt : Int := -9223372036854775808

/-- The largest integer. -/
def maxInt : Int := 9223372036854775807

/-- The sum of two integers, or the text of one after the other if one is a text. A sum that does
not fit into 64 bits is an error, and does not wrap around. -/
def add : Value → Value → Except EvalFault Value
  | int a, int b => if minInt ≤ a + b ∧ a + b ≤ maxInt then .ok (int (a + b)) else .error .overflow
  | text a, v => .ok (text (a ++ v.toText))
  | v, text b => .ok (text (v.toText ++ b))
  | a, b => .error (.noSum a.kind b.kind)

/-- The item at a position, which has to be one of the list. -/
def item (items : List Value) (position : Value) : Except EvalFault Value := do
  let i ← position.toIndex? "[]"
  match items[i]? with
  | some v => return v
  | none => throw (.indexRange i items.length)

/-- The item of a list at a position. -/
def index (target position : Value) : Except EvalFault Value :=
  match target with
  | list items => item items position
  | v => .error (.mismatch "index" .list v.kind)

/-! ### Properties -/

/-- A property of a field. The type of it is the resolved one, and the declared type is given as a
text. -/
def fieldProperty (f : ModelField) : Property → Except EvalFault Value
  | .name => .ok (text f.name)
  | .constantName => ((Naming.constantName? f.name).mapError .identifier).map text
  | .type => .ok (type f.resolved)
  | .declaredType => .ok (text f.declared.toText)
  | .isTransient => .ok (bool f.isTransient)
  | .owner => .ok (text f.owner)
  | p => .error (.noProperty .field p.word)

/-- A property of a type. Those that do not apply have a value all the same: a class has no enum
constants, so they are the empty list. -/
def typeProperty (t : TypeMetadata) : Property → Except EvalFault Value
  | .simpleName => .ok (text t.simpleName)
  | .qualifiedName => .ok (text t.qualifiedName)
  | .packageName => .ok (text t.packageName)
  | .fixtureName => .ok (text t.fixtureSimpleName)
  | .fixtureQualifiedName => .ok (text t.fixtureName)
  | .isGeneric => .ok (bool t.isGeneric)
  | .isEnum => .ok (bool t.isEnum)
  | .isArray => .ok (bool t.isArray)
  | .isPrimitive => .ok (bool t.isPrimitive)
  | .typeArguments => .ok (list (t.parameters.map fun p => type p.2))
  | .enumConstants => .ok (list (t.enumConstants.map text))
  | p => .error (.noProperty .type p.word)

/-- A property of a value. -/
def property (target : Value) (p : Property) : Except EvalFault Value :=
  match target with
  | field f => fieldProperty f p
  | type t => typeProperty t p
  | v => .error (.noProperty v.kind p.word)

/-! ### Methods -/

/-- A number of code points or of items, as a 64-bit integer. No text in memory is long enough for
it to make a difference. -/
def ofCount (n : Nat) : Value := int (Int64.ofNat n).toInt

/-- The argument of a method at a place. -/
def argument (method : Method) (arguments : List Value) (i : Nat) : Except EvalFault String :=
  match arguments[i]? with
  | some v => v.toText? method
  | none => .error (.missingMethodArgument method.word)

/-- The part of a text from one position up to another, or to its end. Positions count code points,
and one beyond the end of the text is an error. -/
def substring (s : String) (arguments : List Value) : Except EvalFault Value := do
  let word := Method.substring.word
  let chars := s.toList
  let first ← match arguments with
    | [] => throw (.missingIndex word)
    | v :: _ => v.toIndex? word
  let last ← match arguments with
    | _ :: v :: _ => v.toIndex? word
    | _ => pure chars.length
  if last < first ∨ chars.length < last then
    throw (.substringRange first last chars.length)
  return text (String.ofList ((chars.take last).drop first))

/-- A method of a text. It looks at as many arguments as it takes; that there are no others was
seen when it was read. -/
def textMethod (s : String) (method : Method) (arguments : List Value) :
    Except EvalFault Value :=
  match method with
  | .toUpperCase => .ok (text (LetterCase.upperText s))
  | .toLowerCase => .ok (text (LetterCase.lowerText s))
  | .length => .ok (ofCount s.toList.length)
  | .isEmpty => .ok (bool s.toList.isEmpty)
  | .trim => .ok (text (Text.trim s))
  | .contains => do
    let part ← argument method arguments 0
    return bool (occursIn part.toList s.toList)
  | .startsWith => do
    let part ← argument method arguments 0
    return bool (part.toList.isPrefixOf s.toList)
  | .endsWith => do
    let part ← argument method arguments 0
    return bool (part.toList.isSuffixOf s.toList)
  | .replace => do
    let old ← argument method arguments 0
    let new ← argument method arguments 1
    return text (String.ofList (replaceAll old.toList new.toList s.toList))
  | .concat => do
    let part ← argument method arguments 0
    return text (s ++ part)
  | .quote => .ok (text (Literal.encode s))
  | .capitalize => .ok (text (Naming.capitalize s))
  | .substring => substring s arguments
  | .size | .first | .get => .error (.noMethod .text method.word)

/-- A method of a list. The first item of an empty list is `null`, but a position that is not there
is an error. -/
def listMethod (items : List Value) (method : Method) (arguments : List Value) :
    Except EvalFault Value :=
  match method with
  | .size => .ok (ofCount items.length)
  | .isEmpty => .ok (bool items.isEmpty)
  | .first => .ok (items.head?.getD null)
  | .get =>
    match arguments with
    | [] => .error (.missingMethodArgument method.word)
    | position :: _ => item items position
  | _ => .error (.noMethod .list method.word)

/-- A method of a value. -/
def call (target : Value) (method : Method) (arguments : List Value) : Except EvalFault Value :=
  match target with
  | text s => textMethod s method arguments
  | list items => listMethod items method arguments
  | v => .error (.noMethod v.kind method.word)

end Value

end Fixtures.Provider
