import Fixtures.Document.Content
import Fixtures.Double
import Fixtures.Text.Hex

/-!
# `Fixtures.Yaml.Scalar.Word`: what plain words stand for

A plain scalar without a tag is settled by its form: a word for nothing, a truth value, a number,
or else a text. Integers are written in base ten or behind the mark of another base; digits with a
zero in front are no number. An integer of more than 64 bits and at most 128 has no value here.
-/

set_option autoImplicit false

namespace Fixtures.Yaml.Word

/-- The words for nothing. -/
def isNull (word : String) : Bool := ["~", "null", "Null", "NULL"].contains word

/-- Whether a plain scalar stands for nothing. -/
def isNothing (word : String) : Bool := word.isEmpty || isNull word

/-- The truth value of a word. -/
def truth? (word : String) : Option Bool :=
  if ["true", "True", "TRUE"].contains word then some true
  else if ["false", "False", "FALSE"].contains word then some false
  else none

/-! ### Numbers -/

/-- Whether a word is two or more digits with a zero in front, perhaps behind a sign. -/
def isZeroPadded (word : List Char) : Bool :=
  match (Integer.splitSign word).2 with
  | '0' :: rest => !rest.isEmpty && rest.all Char.isDigit
  | _ => false

/-- The value of one or more digits in a base up to sixteen. -/
def inBase? (base : Nat) (digits : List Char) : Option Nat := do
  let values ← digits.mapM fun c => (Text.Hex.digit? c).filter (· < base)
  if values.isEmpty then none else some (values.foldl (fun n d => base * n + d) 0)

/-- An integer without its sign. -/
def magnitude? : List Char → Option Nat
  | '0' :: 'x' :: digits => inBase? 16 digits
  | '0' :: 'o' :: digits => inBase? 8 digits
  | '0' :: 'b' :: digits => inBase? 2 digits
  | digits => if isZeroPadded digits then none else inBase? 10 digits

/-- What an integer stands for, by its sign and its magnitude: a value, or none for what has too
many bits for one. It is no integer at all beyond 128 bits. -/
def settleInteger? (isNegative : Bool) (n : Nat) : Option (Option Content) :=
  if isNegative then
    if n ≤ Nat.pow 2 63 then some (some .number) else if n ≤ Nat.pow 2 127 then some none else none
  else if n < Nat.pow 2 64 then some (some (.index n))
  else if n < Nat.pow 2 128 then some none
  else none

/-- What a word stands for that is an integer. -/
def integer? (word : List Char) : Option (Option Content) :=
  let (isNegative, unsigned) := Integer.splitSign word
  (magnitude? unsigned).bind (settleInteger? isNegative)

/-- Whether a word is one of those for infinity and for no number. -/
def isSpecial (word : List Char) : Bool :=
  [".inf", ".Inf", ".INF"].contains (String.ofList (Integer.splitSign word).2)
    || [".nan", ".NaN", ".NAN"].contains (String.ofList word)

/-- Whether a word is a numeral of a finite number. -/
def isNumeral (word : List Char) : Bool :=
  (Decimal.ofChars? word).any fun d => (Double.ofDecimal d).isFinite

/-- Whether a word is a number with a point or an exponent. -/
def isReal (word : List Char) : Bool := isSpecial word || isNumeral word

/-! ### Settling -/

/-- What a plain word stands for, if it has a value. -/
def settle? (word : String) : Option Content :=
  let chars := word.toList
  if isNothing word then some .null
  else
    match truth? word with
    | some b => some (.bool b)
    | none =>
      match integer? chars with
      | some value => value
      | none =>
        if isReal chars && !isZeroPadded chars then some .number else some (.text word)

/-- The tag of the format that has a name. -/
def standardTag (name : String) : String := "tag:yaml.org,2002:" ++ name

/-- What a word stands for behind a tag: the tags of the format ask for the form of their kind. -/
def settleAs? (tag word : String) : Option Content :=
  if tag = standardTag "bool" then (truth? word).map .bool
  else if tag = standardTag "int" then (integer? word.toList).bind id
  else if tag = standardTag "float" then if isReal word.toList then some .number else none
  else if tag = standardTag "null" then if isNull word then some .null else none
  else some (.text word)

/-- Whether a text is taken for something else when it stands as a plain word. -/
def isAmbiguous (text : String) : Bool :=
  match settle? text with
  | some (.text _) => isZeroPadded text.toList
  | _ => true

end Fixtures.Yaml.Word
