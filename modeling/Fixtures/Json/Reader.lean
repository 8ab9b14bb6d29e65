import Fixtures.Double
import Fixtures.Json.Basic
import Fixtures.Text.Hex
import Fixtures.Text.Reading

/-!
# `Fixtures.Json.Reader`: reading JSON text

The form of JSON text is strict: one value, blanks around tokens only, no raw control character in
a string. What it reads is the value as written (`Fixtures.Json.Basic`). A part with the right form
is `unreadable` if it is a number beyond the range of a 64-bit float, a string with half a surrogate
pair, an object with such a key, or if it is in brackets nested `maxDepth` deep. `read?` lets such
parts stand, and `parse?` refuses them.
-/

set_option autoImplicit false

namespace Fixtures.Json

/-- Brackets may be nested less deep than this. -/
def maxDepth : Nat := 128

/-- The blanks of JSON. -/
def isGap (c : Char) : Bool :=
  c == ' ' || c == '\t' || c == '\n' || c == '\r'

/-! ### Numbers -/

/-- The parts of a number: sign, integer digits, fraction digits, exponent. -/
structure Numeral where
  negative : Bool
  whole : List Char
  fraction : List Char
  exponent : Option Int

/-- One or more digits. -/
def digitsAt? (s : List Char) : Option (Reading s (List Char)) :=
  match s.takeWhile Char.isDigit with
  | [] => none
  | d :: ds => some ⟨d :: ds, s.dropWhile Char.isDigit, length_dropWhile_le _ _⟩

/-- The exponent of a number after its mark: an optional sign and one or more digits. -/
def exponentAt? (s : List Char) : Option (Reading s Int) :=
  match s with
  | '-' :: rest =>
    (digitsAt? rest).map fun r =>
      (r.map fun ds => -(Nat.ofDigitChars 10 ds 0 : Int)).after
  | '+' :: rest =>
    (digitsAt? rest).map fun r =>
      (r.map fun ds => (Nat.ofDigitChars 10 ds 0 : Int)).after
  | s => (digitsAt? s).map fun r => r.map fun ds => (Nat.ofDigitChars 10 ds 0 : Int)

/-- The exponent of a number, if it has one. -/
def scaleAt? (s : List Char) : Option (Reading s (Option Int)) :=
  match s with
  | [] => some (.here none)
  | c :: rest =>
    if c = 'e' ∨ c = 'E' then
      (exponentAt? rest).map fun r => (r.map some).after
    else
      some (.here none)

/-- The fraction of a number, if it has one: at least one digit after the point. -/
def fractionAt? (s : List Char) : Option (Reading s (List Char)) :=
  match s with
  | '.' :: rest => (digitsAt? rest).map fun r => r.after
  | _ => some (.here [])

/-- A number after its sign. Only a lone zero starts with one. -/
def unsignedAt? (negative : Bool) (s : List Char) : Option (Reading s Numeral) :=
  let whole := s.takeWhile Char.isDigit
  have le := length_dropWhile_le Char.isDigit s
  match whole with
  | [] => none
  | '0' :: _ :: _ => none
  | whole =>
    match fractionAt? (s.dropWhile Char.isDigit) with
    | none => none
    | some fraction =>
      (scaleAt? fraction.rest).map fun scale =>
        (scale.map fun e => ⟨negative, whole, fraction.value, e⟩).widen
          (Nat.le_trans fraction.rest_le le)

/-- The digits of a number that are read before the next would leave 64 bits, as an integer behind
those already read, and how many they are. -/
def leadingDigits (before : Nat) : List Char → Nat × Nat
  | [] => (before, 0)
  | c :: rest =>
    let n := 10 * before + (c.toNat - '0'.toNat)
    if n < UInt64.size then
      let (value, count) := leadingDigits n rest
      (value, count + 1)
    else
      (before, 0)

/-- The number as an integer below 2⁶⁴ times a power of ten. Digits that do not fit are cut off;
those before the point still count as places. -/
def Numeral.scaled (n : Numeral) : Nat × Int :=
  let (whole, count) := leadingDigits 0 n.whole
  let (significand, places) := leadingDigits whole n.fraction
  (significand, (n.whole.length - count : Nat) - (places : Int) + n.exponent.getD 0)

/-- Whether the product of two integers, both rounded before, is finite as a 64-bit float. -/
def hasFiniteProduct (m n : Nat) : Bool := ((Double.ofNat m).times (.ofNat n)).isFinite

/-- Whether the number is finite as a 64-bit float, which is the product of its digits and of the
power of ten. -/
def Numeral.isFinite (n : Numeral) : Bool :=
  let (significand, scale) := n.scaled
  significand == 0 || decide (scale < 0)
    || (decide (scale ≤ 308) && hasFiniteProduct significand (Nat.pow 10 scale.toNat))

/-- The written form of a number. -/
def Numeral.text (n : Numeral) : String :=
  (if n.negative then "-" else "") ++ String.ofList n.whole
    ++ (if n.fraction.isEmpty then "" else "." ++ String.ofList n.fraction)
    ++ (match n.exponent with | none => "" | some e => "e" ++ toString e)

/-- The value of a number. Negative zero is no integer. -/
def Numeral.toJson (n : Numeral) : Json :=
  let value := Nat.ofDigitChars 10 n.whole 0
  if n.fraction.isEmpty ∧ n.exponent.isNone ∧ n.negative = false ∧ value < UInt64.size then
    .int value
  else if n.fraction.isEmpty ∧ n.exponent.isNone ∧ n.negative = true
      ∧ 0 < value ∧ value ≤ 9223372036854775808 then
    .int (-value)
  else if n.isFinite then .decimal n.text
  else .unreadable

/-- A number at the front of a text, with the sign already seen. -/
def signedAt? (negative : Bool) (s : List Char) : Option (Reading s Json) :=
  (unsignedAt? negative s).map fun r => r.map Numeral.toJson

/-- A number at the front of a text. -/
def numberAt? (s : List Char) : Option (Reading s Json) :=
  match s with
  | '-' :: rest => (signedAt? true rest).map fun r => r.after
  | s => signedAt? false s

/-! ### Strings -/

/-- What a letter after a backslash stands for. -/
def simpleEscape? : Char → Option Char
  | '"' => some '"'
  | '\\' => some '\\'
  | '/' => some '/'
  | 'b' => some '\x08'
  | 'f' => some '\x0c'
  | 'n' => some '\n'
  | 'r' => some '\r'
  | 't' => some '\t'
  | _ => none

/-- The four digits of a `u` escape. -/
def unitAt? (s : List Char) : Option (Reading s Nat) :=
  match s with
  | a :: b :: c :: d :: _ =>
    (Text.Hex.value? [a, b, c, d]).map fun unit =>
      (Reading.here unit).after.after.after.after
  | _ => none

/-- The character of a pair of surrogates. -/
def pairChar? (high low : Nat) : Option Char :=
  if 0xDC00 ≤ low ∧ low < 0xE000 then
    some (Char.ofNat (0x10000 + (high - 0xD800) * 0x400 + (low - 0xDC00)))
  else
    none

/-- The character of the surrogate `high` and of the escaped surrogate that follows it. -/
def lowSurrogateAt? (high : Nat) (s : List Char) : Option (Reading s Char) :=
  match s with
  | '\\' :: 'u' :: rest =>
    (unitAt? rest).bind fun low => (pairChar? high low.value).map fun char =>
      (low.map fun _ => char).after.after
  | _ => none

/-- The character after a backslash; no character for half a surrogate pair. -/
def escapeAt? (s : List Char) : Option (Reading s (Option Char)) :=
  match s with
  | [] => none
  | c :: rest =>
    if c = 'u' then
      (unitAt? rest).map fun unit =>
        if 0xD800 ≤ unit.value ∧ unit.value < 0xDC00 then
          match lowSurrogateAt? unit.value unit.rest with
          | some r => (r.map some).widen (Nat.le_trans unit.rest_le (Nat.le_succ _))
          | none => (unit.map fun _ => none).after
        else if 0xDC00 ≤ unit.value ∧ unit.value < 0xE000 then (unit.map fun _ => none).after
        else (unit.map fun n => some (Char.ofNat n)).after
    else
      (simpleEscape? c).map fun char => .next (some char)

/-- The rest of a string after its opening quote, behind the characters `done` in reverse. It has
no value if one of its characters has none. -/
def stringAt? (done : List (Option Char)) (s : List Char) : Option (Reading s (Option String)) :=
  match s with
  | [] => none
  | '"' :: rest => some (.next ((done.reverse.mapM id).map String.ofList))
  | '\\' :: rest =>
    match escapeAt? rest with
    | none => none
    | some r =>
      have le := r.rest_le
      (stringAt? (r.value :: done) r.rest).map fun t =>
        t.widen (Nat.le_trans le (Nat.le_succ _))
  | c :: rest =>
    if c.toNat < 32 then none
    else (stringAt? (some c :: done) rest).map fun t => t.after
termination_by s.length
decreasing_by all_goals simp only [List.length_cons]; omega

/-! ### Values -/

/-- The rest of a text after a word. -/
def wordAt? (word : List Char) (s : List Char) : Option (Reading s Unit) :=
  if word.isPrefixOf s then
    some ⟨(), s.drop word.length, by simp only [List.length_drop]; omega⟩
  else
    none

/-- A string, if it has a value. -/
def ofString : Option String → Json
  | some s => .str s
  | none => .unreadable

/-- An object, if all its keys have a value. -/
def ofMembers (members : List (Option String × Json)) : Json :=
  match members.mapM fun m => m.1.map (·, m.2) with
  | some members => .obj members
  | none => .unreadable

/-- A value in brackets that may be nested `depth` deep. -/
def within (depth : Nat) (j : Json) : Json :=
  if depth ≤ 1 then .unreadable else j

/-- A value without parts. -/
def scalarAt? (s : List Char) : Option (Reading s Json) :=
  match s.head? with
  | some 'n' => (wordAt? ['n', 'u', 'l', 'l'] s).map fun r => r.map fun _ => .null
  | some 't' => (wordAt? ['t', 'r', 'u', 'e'] s).map fun r => r.map fun _ => .bool true
  | some 'f' => (wordAt? ['f', 'a', 'l', 's', 'e'] s).map fun r => r.map fun _ => .bool false
  | some '"' =>
    (stringAt? [] s.tail).map fun r =>
      (r.map ofString).widen (by simp only [List.length_tail]; omega)
  | _ => numberAt? s

/-- The text after blanks. -/
def skipGap (s : List Char) : List Char := s.dropWhile isGap

theorem length_skipGap_le (s : List Char) : (skipGap s).length ≤ s.length :=
  length_dropWhile_le isGap s

mutual

/-- A value at the front of a text, after blanks; `depth` is how deep it may still nest. -/
def valueAt? (depth : Nat) (s : List Char) : Option (Reading s Json) :=
  have le := length_skipGap_le s
  match h : skipGap s with
  | '[' :: rest =>
    have lt : rest.length < s.length := by rw [h, List.length_cons] at le; omega
    match h₁ : skipGap rest with
    | ']' :: rest₁ =>
      some ⟨within depth (.arr []), rest₁, by
        have := length_skipGap_le rest; rw [h₁, List.length_cons] at this; omega⟩
    | _ =>
      (itemsAt? (depth - 1) [] rest).map fun r =>
        (r.map fun items => within depth (.arr items)).widen (Nat.le_of_lt lt)
  | '{' :: rest =>
    have lt : rest.length < s.length := by rw [h, List.length_cons] at le; omega
    match h₁ : skipGap rest with
    | '}' :: rest₁ =>
      some ⟨within depth (.obj []), rest₁, by
        have := length_skipGap_le rest; rw [h₁, List.length_cons] at this; omega⟩
    | _ =>
      (membersAt? (depth - 1) [] rest).map fun r =>
        (r.map fun members => within depth (ofMembers members)).widen (Nat.le_of_lt lt)
  | other => (scalarAt? other).map fun r => r.widen (h ▸ le)
termination_by 3 * s.length

/-- The items of an array up to its closing bracket, behind the items `done` in reverse. -/
def itemsAt? (depth : Nat) (done : List Json) (s : List Char) : Option (Reading s (List Json)) :=
  match valueAt? depth s with
  | none => none
  | some item =>
    have le := item.rest_le
    have le₁ := length_skipGap_le item.rest
    match h : skipGap item.rest with
    | ',' :: rest =>
      have lt : rest.length < s.length := by rw [h, List.length_cons] at le₁; omega
      (itemsAt? depth (item.value :: done) rest).map fun r => r.widen (Nat.le_of_lt lt)
    | ']' :: rest =>
      some ⟨(item.value :: done).reverse, rest, by rw [h, List.length_cons] at le₁; omega⟩
    | _ => none
termination_by 3 * s.length + 1

/-- The members of an object up to its closing brace, behind the members `done` in reverse. -/
def membersAt? (depth : Nat) (done : List (Option String × Json)) (s : List Char) :
    Option (Reading s (List (Option String × Json))) :=
  have le := length_skipGap_le s
  match h : skipGap s with
  | '"' :: rest =>
    match stringAt? [] rest with
    | none => none
    | some key =>
      have le₁ := key.rest_le
      have le₂ := length_skipGap_le key.rest
      match h₁ : skipGap key.rest with
      | ':' :: rest₁ =>
        have lt : rest₁.length < s.length := by
          rw [h, List.length_cons] at le; rw [h₁, List.length_cons] at le₂; omega
        match valueAt? depth rest₁ with
        | none => none
        | some value =>
          have le₃ := value.rest_le
          have le₄ := length_skipGap_le value.rest
          match h₂ : skipGap value.rest with
          | ',' :: rest₂ =>
            have lt₁ : rest₂.length < s.length := by
              rw [h₂, List.length_cons] at le₄; omega
            (membersAt? depth ((key.value, value.value) :: done) rest₂).map fun r =>
              r.widen (Nat.le_of_lt lt₁)
          | '}' :: rest₂ =>
            some ⟨((key.value, value.value) :: done).reverse, rest₂, by
              rw [h₂, List.length_cons] at le₄; omega⟩
          | _ => none
      | _ => none
  | _ => none
termination_by 3 * s.length + 1

end

/-- Reads a text that has the form of one JSON value. -/
def read? (text : String) : Option Json :=
  match valueAt? maxDepth text.toList with
  | none => none
  | some r => if (skipGap r.rest).isEmpty then some r.value else none

/-- Reads a text as one JSON value that is readable in all its parts. -/
def parse? (text : String) : Option Json :=
  (read? text).filter isReadable

end Fixtures.Json
