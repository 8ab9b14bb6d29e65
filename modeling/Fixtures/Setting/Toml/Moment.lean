import Fixtures.Decimal

/-!
# `Fixtures.Setting.Toml.Moment`: dates and times of settings files

A date, a time, or a date with a time and perhaps an offset. A setting keeps the text of a moment
in its one form: a `T` before the time, nine places of a second at most and no zeros at their end,
and no offset of minus zero.
-/

set_option autoImplicit false

namespace Fixtures.Setting.Toml.Moment

/-- A number of some digits at the front, and the rest. -/
def digitsAt? (count : Nat) (s : List Char) : Option (Nat × List Char) := do
  let digits := s.take count
  if digits.length < count then none
  return (← Integer.ofDigits? digits, s.drop count)

/-- Two digits in a range and perhaps a mark before them. -/
def pairAt? (mark : Option Char) (least greatest : Nat) (s : List Char) :
    Option (Nat × List Char) := do
  let s ← match mark with
    | none => some s
    | some c => if s.head? = some c then some s.tail else none
  let (n, rest) ← digitsAt? 2 s
  if least ≤ n ∧ n ≤ greatest then some (n, rest) else none

/-- Whether a year has a day more. -/
def isLeapYear (year : Nat) : Bool :=
  year % 4 == 0 && (year % 100 != 0 || year % 400 == 0)

/-- The number of days of a month. -/
def daysIn (year month : Nat) : Nat :=
  if month = 2 then if isLeapYear year then 29 else 28
  else if [4, 6, 9, 11].contains month then 30
  else 31

/-- The part of a text before the rest of it. -/
def before (rest s : List Char) : List Char := s.take (s.length - rest.length)

/-- A date, and the rest. -/
def dateAt? (s : List Char) : Option (List Char × List Char) := do
  let (year, rest) ← digitsAt? 4 s
  let (month, rest) ← pairAt? (some '-') 1 12 rest
  let (_, rest) ← pairAt? (some '-') 1 (daysIn year month) rest
  return (before rest s, rest)

/-- The places of a second in their one form, and the rest. -/
def fractionAt? (s : List Char) : Option (List Char × List Char) :=
  match s with
  | '.' :: rest =>
    let digits := rest.takeWhile Char.isDigit
    let kept := ((digits.take 9).reverse.dropWhile (· == '0')).reverse
    if digits.isEmpty then none
    else some (if kept.isEmpty then [] else '.' :: kept, rest.dropWhile Char.isDigit)
  | _ => some ([], s)

/-- A time, and the rest. -/
def timeAt? (s : List Char) : Option (List Char × List Char) := do
  let (_, rest) ← pairAt? none 0 23 s
  let (_, rest) ← pairAt? (some ':') 0 59 rest
  let (_, rest) ← pairAt? (some ':') 0 60 rest
  let (fraction, after) ← fractionAt? rest
  return (before rest s ++ fraction, after)

/-- An offset that takes all of a text. -/
def offset? (s : List Char) : Option (List Char) :=
  match s with
  | [] => some []
  | sign :: digits =>
    if sign = 'Z' ∨ sign = 'z' then if digits.isEmpty then some ['Z'] else none
    else if sign = '+' ∨ sign = '-' then do
      let (hour, rest) ← pairAt? none 0 23 digits
      let (minute, rest) ← pairAt? (some ':') 0 59 rest
      if !rest.isEmpty then none
      return (if hour = 0 ∧ minute = 0 then '+' else sign) :: digits
    else none

/-- A time with an offset, which takes all of a text. -/
def timeOf? (s : List Char) : Option (List Char) := do
  let (time, rest) ← timeAt? s
  return 'T' :: time ++ (← offset? rest)

/-- The text of a moment that is one word. -/
def ofWord? (word : List Char) : Option (List Char) :=
  match dateAt? word with
  | some (date, []) => some date
  | some (date, mark :: rest) =>
    if mark = 'T' ∨ mark = 't' then (timeOf? rest).map (date ++ ·) else none
  | none =>
    match timeAt? word with
    | some (time, []) => some time
    | _ => none

/-- Whether a word is a date to which a time may join behind a space. -/
def isDate (word : List Char) : Bool := (dateAt? word).any (·.2.isEmpty)

end Fixtures.Setting.Toml.Moment
