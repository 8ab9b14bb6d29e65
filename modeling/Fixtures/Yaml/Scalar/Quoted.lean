import Fixtures.Text.Hex
import Fixtures.Yaml.Scalar.Fold

/-!
# `Fixtures.Yaml.Scalar.Quoted`: quoted texts

In single quotes a doubled quote stands for one. In double quotes a backslash starts an escape,
and one before a line break takes the break away. Both fold line breaks, and neither goes over a
document marker.
-/

set_option autoImplicit false

namespace Fixtures.Yaml.Quoted

/-- What a letter after a backslash stands for. -/
def escape? : Char → Option Char
  | '0' => some '\x00'
  | 'a' => some '\x07'
  | 'b' => some '\x08'
  | 't' => some '\t'
  | '\t' => some '\t'
  | 'n' => some '\n'
  | 'v' => some '\x0b'
  | 'f' => some '\x0c'
  | 'r' => some '\r'
  | 'e' => some '\x1b'
  | ' ' => some ' '
  | '"' => some '"'
  | '/' => some '/'
  | '\\' => some '\\'
  | 'N' => some '\u0085'
  | '_' => some '\u00a0'
  | 'L' => some '\u2028'
  | 'P' => some '\u2029'
  | _ => none

/-- The number of digits after the letter of an escape by code point. -/
def codeLength : Char → Nat
  | 'x' => 2
  | 'u' => 4
  | 'U' => 8
  | _ => 0

/-- The character of an escape without its backslash. -/
def escapedAt? (letter : Char) (rest : List Char) : Option Char :=
  match codeLength letter with
  | 0 => escape? letter
  | n => if rest.length < n then none else Text.Hex.codePoint? (rest.take n)

/-- The text up to a gap or the closing quote, and its length as it is written. -/
def singleWord : List Char → List Char × Nat
  | [] => ([], 0)
  | '\'' :: '\'' :: rest => let r := singleWord rest; ('\'' :: r.1, r.2 + 2)
  | c :: rest =>
    if c = '\'' ∨ isGap c then ([], 0) else let r := singleWord rest; (c :: r.1, r.2 + 1)

/-- The text up to a gap, an escaped line break or the closing quote, and its length as it is
written. -/
def doubleWord? : List Char → Option (List Char × Nat)
  | [] => some ([], 0)
  | '\\' :: [] => none
  | '\\' :: letter :: rest =>
    if isBreak letter then some ([], 0)
    else
      (escapedAt? letter rest).bind fun char =>
        let n := codeLength letter
        (doubleWord? (rest.drop n)).map fun r => (char :: r.1, r.2 + n + 2)
  | c :: rest =>
    if c = '"' ∨ isGap c then some ([], 0)
    else (doubleWord? rest).map fun r => (c :: r.1, r.2 + 1)
termination_by s => s.length
decreasing_by
  · simp only [List.length_drop, List.length_cons]; omega
  · simp

/-- The text up to a gap, an escaped line break or the closing quote. -/
def wordAt? (quote : Char) (c : Cursor) : Option (List Char × Cursor) :=
  let word := if quote = '\'' then some (singleWord c.rest) else doubleWord? c.rest
  word.map fun w => (w.1, c.past w.2)

/-- The rest of a text behind the words `done` in reverse. -/
def rest? (quote : Char) (done : List (List Char)) (c : Cursor) : Option (List Char × Cursor) :=
  if c.rest.isEmpty || (c.column == 0 && anyMarkerAt c.rest) then none
  else
    (wordAt? quote c).bind fun (word, behind) =>
      if behind.meets quote then some ((word :: done).reverse.flatten, behind.past 1)
      else
        let (start, gap) : Interval × Cursor :=
          if behind.meets '\\' then ({ first := some [] }, (behind.past 1).pastBreak)
          else ({}, behind)
        (start.rest? 0 gap).bind fun (between, next) =>
          if _h : next.rest.length < c.rest.length then
            rest? quote (between.folded :: word :: done) next
          else none
termination_by c.rest.length

/-- A text from its opening quote on. -/
def textAt? (quote : Char) (c : Cursor) : Option (String × Cursor) :=
  (rest? quote [] (c.past 1)).map fun r => (String.ofList r.1, r.2)

end Fixtures.Yaml.Quoted
