import Fixtures.Yaml.Scalar.Fold

/-!
# `Fixtures.Yaml.Scalar.Plain`: texts without quotes

A plain text ends where something else starts: a colon before a gap, a hash after one, a document
marker, in flow style also a comma or a bracket. Its other lines have to stand deeper than the
collection around it, and line breaks are folded.
-/

set_option autoImplicit false

namespace Fixtures.Yaml.Plain

/-- The characters that cannot follow a colon inside a text in flow style. -/
def isBehindColon (c : Char) : Bool := isFlowIndicator c || c == '?'

/-- The length of the text up to a gap or an end. -/
def wordLength? (inFlow : Bool) : List Char → Option Nat
  | [] => some 0
  | c :: rest =>
    if isGap c then some 0
    else if inFlow && c == ':' && rest.head?.any isBehindColon then none
    else if (c == ':' && gapFollows rest) || (inFlow && isFlowIndicator c) then some 0
    else (wordLength? inFlow rest).map (· + 1)

/-- A text, the place behind it and the gap that follows, and whether that gap holds a line
break. -/
structure Found where
  text : String
  cursor : Cursor
  endsLine : Bool

/-- The words `done` in reverse as a text. -/
def found (done : List (List Char)) (between : Interval) (c : Cursor) : Found :=
  ⟨String.ofList done.reverse.flatten, c, between.first.isSome⟩

/-- The rest of a text behind the words `done` in reverse and an interval. Other lines have to
reach the column `indent`. -/
def rest? (inFlow : Bool) (indent : Nat) (done : List (List Char)) (between : Interval)
    (c : Cursor) : Option Found :=
  if (c.column == 0 && anyMarkerAt c.rest) || c.meets '#' then some (found done between c)
  else
    (wordLength? inFlow c.rest).bind fun n =>
      if n = 0 then some (found done between c)
      else
        let done := c.rest.take n :: between.folded :: done
        (Interval.rest? indent {} (c.past n)).bind fun (between, next) =>
          if !inFlow && next.column < indent then some (found done between next)
          else if _h : next.rest.length < c.rest.length then rest? inFlow indent done between next
          else none
termination_by c.rest.length

/-- The text that starts here. -/
def textAt? (inFlow : Bool) (indent : Nat) (c : Cursor) : Option Found :=
  rest? inFlow indent [] {} c

end Fixtures.Yaml.Plain
