import Fixtures.Yaml.Cursor

/-!
# `Fixtures.Yaml.Scalar.Fold`: texts over several lines

Inside a plain or a quoted text, the blanks around a line break do not count, one line feed is
folded into a space, and of several the first is left out. A separator of Unicode stays.
-/

set_option autoImplicit false

namespace Fixtures.Yaml

/-- What stands between two words of a text. -/
structure Interval where
  /-- The blanks before the first line break. -/
  blanks : List Char := []
  /-- What the first line break stands for; an escaped one stands for nothing. -/
  first : Option (List Char) := none
  /-- What the other line breaks stand for. -/
  others : List Char := []

namespace Interval

/-- What an interval stands for. -/
def folded (i : Interval) : List Char :=
  match i.first with
  | none => i.blanks
  | some ['\n'] => if i.others.isEmpty then [' '] else i.others
  | some first => first ++ i.others

/-- Adds a line break. -/
def withBreak (i : Interval) (text : List Char) : Interval :=
  match i.first with
  | none => { first := some text }
  | some _ => { i with others := i.others ++ text }

/-- Adds a blank. -/
def withBlank (i : Interval) (blank : Char) : Interval :=
  match i.first with
  | none => { i with blanks := i.blanks ++ [blank] }
  | some _ => i

/-- The interval behind what has been read of it. A tab in front of a column that a new line has
to reach is an error (`tabsFrom`). -/
def rest? (tabsFrom : Nat) (i : Interval) (c : Cursor) : Option (Interval × Cursor) :=
  if h : c.meetsAny isBreak = true then
    have := Cursor.length_pastBreak_lt h
    rest? tabsFrom (i.withBreak c.breakText) c.pastBreak
  else if h : c.meetsAny isBlank = true then
    have := Cursor.length_past_lt Nat.one_pos h
    if i.first.isSome && c.column < tabsFrom && c.meets '\t' then none
    else rest? tabsFrom (i.withBlank (c.rest.headD ' ')) (c.past 1)
  else some (i, c)
termination_by c.rest.length

end Interval

end Fixtures.Yaml
