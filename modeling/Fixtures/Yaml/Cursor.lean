import Fixtures.Yaml.Char

/-!
# `Fixtures.Yaml.Cursor`: a place in a document

A cursor is what is left of a document, and where that begins: layout in YAML goes by columns,
and keys by lines and lengths. Going over a line break leads to the next line; a carriage return
and the line feed behind it are one break.
-/

set_option autoImplicit false

namespace Fixtures.Yaml

/-- A place in a document. -/
structure Cursor where
  /-- The characters from here on. -/
  rest : List Char
  /-- The number of characters before. -/
  index : Nat := 0
  line : Nat := 0
  column : Nat := 0

namespace Cursor

/-- The place some characters further on in the same line. -/
def past (n : Nat) (c : Cursor) : Cursor :=
  { c with rest := c.rest.drop n, index := c.index + n, column := c.column + n }

/-- The place behind all characters of a class. -/
def pastWhile (p : Char → Bool) (c : Cursor) : Cursor :=
  c.past (c.rest.takeWhile p).length

/-- Whether a character comes next. -/
def meets (char : Char) (c : Cursor) : Bool := c.rest.head? == some char

/-- Whether a character of a class comes next. -/
def meetsAny (p : Char → Bool) (c : Cursor) : Bool := c.rest.head?.any p

/-- Whether the end or a gap comes next. -/
def meetsGap (c : Cursor) : Bool := gapFollows c.rest

/-- Whether the end or a line break comes next. -/
def meetsLineEnd (c : Cursor) : Bool := c.rest.head?.all isBreak

/-- The number of characters of the break at the front of a text. -/
def breakLength : List Char → Nat
  | '\r' :: '\n' :: _ => 2
  | _ => 1

/-- The place behind the line break that comes next. -/
def pastBreak (c : Cursor) : Cursor :=
  let n := breakLength c.rest
  { rest := c.rest.drop n, index := c.index + n, line := c.line + 1, column := 0 }

/-- What the line break that comes next stands for in a text. -/
def breakText (c : Cursor) : List Char :=
  match c.rest with
  | [] => []
  | b :: _ => if isSeparator b then [b] else ['\n']

/-- The place behind the line break, if one comes next. -/
def pastBreakIfAny (c : Cursor) : Cursor := if c.meetsAny isBreak then c.pastBreak else c

/-- The place behind the remark that starts here, if one does. -/
def pastHash (c : Cursor) : Cursor :=
  if c.meets '#' then c.pastWhile fun char => !isBreak char else c

/-- The place behind blanks and a remark, where a line has to end. -/
def pastRemark (c : Cursor) : Cursor := (c.pastWhile isBlank).pastHash

/-- The place behind the mark that may start a line. -/
def pastMark (c : Cursor) : Cursor :=
  if c.column == 0 && c.meets byteOrderMark then c.past 1 else c

/-! ### Going on leaves less -/

theorem length_past_le (n : Nat) (c : Cursor) : (c.past n).rest.length ≤ c.rest.length := by
  simp only [past, List.length_drop]
  omega

theorem length_pastWhile_le (p : Char → Bool) (c : Cursor) :
    (c.pastWhile p).rest.length ≤ c.rest.length :=
  length_past_le _ c

theorem length_pastHash_le (c : Cursor) : c.pastHash.rest.length ≤ c.rest.length := by
  unfold pastHash
  split
  · exact length_pastWhile_le _ _
  · exact Nat.le_refl _

theorem length_pastMark_le (c : Cursor) : c.pastMark.rest.length ≤ c.rest.length := by
  unfold pastMark
  split
  · exact length_past_le _ _
  · exact Nat.le_refl _

theorem length_past_lt {n : Nat} {c : Cursor} {p : Char → Bool} (hn : 0 < n)
    (h : c.meetsAny p = true) : (c.past n).rest.length < c.rest.length := by
  rcases hc : c.rest with _ | ⟨char, rest⟩
  · simp [meetsAny, hc] at h
  · simp only [past, hc, List.length_drop, List.length_cons]
    omega

theorem breakLength_pos (s : List Char) : 0 < breakLength s := by
  unfold breakLength
  split <;> omega

theorem length_pastBreak_lt {c : Cursor} {p : Char → Bool} (h : c.meetsAny p = true) :
    c.pastBreak.rest.length < c.rest.length := by
  have pos := breakLength_pos c.rest
  rcases hc : c.rest with _ | ⟨char, rest⟩
  · simp [meetsAny, hc] at h
  · rw [hc] at pos
    simp only [pastBreak, hc, List.length_drop, List.length_cons]
    omega

end Cursor

end Fixtures.Yaml
