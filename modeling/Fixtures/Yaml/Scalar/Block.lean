import Fixtures.Yaml.Cursor

/-!
# `Fixtures.Yaml.Scalar.Block`: texts as blocks of lines

A block starts with a header: how the line breaks at its end count, and how deep its lines stand.
Without the latter they stand as deep as the first that is not empty. In a literal block line
breaks stand; in a folded one a single break between two lines that start with no blank is a
space.
-/

set_option autoImplicit false

namespace Fixtures.Yaml.Block

/-- How the line breaks at the end of a block count. -/
inductive Chomping where
  /-- None of them. -/
  | strip
  /-- The first of them. -/
  | clip
  /-- All of them. -/
  | keep
deriving DecidableEq

/-! ### Headers -/

/-- A mark for the line breaks at the end. -/
def chompingAt? (c : Cursor) : Option Chomping :=
  match c.rest.head? with
  | some '+' => some .keep
  | some '-' => some .strip
  | _ => none

/-- A digit for the depth, which is none for zero. -/
def depthAt? (c : Cursor) : Option (Option Nat) :=
  match c.rest with
  | [] => some none
  | d :: _ =>
    if d = '0' then none
    else if d.isDigit then some (some (d.toNat - '0'.toNat))
    else some none

/-- A mark and a digit in either order, and the place behind them. -/
def headerAt? (c : Cursor) : Option (Chomping × Option Nat × Cursor) :=
  match chompingAt? c with
  | some chomping =>
    (depthAt? (c.past 1)).map fun
      | some n => (chomping, some n, c.past 2)
      | none => (chomping, none, c.past 1)
  | none =>
    (depthAt? c).map fun
      | none => (.clip, none, c)
      | some n =>
        match chompingAt? (c.past 1) with
        | some chomping => (chomping, some n, c.past 2)
        | none => (.clip, some n, c.past 1)

/-! ### Lines -/

/-- Goes over lines without text and over the depth of the line behind them. The outcome is what
the line breaks stand for, the greatest depth that was seen, and the place. A tab in the depth is
an error. -/
def emptyLines? (indent : Option Nat) (deepest : Nat) (breaks : List Char) (c : Cursor) :
    Option (List Char × Nat × Cursor) :=
  let spaces := (c.rest.takeWhile (· == ' ')).length
  let next := c.past (indent.elim spaces fun n => min spaces (n - c.column))
  let deepest := max deepest next.column
  if indent.all (next.column < ·) && next.meets '\t' then none
  else if h : next.meetsAny isBreak = true then
    have := Nat.lt_of_lt_of_le (Cursor.length_pastBreak_lt h) (Cursor.length_past_le _ _)
    emptyLines? indent deepest (breaks ++ next.breakText) next.pastBreak
  else some (breaks, deepest, next)
termination_by c.rest.length

/-- What has been read of a block: the text, the line break behind its last line, whether that
line starts with a blank, and the line breaks that follow. -/
structure Lines where
  /-- The pieces of the text in reverse. -/
  text : List (List Char) := []
  lineBreak : List Char := []
  startsBlank : Bool := false
  breaks : List Char := []

/-- Adds a line with the line break behind it. -/
def Lines.add (isLiteral : Bool) (l : Lines) (line lineBreak breaks : List Char) : Lines :=
  let startsBlank := line.head?.any isBlank
  let joint :=
    if !isLiteral && l.lineBreak == ['\n'] && !l.startsBlank && !startsBlank then
      if l.breaks.isEmpty then [' '] else []
    else l.lineBreak
  { text := line :: l.breaks :: joint :: l.text, lineBreak, startsBlank, breaks }

/-- The text with the line breaks at its end that count. -/
def Lines.close (chomping : Chomping) (l : Lines) : String :=
  let text := l.text.reverse.flatten
  match chomping with
  | .strip => String.ofList text
  | .clip => String.ofList (text ++ l.lineBreak)
  | .keep => String.ofList (text ++ l.lineBreak ++ l.breaks)

/-- The lines at a depth. -/
def linesAt? (isLiteral : Bool) (indent : Nat) (l : Lines) (c : Cursor) :
    Option (Lines × Cursor) :=
  if c.column == indent && !c.rest.isEmpty then
    let behind := c.pastWhile fun char => !isBreak char
    let line := c.rest.takeWhile fun char => !isBreak char
    (emptyLines? (some indent) 0 [] behind.pastBreakIfAny).bind fun (breaks, _, next) =>
      if _h : next.rest.length < c.rest.length then
        linesAt? isLiteral indent (l.add isLiteral line behind.breakText breaks) next
      else none
  else some (l, c)
termination_by c.rest.length

/-- A block from its indicator on. The collection around it stands at the column `outer`. -/
def textAt? (isLiteral : Bool) (outer : Option Nat) (c : Cursor) : Option (String × Cursor) := do
  let (chomping, depth, c) ← headerAt? (c.past 1)
  let c := c.pastRemark
  if !c.meetsLineEnd then none
  let fixed := depth.map (outer.getD 0 + ·)
  let (breaks, deepest, c) ← emptyLines? fixed 0 [] c.pastBreakIfAny
  let indent := fixed.getD (max (max deepest (outer.elim 0 (· + 1))) 1)
  let (lines, c) ← linesAt? isLiteral indent { breaks } c
  return (lines.close chomping, c)

end Fixtures.Yaml.Block
