import Fixtures.Yaml.Scalar.Block
import Fixtures.Yaml.Scalar.Plain
import Fixtures.Yaml.Scalar.Quoted
import Fixtures.Yaml.Token.Name

/-!
# `Fixtures.Yaml.Token.Lexer`: from text to tokens

Outside brackets, depth tells where collections begin and end: a token that starts deeper than
the innermost collection may open one, and a token that starts less deep closes those around it.
A key is known as such only by the colon behind it. So the place of every token that might start
a key is remembered, at each level of brackets the last one, and the colon puts the start of the
key there. Such a key has to be short and to end in its line.
-/

set_option autoImplicit false

namespace Fixtures.Yaml

/-- A place where a key may have started. -/
structure KeyStart where
  /-- Whether nothing but a key can stand there. -/
  isRequired : Bool
  /-- The number of tokens before it. -/
  tokens : Nat
  index : Nat
  line : Nat
  column : Nat

/-- How far behind its start the colon of a key may be. -/
def keyReach : Nat := 1024

/-- A text that is read up to some place. -/
structure Lexer where
  cursor : Cursor
  /-- The tokens so far in reverse. -/
  tokens : List Token := []
  count : Nat := 0
  /-- The columns of the open block collections, the innermost first. -/
  blocks : List Nat := []
  /-- Where a key may have started at this level of brackets. -/
  keyStart : Option KeyStart := none
  /-- Where keys may have started at the levels around it. -/
  outer : List (Option KeyStart) := []
  /-- Whether a key may start here. -/
  keyAllowed : Bool := true

namespace Lexer

/-- Whether the place is in brackets. -/
def inFlow (l : Lexer) : Bool := !l.outer.isEmpty

/-- The column of the innermost block collection. -/
def indent? (l : Lexer) : Option Nat := l.blocks.head?

/-- Adds a token. -/
def emit (t : Token) (l : Lexer) : Lexer :=
  { l with tokens := t :: l.tokens, count := l.count + 1 }

/-- Puts a token behind the first `before` ones. -/
def emitAt (before : Nat) (t : Token) (l : Lexer) : Lexer :=
  let behind := l.count - before
  { l with tokens := l.tokens.take behind ++ t :: l.tokens.drop behind, count := l.count + 1 }

/-- Adds a token of some characters. -/
def take (length : Nat) (t : Token) (l : Lexer) : Lexer :=
  { l.emit t with cursor := l.cursor.past length }

/-! ### Keys -/

/-- Gives up the place where a key may have started. -/
def dropKey? (l : Lexer) : Option Lexer :=
  if l.keyStart.any (·.isRequired) then none else some { l with keyStart := none }

/-- Remembers this place as one where a key may start. -/
def saveKey? (l : Lexer) : Option Lexer :=
  if !l.keyAllowed then some l
  else
    l.dropKey?.map fun l => { l with keyStart := some {
      isRequired := !l.inFlow && l.indent? == some l.cursor.column
      tokens := l.count
      index := l.cursor.index
      line := l.cursor.line
      column := l.cursor.column } }

/-- Whether a key that started there cannot end here. -/
def isStale (c : Cursor) (k : KeyStart) : Bool :=
  decide (k.line < c.line) || decide (k.index + keyReach < c.index)

/-- Gives up a place if it is stale. -/
def refreshed? (c : Cursor) (start : Option KeyStart) : Option (Option KeyStart) :=
  match start with
  | none => some none
  | some k => if !isStale c k then some (some k) else if k.isRequired then none else some none

/-- Gives up all stale places. -/
def refresh? (l : Lexer) : Option Lexer := do
  return { l with
    keyStart := ← refreshed? l.cursor l.keyStart
    outer := ← l.outer.mapM (refreshed? l.cursor) }

/-! ### Depth -/

/-- Opens a block collection at a column if it is deeper than the innermost one. -/
def openBlock (column : Nat) (emitStart : Lexer → Lexer) (l : Lexer) : Lexer :=
  if l.inFlow || l.indent?.any (column ≤ ·) then l
  else { emitStart l with blocks := column :: l.blocks }

/-- Closes block collections as long as they satisfy a condition on their column. -/
def closeBlocks (isClosed : Nat → Bool) (l : Lexer) : Lexer :=
  if l.inFlow then l
  else
    (l.blocks.takeWhile isClosed).foldl (fun l _ => l.emit .blockEnd)
      { l with blocks := l.blocks.dropWhile isClosed }

/-- Goes over blanks and a remark. Where a key may start a tab is no blank. -/
def pastBlanks (withTabs : Bool) (c : Cursor) : Cursor :=
  (c.pastMark.pastWhile fun char => char == ' ' || (char == '\t' && withTabs)).pastHash

theorem length_pastBlanks_le (withTabs : Bool) (c : Cursor) :
    (pastBlanks withTabs c).rest.length ≤ c.rest.length :=
  Nat.le_trans (Cursor.length_pastHash_le _)
    (Nat.le_trans (Cursor.length_pastWhile_le _ _) (Cursor.length_pastMark_le c))

/-- Goes over blanks, remarks and line breaks. Behind a line break a key may start. -/
def skipGaps (inFlow keyAllowed : Bool) (c : Cursor) : Cursor × Bool :=
  let next := pastBlanks (inFlow || !keyAllowed) c
  if h : next.meetsAny isBreak = true then
    have := Nat.lt_of_lt_of_le (Cursor.length_pastBreak_lt h) (length_pastBlanks_le _ c)
    skipGaps inFlow (keyAllowed || !inFlow) next.pastBreak
  else (next, keyAllowed)
termination_by c.rest.length

/-- The place of the next token, with the collections closed that end before it. -/
def atNext? (l : Lexer) : Option Lexer :=
  let (cursor, keyAllowed) := skipGaps l.inFlow l.keyAllowed l.cursor
  ({ l with cursor, keyAllowed } : Lexer).refresh?.map (·.closeBlocks (cursor.column < ·))

/-! ### Tokens -/

/-- The end of everything in block style, before a document marker or a directive. -/
def endBlocks? (l : Lexer) : Option Lexer :=
  (l.closeBlocks fun _ => true).dropKey?.map fun l => { l with keyAllowed := false }

/-- A document marker. -/
def marker? (t : Token) (l : Lexer) : Option Lexer := l.endBlocks?.map (·.take 3 t)

/-- A directive. -/
def directive? (l : Lexer) : Option Lexer := do
  let l ← l.endBlocks?
  let (t, cursor) ← directiveAt? l.cursor
  return { l.emit t with cursor }

/-- A bracket that opens a collection. -/
def openFlow? (t : Token) (l : Lexer) : Option Lexer :=
  l.saveKey?.map fun l =>
    { l.take 1 t with keyStart := none, outer := l.keyStart :: l.outer, keyAllowed := true }

/-- A bracket that closes a collection. -/
def closeFlow? (t : Token) (l : Lexer) : Option Lexer :=
  l.dropKey?.map fun l =>
    { l.take 1 t with
      keyStart := l.outer.head?.getD none
      outer := l.outer.tail
      keyAllowed := false }

/-- A comma. -/
def comma? (l : Lexer) : Option Lexer :=
  l.dropKey?.map fun l => { l.take 1 .comma with keyAllowed := true }

/-- A dash before an item. -/
def item? (l : Lexer) : Option Lexer :=
  if !l.inFlow && !l.keyAllowed then none
  else
    (l.openBlock l.cursor.column (·.emit .blockListStart)).dropKey?.map fun l =>
      { l.take 1 .item with keyAllowed := true }

/-- A question mark before a key. -/
def key? (l : Lexer) : Option Lexer :=
  if !l.inFlow && !l.keyAllowed then none
  else
    (l.openBlock l.cursor.column (·.emit .blockMapStart)).dropKey?.map fun l =>
      { l.take 1 .key with keyAllowed := !l.inFlow }

/-- A colon before a value. -/
def value? (l : Lexer) : Option Lexer :=
  match l.keyStart with
  | some k =>
    let l := (l.emitAt k.tokens .key).openBlock k.column (·.emitAt k.tokens .blockMapStart)
    some { l.take 1 .value with keyStart := none, keyAllowed := false }
  | none =>
    if !l.inFlow && !l.keyAllowed then none
    else
      let l := l.openBlock l.cursor.column (·.emit .blockMapStart)
      some { l.take 1 .value with keyAllowed := !l.inFlow }

/-- A token that may start a key, with the place behind it. -/
def keyable? (read : Cursor → Option (Token × Cursor)) (l : Lexer) : Option Lexer := do
  let l ← l.saveKey?
  let (t, cursor) ← read l.cursor
  return { l.emit t with cursor, keyAllowed := false }

/-- A text in quotes. -/
def quoted? (quote : Char) (l : Lexer) : Option Lexer :=
  l.keyable? fun c => (Quoted.textAt? quote c).map fun r => (.scalar .quoted r.1, r.2)

/-- A text without quotes. A key may start behind it if it ends with its line. -/
def plain? (l : Lexer) : Option Lexer := do
  let l ← l.saveKey?
  let found ← Plain.textAt? l.inFlow (l.indent?.elim 0 (· + 1)) l.cursor
  return { l.emit (.scalar .plain found.text) with
    cursor := found.cursor
    keyAllowed := found.endsLine }

/-- A text as a block. -/
def block? (style : Style) (l : Lexer) : Option Lexer := do
  let l ← l.dropKey?
  let (text, cursor) ← Block.textAt? (style = .literal) l.indent? l.cursor
  return { l.emit (.scalar style text) with cursor, keyAllowed := true }

/-- Whether a plain text may start with a character that would be an indicator before a gap. -/
def startsPlain (l : Lexer) (c : Char) : Bool :=
  match c with
  | '-' => !(l.cursor.past 1).meetsAny isBlank
  | '?' | ':' => !l.inFlow && !(l.cursor.past 1).meetsGap
  | c => !isLeadingIndicator c && !isGap c

/-- The next token, which starts with the character `c`. -/
def step? (c : Char) (l : Lexer) : Option Lexer :=
  let isLineStart := l.cursor.column == 0
  let beforeGap := (l.cursor.past 1).meetsGap
  if isLineStart && c == '%' then l.directive?
  else if isLineStart && markerAt '-' l.cursor.rest then l.marker? .documentStart
  else if isLineStart && markerAt '.' l.cursor.rest then l.marker? .documentEnd
  else if c == '-' && beforeGap then l.item?
  else if c == '?' && (l.inFlow || beforeGap) then l.key?
  else if c == ':' && (l.inFlow || beforeGap) then l.value?
  else
    match c with
    | '[' => l.openFlow? .flowListStart
    | '\x7b' => l.openFlow? .flowMapStart
    | ']' => l.closeFlow? .flowListEnd
    | '\x7d' => l.closeFlow? .flowMapEnd
    | ',' => l.comma?
    | '*' => l.keyable? fun c => (anchorNameAt? c).map fun r => (.reference r.1, r.2)
    | '&' => l.keyable? fun c => (anchorNameAt? c).map fun r => (.anchor r.1, r.2)
    | '!' => l.keyable? fun c => tagAt? l.inFlow c
    | '\'' | '"' => l.quoted? c
    | '|' => if l.inFlow then none else l.block? .literal
    | '>' => if l.inFlow then none else l.block? .folded
    | c => if l.startsPlain c then l.plain? else none

/-- The end of the text. -/
def finish? (l : Lexer) : Option (List Token) :=
  (l.closeBlocks fun _ => true).dropKey?.map fun l => (Token.streamEnd :: l.tokens).reverse

/-- All tokens from here on. Each takes characters, so that they come to an end. -/
def run? (l : Lexer) : Option (List Token) :=
  match l.atNext? with
  | none => none
  | some next =>
    match next.cursor.rest with
    | [] => next.finish?
    | c :: _ =>
      match next.step? c with
      | none => none
      | some after =>
        if _h : after.cursor.rest.length < l.cursor.rest.length then run? after else none
termination_by l.cursor.rest.length

end Lexer

/-- The tokens of a text, of which every character has to be allowed. -/
def Token.ofText? (text : String) : Option (List Token) :=
  let s := text.toList
  if s.all isAllowed then Lexer.run? { cursor := { rest := s } } else none

end Fixtures.Yaml
