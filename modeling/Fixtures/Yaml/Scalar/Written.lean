import Fixtures.Text.Hex
import Fixtures.Yaml.Char
import Fixtures.Yaml.Scalar.Word

/-!
# `Fixtures.Yaml.Scalar.Written`: texts as they are written

A text is plain where it reads back as the same text. One that would read as something else, or
that an indicator makes ambiguous, stands in single quotes with its own quotes doubled. One with
line feeds is a literal block, and one with characters that neither form can hold stands in
double quotes with escapes.

The separators of Unicode break a line where they stand, so the text behind them has to be as deep
as that of any other line.
-/

set_option autoImplicit false

namespace Fixtures.Yaml.Written

/-! ### What a text is like -/

/-- The characters that need no escape. -/
def isPrintable (c : Char) : Bool :=
  let n := c.toNat
  n == 0x0A || (0x20 ≤ n && n ≤ 0x7E) || (0xA0 ≤ n && n ≤ 0xFFFD && n != 0xFEFF) || 0x10000 ≤ n

/-- Whether the end, a gap or a null character comes next. -/
def stopFollows (s : List Char) : Bool := s.head?.all fun c => isGap c || c == '\x00'

/-- Whether the start of a text is taken for something else. -/
def startsWithIndicator (s : List Char) : Bool :=
  ['-', '-', '-'].isPrefixOf s || ['.', '.', '.'].isPrefixOf s
    || match s with
      | [] => false
      | c :: rest =>
        isLeadingIndicator c || ((c == '?' || c == ':' || c == '-') && stopFollows rest)

/-- Whether a text holds a colon before a gap or a hash after one. -/
def hasInnerIndicator : List Char → Bool
  | [] => false
  | c :: rest =>
    (c == ':' && stopFollows rest) || (isGap c && rest.head? == some '#') || hasInnerIndicator rest

/-- Whether a text has a blank at an end. -/
def hasOuterBlank (s : List Char) : Bool :=
  s.head? == some ' ' || s.getLast? == some ' '

/-- Whether a character of one class stands before one of another. -/
def hasPair (p q : Char → Bool) (s : List Char) : Bool :=
  (s.zip s.tail).any fun e => p e.1 && q e.2

/-- Whether a blank stands before a line break. -/
def hasBlankBeforeBreak (s : List Char) : Bool := hasPair (· == ' ') isBreak s

/-- Whether a blank stands behind a line break. -/
def hasBlankBehindBreak (s : List Char) : Bool := hasPair isBreak (· == ' ') s

/-- Whether quotes or a block can hold the characters of a text as they are. -/
def canBeRaw (s : List Char) : Bool := s.all isPrintable && !hasBlankBeforeBreak s

/-- Whether a text can be plain as far as its characters go. -/
def canBePlain (s : List Char) : Bool :=
  canBeRaw s && !s.any isBreak && !hasOuterBlank s && !startsWithIndicator s
    && !hasInnerIndicator s

/-- Whether a text can stand in single quotes. -/
def canBeSingleQuoted (s : List Char) : Bool := canBeRaw s && !hasBlankBehindBreak s

/-- Whether a text can be a literal block. -/
def canBeLiteral (s : List Char) : Bool := canBeRaw s && s.getLast? != some ' '

/-! ### Quoted forms -/

/-- The spaces before a text at a depth. -/
def margin (depth : Nat) : List Char := List.replicate depth ' '

/-- A text in which every line starts at a depth. Empty lines stay empty. -/
def atDepth (depth : Nat) : Bool → List Char → List Char
  | _, [] => []
  | startsLine, c :: rest =>
    if isBreak c then c :: atDepth depth true rest
    else (if startsLine then margin depth else []) ++ c :: atDepth depth false rest

/-- A text in single quotes. -/
def singleQuoted (depth : Nat) (s : List Char) : List Char :=
  let doubled := s.flatMap fun c => if c = '\'' then ['\'', '\''] else [c]
  '\'' :: atDepth depth false (doubled ++ ['\''])

/-- A number in upper-case hexadecimal digits. -/
def hexDigits (width n : Nat) : List Char :=
  let digits := (Nat.toDigits 16 n).map Char.toUpper
  List.replicate (width - digits.length) '0' ++ digits

/-- An escape by code point. -/
def codeEscape (n : Nat) : List Char :=
  if n < 0x100 then '\\' :: 'x' :: hexDigits 2 n
  else if n < 0x10000 then '\\' :: 'u' :: hexDigits 4 n
  else '\\' :: 'U' :: hexDigits 8 n

/-- One character in double quotes. -/
def escapeChar (c : Char) : List Char :=
  match c.toNat with
  | 0x00 => ['\\', '0']
  | 0x07 => ['\\', 'a']
  | 0x08 => ['\\', 'b']
  | 0x09 => ['\\', 't']
  | 0x0A => ['\\', 'n']
  | 0x0B => ['\\', 'v']
  | 0x0C => ['\\', 'f']
  | 0x0D => ['\\', 'r']
  | 0x1B => ['\\', 'e']
  | 0x22 => ['\\', '"']
  | 0x5C => ['\\', '\\']
  | 0x85 => ['\\', 'N']
  | 0x2028 => ['\\', 'L']
  | 0x2029 => ['\\', 'P']
  | n => if isPrintable c then [c] else codeEscape n

/-- A text in double quotes. -/
def doubleQuoted (s : List Char) : List Char := '"' :: s.flatMap escapeChar ++ ['"']

/-! ### Literal blocks -/

/-- How a literal block treats its line breaks at the end: none, one, or all of them. -/
def chomping (s : List Char) : List Char :=
  match s.reverse with
  | [] => ['-']
  | c :: before => if !isBreak c then ['-'] else if before.head?.all isBreak then ['+'] else []

/-- The first line of a literal block. The depth is told when the text starts with a gap. -/
def literalHead (s : List Char) : List Char :=
  '|' :: (if s.head?.any fun c => c == ' ' || isBreak c then ['2'] else []) ++ chomping s ++ ['\n']

/-- A text as a literal block. -/
def literal (depth : Nat) (s : List Char) : List Char := literalHead s ++ atDepth depth true s

/-! ### The form of a text -/

/-- A text as a value whose other lines stand at a depth. -/
def scalar (depth : Nat) (text : String) : List Char :=
  let s := text.toList
  if s.contains '\n' then if canBeLiteral s then literal depth s else doubleQuoted s
  else if canBePlain s && !Word.isAmbiguous text then s
  else if canBeSingleQuoted s then singleQuoted depth s
  else doubleQuoted s

/-- A text as a key, which has to be in one line. -/
def key (text : String) : List Char :=
  let s := text.toList
  if s.any isBreak then doubleQuoted s else scalar 0 text

end Fixtures.Yaml.Written
