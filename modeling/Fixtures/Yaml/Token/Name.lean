import Fixtures.Text.Hex
import Fixtures.Yaml.Cursor
import Fixtures.Yaml.Token

/-!
# `Fixtures.Yaml.Token.Name`: anchors, tags and directives

The tokens that are told by an indicator and a name behind it. A tag is a handle and a suffix, and
a directive says which version of the format a document is in or what a handle stands for.
-/

set_option autoImplicit false

namespace Fixtures.Yaml

/-- The name of an anchor or an alias behind its indicator. -/
def anchorNameAt? (c : Cursor) : Option (String × Cursor) :=
  let name := (c.past 1).rest.takeWhile isNameChar
  let behind := (c.past 1).past name.length
  if name.isEmpty then none
  else if behind.meetsGap || behind.meetsAny ['?', ':', ',', ']', '\x7d', '%', '@', '\x60'].contains
  then some (String.ofList name, behind)
  else none

/-! ### Tags -/

/-- The marks that tags can hold besides the characters of names. -/
def tagMarks : List Char :=
  [';', '/', '?', ':', '@', '&', '=', '+', '$', '.', '%', '!', '~', '*', '\'', '(', ')']

/-- The characters of tags. Within angle brackets commas and brackets are among them. -/
def isTagChar (inAngles : Bool) (c : Char) : Bool :=
  isNameChar c || tagMarks.contains c || (inAngles && [',', '[', ']'].contains c)

/-- An octet written as a percent sign and two digits. -/
def octetAt? : List Char → Option Nat
  | '%' :: a :: b :: _ => Text.Hex.value? [a, b]
  | _ => none

/-- The length in octets of a character by its first octet. -/
def octetCount? (first : Nat) : Option Nat :=
  if first < 0x80 then some 1
  else if first < 0xC0 then none
  else if first < 0xE0 then some 2
  else if first < 0xF0 then some 3
  else if first < 0xF8 then some 4
  else none

/-- The value of octets that follow the first one of a character. -/
def followingOctets? (value : Nat) : Nat → List Char → Option Nat
  | 0, _ => some value
  | n + 1, s =>
    (octetAt? s).bind fun octet =>
      if octet / 64 = 2 then followingOctets? (value * 64 + octet % 64) n (s.drop 3) else none

/-- The character written as octets at the front, and how many octets follow the first. -/
def octetCharAt? (s : List Char) : Option (Char × Nat) := do
  let first ← octetAt? s
  let n ← octetCount? first
  let start := if n = 1 then first else first % Nat.pow 2 (7 - n)
  let value ← followingOctets? start (n - 1) (s.drop 3)
  return (Char.ofNat value, n - 1)

/-- The rest of a tag, behind the characters `done` in reverse. -/
def tagTextAt? (inAngles : Bool) (done : List Char) (c : Cursor) : Option (List Char × Cursor) :=
  if h : c.meetsAny (isTagChar inAngles) = true then
    if c.meets '%' then
      (octetCharAt? c.rest).bind fun (char, n) =>
        have := Cursor.length_past_lt (Nat.succ_pos (3 * n + 2)) h
        tagTextAt? inAngles (char :: done) (c.past (3 * n + 3))
    else
      have := Cursor.length_past_lt Nat.one_pos h
      tagTextAt? inAngles (c.rest.headD ' ' :: done) (c.past 1)
  else some (done.reverse, c)
termination_by c.rest.length

/-- The handle of a tag. One without an exclamation mark at its end may be the start of a
suffix. -/
def handleAt? (c : Cursor) : Option (List Char × Cursor) :=
  if !c.meets '!' then none
  else
    let name := (c.past 1).rest.takeWhile isNameChar
    let behind := (c.past 1).past name.length
    if behind.meets '!' then some ('!' :: name ++ ['!'], behind.past 1)
    else some ('!' :: name, behind)

/-- Whether a handle stands for what a directive says. -/
def isNamedHandle (handle : List Char) : Bool := 1 < handle.length && handle.getLast? == some '!'

/-- A tag in angle brackets. -/
def verbatimTagAt? (c : Cursor) : Option (Token × Cursor) :=
  (tagTextAt? true [] (c.past 2)).bind fun (text, behind) =>
    if text.isEmpty || !behind.meets '>' then none
    else some (.tag "" (String.ofList text), behind.past 1)

/-- A tag of a handle and a suffix. A lone exclamation mark is a suffix. -/
def shortTagAt? (c : Cursor) : Option (Token × Cursor) :=
  (handleAt? c).bind fun (handle, behind) =>
    if isNamedHandle handle then
      (tagTextAt? false [] behind).bind fun (suffix, behind) =>
        if suffix.isEmpty then none
        else some (.tag (String.ofList handle) (String.ofList suffix), behind)
    else
      (tagTextAt? false handle.tail.reverse behind).map fun (suffix, behind) =>
        if suffix.isEmpty then (.tag "" "!", behind)
        else (.tag "!" (String.ofList suffix), behind)

/-- A tag. What follows it has to be a gap, or a comma in flow style. -/
def tagAt? (inFlow : Bool) (c : Cursor) : Option (Token × Cursor) := do
  let (token, behind) ← if (c.past 1).meets '<' then verbatimTagAt? c else shortTagAt? c
  if behind.meetsGap || (inFlow && behind.meets ',') then return (token, behind) else none

/-! ### Directives -/

/-- A number of at most nine digits. -/
def versionNumberAt? (c : Cursor) : Option (Nat × Cursor) :=
  let digits := c.rest.takeWhile Char.isDigit
  if digits.isEmpty || 9 < digits.length then none
  else some (Nat.ofDigitChars 10 digits 0, c.past digits.length)

/-- The version that a directive gives. -/
def versionAt? (c : Cursor) : Option (Token × Cursor) := do
  let (major, c) ← versionNumberAt? (c.pastWhile isBlank)
  if !c.meets '.' then none
  let (minor, c) ← versionNumberAt? (c.past 1)
  return (.version major minor, c)

/-- The handle that a directive explains, and what it stands for. -/
def tagStartAt? (c : Cursor) : Option (Token × Cursor) := do
  let (handle, c) ← handleAt? (c.pastWhile isBlank)
  if handle.length ≠ 1 ∧ !isNamedHandle handle then none
  if !c.meetsAny isBlank then none
  let (start, c) ← tagTextAt? true [] (c.pastWhile isBlank)
  if start.isEmpty || !c.meetsGap then none
  return (.tagStart (String.ofList handle) (String.ofList start), c)

/-- A directive, which takes a line. -/
def directiveAt? (c : Cursor) : Option (Token × Cursor) := do
  let name := (c.past 1).rest.takeWhile isNameChar
  let behind := (c.past 1).past name.length
  if !behind.meetsGap then none
  let (token, c) ← match String.ofList name with
    | "YAML" => versionAt? behind
    | "TAG" => tagStartAt? behind
    | _ => none
  let c := c.pastRemark
  if c.meetsLineEnd then return (token, c.pastBreakIfAny) else none

end Fixtures.Yaml
