import Fixtures.Provider.CompileFault
import Fixtures.Text.Blank
import Fixtures.Text.Ident
import Fixtures.Text.Reading

/-!
# `Fixtures.Provider.Lexer`: from a source to its tokens

Tokens are read from the left, each as long as possible. Blanks separate tokens and mean nothing
else. A brace, a semicolon or a statement word ends the reading at once, wherever it stands
outside a string literal, so a source with statements is told apart from one with a mistake in
its expression. String literals stand between single or double quotes; a backslash gives line
feed, carriage return and tab their letters and makes any other character stand for itself.
-/

set_option autoImplicit false

namespace Fixtures.Provider

open Fixtures.Text

/-- The words that only statements have. They are no names in an expression either. -/
def statementWords : List String := ["return", "var", "let", "if", "for", "while"]

/-- The largest integer of the expression language. -/
def maxInt : Nat := 9223372036854775807

/-- The number of bytes of the UTF-8 form. -/
def utf8Length (s : List Char) : Nat :=
  s.foldl (fun n c => n + c.utf8Size) 0

/-- What an escaped character stands for. -/
def unescape : Char → Char
  | 'n' => '\n'
  | 't' => '\t'
  | 'r' => '\r'
  | c => c

/-- The rest of a string literal after its opening quote: its text, and what follows the closing
quote. There is none if the literal is not closed. -/
def literalAt? (quote : Char) : (s : List Char) → Option (Reading s (List Char))
  | [] => none
  | c :: rest =>
    if c = quote then
      some (.next [])
    else if c = '\\' then
      match rest with
      | [] => none
      | d :: rest =>
        (literalAt? quote rest).map fun r =>
          (r.map (unescape d :: ·)).after.after
    else
      (literalAt? quote rest).map fun r => (r.map (c :: ·)).after

/-- The symbols of two characters. -/
def longSymbol? : Char → Char → Option TokenKind
  | '-', '>' => some .arrow
  | '=', '=' => some .equal
  | '!', '=' => some .notEqual
  | '&', '&' => some .and
  | '|', '|' => some .or
  | _, _ => none

/-- The symbols of one character. -/
def shortSymbol? : Char → Option TokenKind
  | '(' => some .openParen
  | ')' => some .closeParen
  | '[' => some .openBracket
  | ']' => some .closeBracket
  | ',' => some .comma
  | '.' => some .dot
  | '?' => some .question
  | ':' => some .colon
  | '+' => some .plus
  | '!' => some .bang
  | _ => none

/-- The symbol that starts with `c`, the longer one if there is one. Two symbols may begin alike,
such as the negation and the inequality. -/
def symbolAt? (c : Char) (s : List Char) : Option (Reading s TokenKind) :=
  match s with
  | [] => (shortSymbol? c).map fun kind => .here kind
  | d :: _ =>
    match longSymbol? c d with
    | some kind => some (.next kind)
    | none => (shortSymbol? c).map fun kind => .here kind

/-- The token that starts with the non-blank character `c` at `offset`, where `s` follows. What is
no token is an error here, and among the errors are all the signs of statements. -/
def tokenAt (offset : Nat) (c : Char) (s : List Char) :
    Except CompileFault (Reading s TokenKind) :=
  if c = '{' ∨ c = '}' ∨ c = ';' then
    .error (.block c offset)
  else if c = '"' ∨ c = '\'' then
    match literalAt? c s with
    | none => .error (.unterminated offset)
    | some r => .ok (r.map fun value => .text (String.ofList value))
  else if c.isDigit then
    let digits := c :: s.takeWhile Char.isDigit
    let value := Nat.ofDigitChars 10 digits 0
    if value ≤ maxInt then
      .ok ⟨.int value, s.dropWhile Char.isDigit, length_dropWhile_le _ _⟩
    else
      .error (.integerRange (String.ofList digits))
  else if isIdentStart c then
    let word := String.ofList (c :: s.takeWhile isIdentPart)
    if statementWords.contains word then
      .error (.keyword word offset)
    else
      .ok ⟨.ident word, s.dropWhile isIdentPart, length_dropWhile_le _ _⟩
  else
    match symbolAt? c s with
    | some r => .ok r
    | none => .error (.strayCharacter c offset)

/-- The tokens of the end `s` of a source of `total` bytes. Each of them keeps its offset for
messages. -/
def tokensFrom (total : Nat) (s : List Char) : Except CompileFault (List Token) :=
  match s with
  | [] => .ok []
  | c :: rest =>
    if isBlank c then
      tokensFrom total rest
    else
      let offset := total - utf8Length (c :: rest)
      match tokenAt offset c rest with
      | .error fault => .error fault
      | .ok r =>
        have := r.rest_le
        match tokensFrom total r.rest with
        | .error fault => .error fault
        | .ok tokens => .ok (⟨r.value, offset⟩ :: tokens)
termination_by s.length
decreasing_by all_goals simp only [List.length_cons]; omega

/-- The tokens of a source. -/
def tokens (source : String) : Except CompileFault (List Token) :=
  tokensFrom source.utf8ByteSize source.toList

end Fixtures.Provider
