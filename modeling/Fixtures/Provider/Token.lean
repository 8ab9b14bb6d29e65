import Fixtures.Text.Visible

/-!
# `Fixtures.Provider.Token`: the tokens of a provider source

A token is an identifier, a literal or a fixed symbol, together with the place where it starts.
Places count the bytes of the UTF-8 form. `TokenKind.label` is how a message names a token.
-/

set_option autoImplicit false

namespace Fixtures.Provider

/-- The kinds of tokens. -/
inductive TokenKind where
  | ident (name : String)
  | text (value : String)
  | int (value : Nat)
  | openParen | closeParen | openBracket | closeBracket
  | comma | dot | question | colon | arrow
  | equal | notEqual | and | or | plus | bang
deriving DecidableEq

namespace TokenKind

/-- The name of a token in messages. -/
def label : TokenKind → String
  | ident name => "Ident(" ++ Text.Visible.shown name ++ ")"
  | text value => "Str(" ++ Text.Visible.shown value ++ ")"
  | int value => "Int(" ++ toString value ++ ")"
  | openParen => "LParen"
  | closeParen => "RParen"
  | openBracket => "LBracket"
  | closeBracket => "RBracket"
  | comma => "Comma"
  | dot => "Dot"
  | question => "Question"
  | colon => "Colon"
  | arrow => "Arrow"
  | equal => "EqEq"
  | notEqual => "NotEq"
  | and => "AndAnd"
  | or => "OrOr"
  | plus => "Plus"
  | bang => "Bang"

end TokenKind

/-- A token and the byte offset of its first character. -/
structure Token where
  kind : TokenKind
  offset : Nat
deriving DecidableEq

end Fixtures.Provider
