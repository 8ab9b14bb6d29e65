import Fixtures.Provider.Expr
import Fixtures.Provider.Token

/-!
# `Fixtures.Provider.CompileFault`: why a source is no provider

The two kinds of failure are kept apart: a source that holds statements (`isStatement`) is a
body of a form that providers do not have, every other failure is a malformed expression.
-/

set_option autoImplicit false

namespace Fixtures.Provider

/-- What was missing at some place of a source. -/
inductive Missing where
  | colon | closeBracket | closeParen | commaOrCloseParen
deriving DecidableEq

/-- The missing token in messages. -/
def Missing.label : Missing → String
  | colon => "':'"
  | closeBracket => "']'"
  | closeParen => "')'"
  | commaOrCloseParen => "',' or ')'"

/-- Why a source does not compile. -/
inductive CompileFault where
  /-- A brace or semicolon. -/
  | block (c : Char) (offset : Nat)
  /-- A word that only statements have. -/
  | keyword (word : String) (offset : Nat)
  /-- A string literal without its closing quote. -/
  | unterminated (offset : Nat)
  /-- An integer literal that is too large. -/
  | integerRange (digits : String)
  /-- A character that starts no token. -/
  | strayCharacter (c : Char) (offset : Nat)
  /-- A header that names both inputs alike. -/
  | sameInputs (name : String)
  /-- A token that cannot stand where it does. -/
  | unexpected (token : Token)
  /-- The source ends where an operand should start. -/
  | endOfInput (offset : Nat)
  /-- Another token, or none, where `what` should stand. -/
  | missing (what : Missing) (found : Option Token)
  /-- The source ends after a dot. -/
  | missingProperty
  | unknownProperty (name : String)
  | unknownMethod (name : String)
  | methodArity (name : String) (supplied : Nat)
  | unknownFunction (name : String)
  | functionArity (function : Builtin) (supplied : Nat)
  /-- A name that is neither of the two inputs. -/
  | unknownName (name : String) (offset : Nat)
deriving DecidableEq

namespace CompileFault

/-- Whether the source holds a statement. -/
def isStatement : CompileFault → Bool
  | block _ _ | keyword _ _ => true
  | _ => false

/-- The fault in words. -/
def detail : CompileFault → String
  | block c offset =>
    "'" ++ c.toString ++ "' at offset " ++ toString offset
      ++ "; only a single expression is allowed"
  | keyword word offset => "statement keyword '" ++ word ++ "' at offset " ++ toString offset
  | unterminated offset => "unterminated string at offset " ++ toString offset
  | integerRange digits => "integer '" ++ digits ++ "' out of range"
  | strayCharacter c offset =>
    "unexpected character '" ++ c.toString ++ "' at offset " ++ toString offset
  | sameInputs name => "lambda parameters must be distinct, got '" ++ name ++ "' twice"
  | unexpected token =>
    "unexpected " ++ token.kind.label ++ " at offset " ++ toString token.offset
  | endOfInput offset => "unexpected end of input at offset " ++ toString offset
  | missing what (some token) =>
    "expected " ++ what.label ++ " at offset " ++ toString token.offset
      ++ ", found " ++ token.kind.label
  | missing what none => "expected " ++ what.label ++ ", found end of input"
  | missingProperty => "expected identifier after '.'"
  | unknownProperty name => "unknown property '" ++ name ++ "'"
  | unknownMethod name => "unknown method '" ++ name ++ "'"
  | methodArity name supplied =>
    name ++ "() does not take " ++ toString supplied ++ " argument(s)"
  | unknownFunction name => "unknown function '" ++ name ++ "'"
  | functionArity function supplied =>
    function.name ++ "() takes " ++ toString function.arity ++ " argument(s), got "
      ++ toString supplied
  | unknownName name offset => "unknown name '" ++ name ++ "' at offset " ++ toString offset

/-- The message of the fault. -/
def message (fault : CompileFault) : String :=
  (if fault.isStatement then "Unsupported provider body: " else "Malformed provider expression: ")
    ++ fault.detail

end CompileFault

end Fixtures.Provider
