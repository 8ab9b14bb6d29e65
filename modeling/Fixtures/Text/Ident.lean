/-!
# `Fixtures.Text.Ident`: identifiers

Identifiers of generated source are ASCII: they start with a letter, `_` or `$` and go on with
letters, digits, `_` and `$`. Type names, provider inputs and constant names share this class.
-/

set_option autoImplicit false

namespace Fixtures.Text

/-- The characters an identifier may start with. -/
def isIdentStart (c : Char) : Bool :=
  c.isAlpha || c == '_' || c == '$'

/-- The characters an identifier may go on with. -/
def isIdentPart (c : Char) : Bool :=
  c.isAlphanum || c == '_' || c == '$'

/-- Whether a text is one identifier. -/
def isIdent (s : String) : Bool :=
  match s.toList with
  | [] => false
  | c :: cs => isIdentStart c && cs.all isIdentPart

/-- What may start an identifier may also continue one. -/
theorem isIdentPart_of_isIdentStart (c : Char) (h : isIdentStart c = true) :
    isIdentPart c = true := by
  simp only [isIdentStart, isIdentPart, Char.isAlphanum, Bool.or_eq_true] at h ⊢
  rcases h with (h | h) | h
  · exact .inl (.inl (.inl h))
  · exact .inl (.inr h)
  · exact .inr h

end Fixtures.Text
