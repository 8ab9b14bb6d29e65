import Fixtures.Proofs.Reading
import Fixtures.TypeRef.Parser

/-!
# `Fixtures.Proofs.TypeRef.Grammar`: the written forms of types

`Derives` is the grammar of written types, rule by rule:

    type = core { "[" "]" }
    core = name | name "<" type { "," type } ">"
         | "?" | "?" "extends" type | "?" "super" type

It relates a phrase to two texts, the one that starts with the phrase and the one that follows it,
and no rule looks at what follows. Blanks may stand in front of every token (`Lexeme`). A name is
one token (`IsName`), so there are none inside it. The words of a text are read as far as their
characters go, which is asked where a word could be cut short: the text after it `Ends` it.

Brackets can be given to a bounded wildcard as a whole or to its bound, so the texts of the grammar
have several derivations. They denote the same type (`Denotes.unique`), because brackets always
count for the bound (`bracketed`): an upper bound becomes an array with them, and with a lower bound
they are lost.
-/

set_option autoImplicit false

namespace Fixtures.TypeRef

open Text

/-! ### Tokens -/

/-- Blanks, then the word, and then the rest. The rest may begin with blanks again, which belong to
the next token. -/
def Lexeme (word s rest : List Char) : Prop := s.dropWhile isBlank = word ++ rest

/-- Identifiers joined by dots. There is at least one identifier, and no dot at either end. -/
inductive IsName : List Char → Prop
  | word {c : Char} {cs : List Char} (hc : isIdentStart c = true)
      (hcs : ∀ d ∈ cs, isIdentPart d = true) : IsName (c :: cs)
  | dotted {c : Char} {cs more : List Char} (hc : isIdentStart c = true)
      (hcs : ∀ d ∈ cs, isIdentPart d = true) (h : IsName more) : IsName (c :: cs ++ '.' :: more)

/-- An identifier is a name. -/
theorem isName_of_isIdent {w : String} (h : isIdent w = true) : IsName w.toList := by
  obtain ⟨c, cs, hcs, hc, hpart⟩ := exists_cons_of_isIdent h
  rw [hcs]
  exact .word hc hpart

/-- A name goes on behind an identifier and a dot. -/
theorem IsName.after {w : String} {more : List Char} (h : IsName more) (hw : isIdent w = true) :
    IsName (w.toList ++ '.' :: more) := by
  obtain ⟨c, cs, hcs, hc, hpart⟩ := exists_cons_of_isIdent hw
  rw [hcs]
  exact .dotted hc hpart h

/-- A name starts with the start of an identifier, so it is neither empty nor a symbol nor a blank.
-/
theorem IsName.exists_cons {name : List Char} (h : IsName name) :
    ∃ c cs, name = c :: cs ∧ isIdentStart c = true := by
  cases h with
  | word hc => exact ⟨_, _, rfl, hc⟩
  | dotted hc => exact ⟨_, _, rfl, hc⟩

/-! ### Phrases -/

/-- The parts of a written type, with what they denote. -/
inductive Phrase where
  /-- A type. It is `lower` when it ends in a lower bound, with which array brackets are lost. -/
  | type (t : TypeRef) (lower : Bool)
  /-- A type without array brackets of its own. -/
  | core (t : TypeRef) (lower : Bool)
  /-- Types with commas between them. -/
  | types (ts : List TypeRef)

/-- What a type denotes with array brackets after it. Behind a lower bound they are lost, because
such a wildcard denotes the root object type whatever its bound is. -/
def bracketed (t : TypeRef) (lower : Bool) : TypeRef := if lower then t else array t

/-- The phrase stands at the front of a text, in front of a rest. There is a rule for each form of
the grammar, which says what the form denotes. -/
inductive Derives : Phrase → List Char → List Char → Prop
  | core {t : TypeRef} {lower : Bool} {s rest : List Char}
      (h : Derives (.core t lower) s rest) : Derives (.type t lower) s rest
  | brackets {t : TypeRef} {lower : Bool} {s s₁ s₂ rest : List Char}
      (h : Derives (.type t lower) s s₁) (ho : Lexeme ['['] s₁ s₂) (hc : Lexeme [']'] s₂ rest) :
      Derives (.type (bracketed t lower) lower) s rest
  | primitive {kind : Primitive} {s rest : List Char} (h : Lexeme kind.keyword.toList s rest)
      (hend : Ends isIdentPart rest) : Derives (.core (.primitive kind) false) s rest
  | raw {name : String} {s rest : List Char} (hname : IsName name.toList)
      (hkey : Primitive.ofKeyword? name = none) (h : Lexeme name.toList s rest)
      (hend : Ends isIdentPart rest) : Derives (.core (named name) false) s rest
  | generic {name : String} {arguments : List TypeRef} {s s₁ s₂ s₃ rest : List Char}
      (hname : IsName name.toList) (hkey : Primitive.ofKeyword? name = none)
      (h : Lexeme name.toList s s₁) (ho : Lexeme ['<'] s₁ s₂)
      (harguments : Derives (.types arguments) s₂ s₃) (hc : Lexeme ['>'] s₃ rest) :
      Derives (.core (declared name arguments) false) s rest
  | unbounded {s rest : List Char} (h : Lexeme ['?'] s rest) :
      Derives (.core (named objectName) false) s rest
  | upper {t : TypeRef} {lower : Bool} {s s₁ s₂ rest : List Char} (h : Lexeme ['?'] s s₁)
      (hword : Lexeme "extends".toList s₁ s₂) (hend : Ends isIdentPart s₂)
      (hbound : Derives (.type t lower) s₂ rest) : Derives (.core t lower) s rest
  | lower {t : TypeRef} {lower : Bool} {s s₁ s₂ rest : List Char} (h : Lexeme ['?'] s s₁)
      (hword : Lexeme "super".toList s₁ s₂) (hend : Ends isIdentPart s₂)
      (hbound : Derives (.type t lower) s₂ rest) : Derives (.core (named objectName) true) s rest
  | single {t : TypeRef} {lower : Bool} {s rest : List Char}
      (h : Derives (.type t lower) s rest) : Derives (.types [t]) s rest
  | more {t : TypeRef} {lower : Bool} {ts : List TypeRef} {s s₁ s₂ rest : List Char}
      (h : Derives (.type t lower) s s₁) (hc : Lexeme [','] s₁ s₂)
      (hts : Derives (.types ts) s₂ rest) : Derives (.types (t :: ts)) s rest

/-- The text is a written form of the type, with blanks at its end or not. Blanks at its front are
those of the first token. -/
def Denotes (text : String) (t : TypeRef) : Prop :=
  ∃ lower rest, Derives (.type t lower) text.toList rest ∧ ∀ c ∈ rest, isBlank c = true

end Fixtures.TypeRef
